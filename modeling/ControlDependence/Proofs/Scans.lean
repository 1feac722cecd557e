-- SUMMARY: The check as two scans that keep all they have read, which it agrees with whatever order it takes.
import Mathlib.Data.Prod.Lex
import ControlDependence.Graph.Body

/-!
# Plain scans

The check keeps one array of stamps for all lists and one set of edges, from which the
second scan takes away. `Wiring.plainCheck` does the same with a list of what was seen
in each adjacency list, and keeps the lists of positions of both scans to the end.

The two go in step (`Alike`): within one list, a position bears the stamp of its owner
exactly if it has been seen, because all stamps of earlier lists are smaller
(`Ledger.Tells`); and the set holds the edges that were read first and have not been met
again. What is left of it in the end is the same set for any traversal, and so is its
least edge (`Wiring.checkIn_eq_plainCheck`).
-/
namespace ControlDependence

namespace Wiring

/-! ## The plain check -/

/-- Resolves an adjacency list in order. `seen` holds the positions found so far,
and `accept` is a further test that every new position has to pass. -/
def resolveAll (w : Wiring) (owner : Nat) (role : Role) (accept : Nat → Except Fault Unit) :
    List Nat → List Neighbour → Except Fault (List Nat)
  | seen, [] => .ok seen.reverse
  | seen, n :: rest => do
    let j ← w.resolve owner role n
    if j ∈ seen then throw ⟨owner, j, .duplicateNeighbour role⟩
    accept j
    w.resolveAll owner role accept (j :: seen) rest

/-- The successor positions of the instruction at `i`. -/
def scanSuccs (w : Wiring) (i : Nat) : Except Fault (List Nat) :=
  match w.node? i with
  | none => .error ⟨i, -1, .missingInstruction⟩
  | some n =>
    if n.index ≠ i then .error ⟨i, -1, .misplacedIndex⟩
    else w.resolveAll i .successor (fun _ => .ok ()) [] n.succs

/-- The predecessor positions of the instruction at `j`, each of which has to
name `j` in its own successor list. -/
def scanPreds (w : Wiring) (succs : Array (List Nat)) (j : Nat) : Except Fault (List Nat) :=
  match w.node? j with
  | none => .error ⟨j, -1, .missingInstruction⟩
  | some n =>
    w.resolveAll j .predecessor
      (fun i => if j ∈ succs.getD i [] then .ok () else .error ⟨j, i, .unreciprocated .predecessor⟩)
      [] n.preds

/-- The least successor of `i` that does not name `i` as a predecessor. -/
def unanswered? (succs preds : Array (List Nat)) (i : Nat) : Option Nat :=
  ((succs.getD i []).filter fun j => i ∉ preds.getD j []).min?

/-- The check with all lists of positions at hand. -/
def plainCheck (w : Wiring) : Except Fault Unit := do
  let succs ← (Array.range w.size).mapM w.scanSuccs
  let preds ← (Array.range w.size).mapM (w.scanPreds succs)
  let least := (List.range w.size).findSome? fun i => (unanswered? succs preds i).map (i, ·)
  match least with
  | some (i, j) => throw ⟨i, j, .unreciprocated .successor⟩
  | none => return ()

end Wiring

/-! ## Computations in step -/

/-- Two computations fail with the same fault or come to related values. -/
inductive Alike {α β : Type} (R : α → β → Prop) : Except Fault α → Except Fault β → Prop where
  | ok {a : α} {b : β} (h : R a b) : Alike R (.ok a) (.ok b)
  | error (f : Fault) : Alike R (.error f) (.error f)

namespace Alike

variable {α β γ δ : Type} {R : α → β → Prop} {S : γ → δ → Prop}

theorem bind {x : Except Fault α} {y : Except Fault β} {f : α → Except Fault γ} {g : β → Except Fault δ}
    (h : Alike R x y) (hnext : ∀ a b, R a b → Alike S (f a) (g b)) : Alike S (x >>= f) (y >>= g) := by
  cases h with
  | ok hab => exact hnext _ _ hab
  | error e => exact .error e

theorem mono {T : α → β → Prop} {x : Except Fault α} {y : Except Fault β} (h : Alike R x y)
    (hRT : ∀ a b, R a b → T a b) : Alike T x y := by
  cases h with
  | ok hab => exact .ok (hRT _ _ hab)
  | error e => exact .error e

theorem eq {x y : Except Fault α} (h : Alike (· = ·) x y) : x = y := by
  cases h with
  | ok hab => rw [hab]
  | error e => rfl

/-- A loop over positions that carries a state goes in step with one that collects results, if
each round does. -/
theorem foldlM_mapM {R : List β → α → Prop} {f : α → Nat → Except Fault α} {g : Nat → Except Fault β}
    {a : α} {n : Nat} (hstart : R [] a)
    (hround : ∀ bs a, R bs a → Alike (fun a' b => R (bs ++ [b]) a') (f a bs.length) (g bs.length)) :
    Alike (fun a' bs => R bs a' ∧ bs.length = n) ((List.range n).foldlM f a) ((List.range n).mapM g) := by
  induction n with
  | zero => exact .ok ⟨hstart, rfl⟩
  | succ n ih =>
    rw [List.range_succ, List.foldlM_append, List.mapM_append]
    refine ih.bind ?_
    rintro a' bs ⟨hbs, rfl⟩
    have hlast := hround bs a' hbs
    simp only [List.foldlM_cons, List.foldlM_nil, List.mapM_cons, List.mapM_nil, bind_assoc, pure_bind]
    refine hlast.bind ?_
    intro a'' b hb
    exact .ok ⟨hb, by simp⟩

end Alike

/-! ## Stamps -/

namespace Ledger

variable {l : Ledger} {size owner j : Nat} {seen : List Nat}

/-- No list from that of `owner` on has been begun. -/
structure Fresh (l : Ledger) (size owner : Nat) : Prop where
  size_eq : l.stamps.size = size
  le : ∀ j, l.stamps.getD j 0 ≤ owner

/-- The list of `owner` has been gone through up to the positions `seen`, and no later list has been
begun. -/
structure Tells (l : Ledger) (size owner : Nat) (seen : List Nat) : Prop where
  fresh : l.Fresh size (owner + 1)
  isStamped_iff : ∀ j, l.isStamped owner j = true ↔ j ∈ seen

theorem fresh_empty (size : Nat) : (empty size).Fresh size 0 where
  size_eq := by simp [empty]
  le j := by
    rw [Array.getD_eq_getD_getElem?]
    simp only [empty, Array.getElem?_replicate]
    split <;> simp

theorem Fresh.clear (h : l.Fresh size owner) : l.clear.Fresh size 0 where
  size_eq := by simpa [Ledger.clear] using h.size_eq
  le j := by
    rw [Array.getD_eq_getD_getElem?]
    simp only [Ledger.clear, Array.getElem?_map]
    cases l.stamps[j]? <;> simp

/-- At the beginning of a list all stamps are from earlier ones. -/
theorem Fresh.tells (h : l.Fresh size owner) : l.Tells size owner [] where
  fresh := ⟨h.size_eq, fun j => (h.le j).trans (Nat.le_succ owner)⟩
  isStamped_iff j := by
    have hle := h.le j
    simp only [isStamped, decide_eq_true_eq, List.not_mem_nil, iff_false]
    omega

theorem getD_stamp (hj : j < l.stamps.size) (owner k : Nat) :
    (l.stamp owner j).stamps.getD k 0 = if k = j then owner + 1 else l.stamps.getD k 0 := by
  simp only [Array.getD_eq_getD_getElem?, Ledger.stamp, Array.getElem?_setIfInBounds]
  by_cases hk : k = j
  · simp [hk, hj]
  · simp [hk, Ne.symm hk]

theorem Tells.stamp (h : l.Tells size owner seen) (hj : j < size) :
    (l.stamp owner j).Tells size owner (j :: seen) := by
  have hget := getD_stamp (h.fresh.size_eq ▸ hj) owner
  refine ⟨⟨?_, fun k => ?_⟩, fun k => ?_⟩
  · simpa [Ledger.stamp] using h.fresh.size_eq
  · have hle := h.fresh.le k
    rw [hget]
    split <;> omega
  · have hk := h.isStamped_iff k
    simp only [isStamped, decide_eq_true_eq] at hk ⊢
    rw [hget, List.mem_cons]
    split
    · simp [*]
    · rw [hk]
      simp [*]

/-- Only the stamps tell. -/
theorem Tells.of_stamps_eq {l' : Ledger} (h : l.Tells size owner seen) (hl : l'.stamps = l.stamps) :
    l'.Tells size owner seen := by
  refine ⟨⟨hl ▸ h.fresh.size_eq, hl ▸ h.fresh.le⟩, fun k => ?_⟩
  rw [← h.isStamped_iff, isStamped, isStamped, hl]

theorem mem_note {e e' : Nat × Nat} : e' ∈ (l.note e).unanswered ↔ e' = e ∨ e' ∈ l.unanswered := by
  rw [note, Std.TreeSet.mem_insert, Std.LawfulEqCmp.compare_eq_iff_eq, eq_comm]

theorem mem_crossOff {e e' : Nat × Nat} : e' ∈ (l.crossOff e).unanswered ↔ e' ≠ e ∧ e' ∈ l.unanswered := by
  rw [crossOff, Std.TreeSet.mem_erase, ne_eq, Std.LawfulEqCmp.compare_eq_iff_eq, eq_comm, ne_eq]

/-- The successor lists `succs` have been noted down. -/
structure Notes (l : Ledger) (size : Nat) (succs : List (List Nat)) : Prop where
  fresh : l.Fresh size succs.length
  mem_iff : ∀ e, e ∈ l.unanswered ↔ e.2 ∈ succs.getD e.1 []

/-- Of the successor lists, what the predecessor lists `preds` mention has been crossed off. -/
structure Leaves (l : Ledger) (size : Nat) (succs preds : List (List Nat)) : Prop where
  fresh : l.Fresh size preds.length
  mem_iff : ∀ e, e ∈ l.unanswered ↔ e.2 ∈ succs.getD e.1 [] ∧ e.1 ∉ preds.getD e.2 []

end Ledger

namespace Wiring

variable {w : Wiring} {l : Ledger} {i j : Nat} {seen : List Nat}

theorem lt_size_of_resolve {owner : Nat} {role : Role} {n : Neighbour} (h : w.resolve owner role n = .ok j) :
    j < w.size := by
  unfold resolve at h
  split at h
  · cases h
  · split at h
    · cases h
    · split at h
      · cases h
        omega
      · cases h

/-! ## One list -/

/-- Going through a successor list notes down its edges beside those that are there. -/
theorem alike_noteSucc {P : Nat × Nat → Prop} (ns : List Neighbour) (htells : l.Tells w.size i seen)
    (hnoted : ∀ e, e ∈ l.unanswered ↔ P e ∨ e.1 = i ∧ e.2 ∈ seen) :
    Alike (fun l' js => l'.Fresh w.size (i + 1) ∧ ∀ e, e ∈ l'.unanswered ↔ P e ∨ e.1 = i ∧ e.2 ∈ js)
      (ns.foldlM (w.noteSucc i) l) (w.resolveAll i .successor (fun _ => .ok ()) seen ns) := by
  induction ns generalizing l seen with
  | nil => exact .ok ⟨htells.fresh, by simpa using hnoted⟩
  | cons n ns ih =>
    rw [List.foldlM_cons, resolveAll, noteSucc]
    cases hj : w.resolve i .successor n with
    | error f => exact .error f
    | ok j =>
      have hstamped := htells.isStamped_iff j
      by_cases hseen : j ∈ seen
      · simp only [bind, Except.bind, hseen, hstamped.2 hseen, if_true]
        exact .error _
      · have hnot : l.isStamped i j = false := by simpa using mt hstamped.1 hseen
        simp only [bind, Except.bind, hseen, hnot, if_false]
        refine ih ((htells.stamp (lt_size_of_resolve hj)).of_stamps_eq rfl) ?_
        intro e
        have he : e = (i, j) ↔ e.1 = i ∧ e.2 = j := Prod.ext_iff
        rw [Ledger.mem_note, he, Ledger.stamp, hnoted, List.mem_cons]
        tauto

/-- Going through a predecessor list crosses its edges off. A position that has not been seen in the
list is still the source of an edge if it was so before the list. -/
theorem alike_crossOffPred {P : Nat × Nat → Prop} (succs : Array (List Nat)) (ns : List Neighbour)
    (hP : ∀ i, P (i, j) ↔ j ∈ succs.getD i []) (htells : l.Tells w.size j seen)
    (hleft : ∀ e, e ∈ l.unanswered ↔ P e ∧ ¬ (e.2 = j ∧ e.1 ∈ seen)) :
    Alike (fun l' is => l'.Fresh w.size (j + 1) ∧ ∀ e, e ∈ l'.unanswered ↔ P e ∧ ¬ (e.2 = j ∧ e.1 ∈ is))
      (ns.foldlM (w.crossOffPred j) l)
      (w.resolveAll j .predecessor
        (fun i => if j ∈ succs.getD i [] then .ok () else .error ⟨j, i, .unreciprocated .predecessor⟩) seen ns) := by
  induction ns generalizing l seen with
  | nil => exact .ok ⟨htells.fresh, by simpa using hleft⟩
  | cons n ns ih =>
    rw [List.foldlM_cons, resolveAll, crossOffPred]
    cases hi : w.resolve j .predecessor n with
    | error f => exact .error f
    | ok i =>
      have hstamped := htells.isStamped_iff i
      by_cases hseen : i ∈ seen
      · simp only [bind, Except.bind, hseen, hstamped.2 hseen, if_true]
        exact .error _
      · have hnot : l.isStamped j i = false := by simpa using mt hstamped.1 hseen
        have hmem : (i, j) ∈ l.unanswered ↔ j ∈ succs.getD i [] := by
          rw [hleft, hP]
          simp [hseen]
        by_cases hanswers : j ∈ succs.getD i []
        · simp only [bind, Except.bind, hseen, hnot, hmem, hanswers, if_true, if_false, not_true_eq_false]
          refine ih ((htells.stamp (lt_size_of_resolve hi)).of_stamps_eq rfl) ?_
          intro e
          have he : e = (i, j) ↔ e.1 = i ∧ e.2 = j := Prod.ext_iff
          rw [Ledger.mem_crossOff, ne_eq, he, Ledger.stamp, hleft, List.mem_cons]
          tauto
        · simp only [bind, Except.bind, hseen, hnot, hmem, hanswers, if_true, if_false, not_false_eq_true]
          exact .error _

/-! ## One scan -/

theorem mem_getD_concat {bs : List (List Nat)} {b : List Nat} {i j : Nat} :
    j ∈ (bs ++ [b]).getD i [] ↔ j ∈ bs.getD i [] ∨ i = bs.length ∧ j ∈ b := by
  rw [List.getD_eq_getElem?_getD, List.getD_eq_getElem?_getD, List.getElem?_append]
  by_cases hi : i < bs.length
  · simp [hi, Nat.ne_of_lt hi]
  · by_cases heq : i = bs.length
    · simp [heq]
    · have hnone : [b][i - bs.length]? = none := List.getElem?_eq_none (by simp; omega)
      simp [hi, heq, hnone]

/-- The first scan notes down the edges of the lists that it reads. -/
theorem alike_noteSuccs (w : Wiring) :
    Alike (fun l succs => l.Notes w.size succs ∧ succs.length = w.size)
      ((List.range w.size).foldlM w.noteSuccs (.empty w.size)) ((List.range w.size).mapM w.scanSuccs) := by
  apply Alike.foldlM_mapM (R := fun succs l => Ledger.Notes l w.size succs)
  · exact ⟨Ledger.fresh_empty w.size, by simp [Ledger.empty]⟩
  · rintro succs l ⟨hfresh, hnoted⟩
    rw [noteSuccs, scanSuccs]
    cases w.node? succs.length with
    | none => exact .error _
    | some n =>
      dsimp only
      split
      · exact .error _
      · have hlist := alike_noteSucc (P := fun e => e.2 ∈ succs.getD e.1 []) n.succs hfresh.tells
          (by simpa using hnoted)
        refine hlist.mono ?_
        rintro l' js ⟨hfresh', hnoted'⟩
        refine ⟨by simpa using hfresh', fun e => ?_⟩
        rw [hnoted', mem_getD_concat]

/-- The second scan leaves the edges that the lists which it reads do not mention. -/
theorem alike_crossOffPreds {succs : List (List Nat)} (h : l.Leaves w.size succs []) :
    Alike (fun l' preds => l'.Leaves w.size succs preds ∧ preds.length = w.size)
      ((List.range w.size).foldlM w.crossOffPreds l) ((List.range w.size).mapM (w.scanPreds succs.toArray)) := by
  apply Alike.foldlM_mapM (R := fun preds l' => Ledger.Leaves l' w.size succs preds) h
  rintro preds l' ⟨hfresh, hleft⟩
  rw [crossOffPreds, scanPreds]
  cases w.node? preds.length with
  | none => exact .error _
  | some n =>
    have hlist := alike_crossOffPred (P := fun e => e.2 ∈ succs.getD e.1 [] ∧ e.1 ∉ preds.getD e.2 [])
      succs.toArray n.preds (by simp) hfresh.tells (by simpa using hleft)
    refine hlist.mono ?_
    rintro l'' is ⟨hfresh', hleft'⟩
    refine ⟨by simpa using hfresh', fun e => ?_⟩
    rw [hleft', mem_getD_concat]
    tauto

/-! ## What is left -/

theorem firstOf_spec (first e : Nat × Nat) : (firstOf first e = first ∨ firstOf first e = e) ∧
    toLex (firstOf first e) ≤ toLex first ∧ toLex (firstOf first e) ≤ toLex e := by
  unfold firstOf
  simp only [Prod.Lex.toLex_le_toLex]
  split
  · rename_i h
    exact ⟨.inr rfl, by omega, by omega⟩
  · rename_i h
    exact ⟨.inl rfl, by omega, by omega⟩

theorem foldl_firstOf_spec (first : Nat × Nat) (edges : List (Nat × Nat)) :
    edges.foldl firstOf first ∈ first :: edges ∧
      ∀ e ∈ first :: edges, toLex (edges.foldl firstOf first) ≤ toLex e := by
  induction edges generalizing first with
  | nil => simp
  | cons e edges ih =>
    obtain ⟨hmem, hle⟩ := ih (firstOf first e)
    obtain ⟨heither, hfirst, hsecond⟩ := firstOf_spec first e
    have hbefore := hle _ (List.mem_cons_self)
    rw [List.foldl_cons]
    constructor
    · rcases List.mem_cons.1 hmem with heq | hmem
      · rw [heq]
        rcases heither with h | h <;> simp [h]
      · simp [hmem]
    · intro e' he'
      rcases List.mem_cons.1 he' with rfl | he'
      · exact hbefore.trans hfirst
      · rcases List.mem_cons.1 he' with rfl | he'
        · exact hbefore.trans hsecond
        · exact hle e' (List.mem_cons_of_mem _ he')

/-- Whatever their order, the least of edges that start at positions is found. -/
theorem leastEdge_spec {size : Nat} {edges : List (Nat × Nat)} (hlt : ∀ e ∈ edges, e.1 < size) (hne : edges ≠ []) :
    leastEdge size edges ∈ edges ∧ ∀ e ∈ edges, toLex (leastEdge size edges) ≤ toLex e := by
  obtain ⟨hmem, hle⟩ := foldl_firstOf_spec (size, size) edges
  refine ⟨?_, fun e he => hle e (List.mem_cons_of_mem _ he)⟩
  rcases List.mem_cons.1 hmem with heq | hmem
  · -- The edge that the search begins with comes after all others.
    obtain ⟨e, he⟩ := List.exists_mem_of_ne_nil edges hne
    have hless := hle e (List.mem_cons_of_mem _ he)
    have hsource := hlt e he
    rw [heq, Prod.Lex.toLex_le_toLex] at hless
    dsimp only at hless
    omega
  · exact hmem

section Least

variable {succs preds : Array (List Nat)}

theorem unanswered?_eq_some_iff : unanswered? succs preds i = some j ↔
    (j ∈ succs.getD i [] ∧ i ∉ preds.getD j []) ∧ ∀ k ∈ succs.getD i [], i ∉ preds.getD k [] → j ≤ k := by
  simp [unanswered?, List.min?_eq_some_iff]

theorem unanswered?_eq_none_iff : unanswered? succs preds i = none ↔
    ∀ k ∈ succs.getD i [], i ∈ preds.getD k [] := by
  simp [unanswered?]

/-- What stands before a number in a range is all that is less. -/
theorem of_range_eq_append {size x : Nat} {before after : List Nat}
    (h : List.range size = before ++ x :: after) : x < size ∧ ∀ k < x, k ∈ before := by
  have hmem : ∀ k, k < size ↔ k ∈ before ++ x :: after := by
    intro k
    rw [← h, List.mem_range]
  have hx : x < size := (hmem x).2 (by simp)
  refine ⟨hx, ?_⟩
  intro k hk
  have hsorted : (before ++ x :: after).Pairwise (· < ·) := h ▸ List.pairwise_lt_range
  have hafter := (List.pairwise_cons.1 (List.pairwise_append.1 hsorted).2.1).1
  rcases List.mem_append.1 ((hmem k).1 (by omega)) with hb | hb
  · exact hb
  · rcases List.mem_cons.1 hb with rfl | hb
    · omega
    · have := hafter k hb
      omega

/-- Going from source to source gives the least edge that is not answered. -/
theorem least_of_findSome? {n : Nat} {e : Nat × Nat}
    (h : ((List.range n).findSome? fun i => (unanswered? succs preds i).map (i, ·)) = some e) :
    (e.2 ∈ succs.getD e.1 [] ∧ e.1 ∉ preds.getD e.2 []) ∧
      ∀ e' : Nat × Nat, e'.2 ∈ succs.getD e'.1 [] → e'.1 ∉ preds.getD e'.2 [] → toLex e ≤ toLex e' := by
  obtain ⟨before, i, after, hrange, hi, hbefore⟩ := List.findSome?_eq_some_iff.1 h
  obtain ⟨j, hj, rfl⟩ := Option.map_eq_some_iff.1 hi
  obtain ⟨hleft, hleast⟩ := unanswered?_eq_some_iff.1 hj
  refine ⟨hleft, ?_⟩
  rintro ⟨i', j'⟩ hmem hno
  rw [Prod.Lex.toLex_le_toLex]
  rcases Nat.lt_trichotomy i i' with hlt | rfl | hlt
  · exact .inl hlt
  · exact .inr ⟨rfl, hleast j' hmem hno⟩
  · have hnone := hbefore i' ((of_range_eq_append hrange).2 i' hlt)
    exact absurd (unanswered?_eq_none_iff.1 (Option.map_eq_none_iff.1 hnone) j' hmem) hno

end Least

/-- In any traversal, the least edge of those that are left is the one that goes from source to source. -/
theorem findSome?_eq_leastEdge {succs preds : List (List Nat)} (order : Traversal)
    (h : l.Leaves w.size succs preds) (hlength : succs.length = w.size) :
    ((List.range w.size).findSome? fun i => (unanswered? succs.toArray preds.toArray i).map (i, ·)) =
      if l.unanswered.isEmpty then none else some (leastEdge w.size (order.list l.unanswered)) := by
  have hmem : ∀ e, e ∈ order.list l.unanswered ↔ e.2 ∈ succs.getD e.1 [] ∧ e.1 ∉ preds.getD e.2 [] := by
    intro e
    rw [(order.perm _).mem_iff, Std.TreeSet.mem_toList, h.mem_iff]
  have hlt : ∀ e ∈ order.list l.unanswered, e.1 < w.size := by
    intro e he
    by_contra hge
    have hnil : succs.getD e.1 [] = [] := by
      rw [List.getD_eq_getElem?_getD, List.getElem?_eq_none (by omega), Option.getD_none]
    rw [hmem, hnil] at he
    exact absurd he.1 (by simp)
  cases hfind : (List.range w.size).findSome? fun i => (unanswered? succs.toArray preds.toArray i).map (i, ·) with
  | none =>
    have hempty : l.unanswered.isEmpty = true := by
      rw [Std.TreeSet.isEmpty_iff_forall_not_mem]
      intro e he
      obtain ⟨hsucc, hno⟩ := (h.mem_iff e).1 he
      have hsource := hlt e ((hmem e).2 ⟨hsucc, hno⟩)
      have hnone := List.findSome?_eq_none_iff.1 hfind e.1 (List.mem_range.2 hsource)
      have hanswered := unanswered?_eq_none_iff.1 (Option.map_eq_none_iff.1 hnone) e.2
      exact hno (by simpa using hanswered (by simpa using hsucc))
    rw [if_pos hempty]
  | some e =>
    obtain ⟨⟨hsucc, hno⟩, hleast⟩ := least_of_findSome? hfind
    have he : e ∈ order.list l.unanswered := (hmem e).2 ⟨by simpa using hsucc, by simpa using hno⟩
    obtain ⟨hfirst, hle⟩ := leastEdge_spec hlt (List.ne_nil_of_mem he)
    obtain ⟨hsucc', hno'⟩ := (hmem _).1 hfirst
    have heq : e = leastEdge w.size (order.list l.unanswered) :=
      toLex.injective (le_antisymm (hleast _ (by simpa using hsucc') (by simpa using hno')) (hle e he))
    have hempty : ¬ l.unanswered.isEmpty = true := by
      rw [Std.TreeSet.isEmpty_iff_forall_not_mem]
      intro hnone
      exact hnone e ((h.mem_iff e).2 ((hmem e).1 he))
    rw [if_neg hempty, ← heq]

/-- The check gives the same whatever order it goes through the unanswered edges in. -/
theorem checkIn_eq_plainCheck (order : Traversal) (w : Wiring) : w.checkIn order = w.plainCheck := by
  rw [checkIn, plainCheck]
  simp only [Array.mapM_eq_mapM_toList, Array.toList_range, bind_map_left]
  apply Alike.eq
  refine (alike_noteSuccs w).bind ?_
  rintro l succs ⟨hnotes, hlength⟩
  have hcleared : l.clear.Leaves w.size succs [] := by
    refine ⟨hnotes.fresh.clear, fun e => ?_⟩
    rw [Ledger.clear, hnotes.mem_iff]
    simp
  refine (alike_crossOffPreds hcleared).bind ?_
  rintro l' preds ⟨hleaves, -⟩
  rw [findSome?_eq_leastEdge order hleaves hlength]
  split
  · exact .ok rfl
  · exact .error _

end Wiring

end ControlDependence
