-- SUMMARY: Stopping a walk at a known pair saves work and loses nothing, on any table whatever.
import Mathlib.Data.Set.Card
import Mathlib.Logic.Function.Iterate
import ControlDependence.Proofs.Convergence
import ControlDependence.Proofs.Trail

/-!
# Stopping early

The pairs of a branch are described by the chains from its successors: all that stands on
such a chain before the entry of the branch is recorded, be the table ever so wrong. A
chain that runs in a circle has no end, and there a walk is over only because it comes to
a pair that it has recorded itself. Each turn of a walk records a new pair, so a walk ends
without any bound on its turns, and the bound in `Relation.walk` is never what ends it.
-/
namespace ControlDependence

variable {g : Flow} {t : Table} {r r' : Relation} {stop e : PostDominator} {b : Int}

/-! ## Chains -/

/-- What comes after an entry on its chain. The exit and an unset entry stand at the end. -/
def Table.after (t : Table) : PostDominator → PostDominator
  | .instruction i => t.entry i
  | e => e

/-- A trail is the part of a chain before its first element that is the stop or no
instruction. -/
theorem trail_iff_iterate {y : Int} :
    Trail t stop e y ↔ ∃ k, t.after^[k] e = .instruction y ∧
      ∀ j ≤ k, ∃ i, t.after^[j] e = .instruction i ∧ .instruction i ≠ stop := by
  constructor
  · intro h
    induction h with
    | @here i hne =>
      refine ⟨0, rfl, ?_⟩
      intro j hj
      obtain rfl := Nat.le_zero.1 hj
      exact ⟨i, rfl, Ne.symm hne⟩
    | @next i y hne _ ih =>
      obtain ⟨k, hk, hall⟩ := ih
      refine ⟨k + 1, hk, ?_⟩
      intro j hj
      cases j with
      | zero => exact ⟨i, rfl, Ne.symm hne⟩
      | succ j => exact hall j (Nat.le_of_succ_le_succ hj)
  · rintro ⟨k, hk, hall⟩
    induction k generalizing e with
    | zero =>
      obtain ⟨i, hi, hne⟩ := hall 0 le_rfl
      obtain rfl : e = .instruction i := hi
      cases hk
      exact .here (Ne.symm hne)
    | succ k ih =>
      obtain ⟨i, hi, hne⟩ := hall 0 (Nat.zero_le _)
      obtain rfl : e = .instruction i := hi
      refine .next (Ne.symm hne) (ih hk ?_)
      intro j hj
      exact hall (j + 1) (Nat.succ_le_succ hj)

/-- Entries that the table does not list are unset. -/
theorem Table.entry_inRange {n : Nat} (ht : ∀ e ∈ t, e.InRange n) (i : Int) : (t.entry i).InRange n := by
  unfold entry
  split
  · trivial
  · rcases Nat.lt_or_ge i.toNat t.size with hlt | hge
    · have hget : t.getD i.toNat .unset = t[i.toNat] := by simp [hlt]
      rw [hget]
      exact ht _ (Array.getElem_mem hlt)
    · have hget : t.getD i.toNat .unset = .unset := by simp [hge]
      rw [hget]
      trivial

namespace Relation

/-! ## Walks without a bound -/

/-- A walk that takes as many turns as it needs. -/
inductive Walks (t : Table) (b : Int) (stop : PostDominator) : PostDominator → Relation → Relation → Prop where
  | ended {e : PostDominator} {r : Relation} : (∀ i, e = .instruction i → stop = e) → Walks t b stop e r r
  | known {i : Int} {r : Relation} : stop ≠ .instruction i → r.contains i b = true →
      Walks t b stop (.instruction i) r r
  | record {i : Int} {r r' : Relation} : stop ≠ .instruction i → r.contains i b = false →
      Walks t b stop (t.entry i) (r.add i b) r' → Walks t b stop (.instruction i) r r'

theorem Walks.unique {r₁ r₂ : Relation} (h₁ : Walks t b stop e r r₁) (h₂ : Walks t b stop e r r₂) : r₁ = r₂ := by
  induction h₁ with
  | ended hend =>
    cases h₂ with
    | ended => rfl
    | known hne => exact absurd (hend _ rfl) hne
    | record hne => exact absurd (hend _ rfl) hne
  | known hne hknown =>
    cases h₂ with
    | ended hend => exact absurd (hend _ rfl) hne
    | known => rfl
    | record _ hnew => simp [hknown] at hnew
  | record hne hnew _ ih =>
    cases h₂ with
    | ended hend => exact absurd (hend _ rfl) hne
    | known _ hknown => simp [hknown] at hnew
    | record _ _ h => exact ih h

/-- A walk that may take more turns than there are instructions left to record comes to
its end. -/
theorem walks_walk {n fuel : Nat} (stop : PostDominator) (ht : ∀ i, (t.entry i).InRange n) (he : e.InRange n)
    (hfuel : (unrecorded n b r).card < fuel) : Walks t b stop e r (walk t b stop fuel e r) := by
  induction fuel generalizing e r with
  | zero => omega
  | succ fuel ih =>
    cases e with
    | unset => exact .ended (by simp)
    | exit => exact .ended (by simp)
    | instruction i =>
      unfold walk
      by_cases hstop : stop = .instruction i
      · rw [if_pos hstop]
        exact .ended fun _ _ => hstop
      · rw [if_neg hstop]
        cases hi : r.contains i b with
        | true => exact .known hstop hi
        | false =>
          obtain ⟨u, rfl⟩ : ∃ u : Nat, i = u := Int.eq_ofNat_of_zero_le he.1
          have hlt := unrecorded_add (n := n) (Int.ofNat_lt.1 he.2) hi
          exact .record hstop hi (ih (ht u) (by omega))

/-- One step for each element of a list, in turn. -/
inductive Folds {α σ : Type} (step : α → σ → σ → Prop) : List α → σ → σ → Prop where
  | nil {s : σ} : Folds step [] s s
  | cons {a : α} {l : List α} {s s' s'' : σ} : step a s s' → Folds step l s' s'' → Folds step (a :: l) s s''

theorem folds_iff {α σ : Type} {step : α → σ → σ → Prop} {f : σ → α → σ} {l : List α}
    (hstep : ∀ a ∈ l, ∀ s s', step a s s' ↔ s' = f s a) {s s' : σ} : Folds step l s s' ↔ s' = l.foldl f s := by
  induction l generalizing s with
  | nil =>
    constructor
    · rintro ⟨⟩
      rfl
    · rintro rfl
      exact .nil
  | cons a l ih =>
    have ih' : ∀ {s}, Folds step l s s' ↔ s' = l.foldl f s := ih fun a ha => hstep a (List.mem_cons_of_mem _ ha)
    rw [List.foldl_cons, ← ih']
    constructor
    · rintro (_ | ⟨ha, hl⟩)
      rwa [(hstep a (by simp) _ _).1 ha] at hl
    · intro hl
      exact .cons ((hstep a (by simp) _ _).2 rfl) hl

/-- The walks of one branch, from each of its successors. -/
def Visits (g : Flow) (t : Table) (x : Nat) (r r' : Relation) : Prop :=
  Folds (fun s : Nat => Walks t x (t.entry x) (.instruction s)) (g.succs x) { r with branches := r.branches + 1 } r'

/-- The walks of all branches, with no bound on any of them. -/
def Builds (g : Flow) (t : Table) (r : Relation) : Prop := Folds (Visits g t) g.branches empty r

theorem builds_iff (hg : ∀ u v, v ∈ g.succs u → v < g.size) (ht : ∀ i, (t.entry i).InRange g.size) :
    Builds g t r ↔ r = ofTable g t := by
  apply folds_iff
  intro x _ r r'
  apply folds_iff
  intro s hs r r'
  have hs' : PostDominator.InRange g.size (.instruction s) :=
    ⟨Int.natCast_nonneg s, Int.ofNat_lt.2 (hg x s hs)⟩
  have hwalk := walks_walk (t.entry x) ht hs' (card_unrecorded_lt g.size x r)
  constructor
  · exact fun h => h.unique hwalk
  · rintro rfl
    exact hwalk

/-! ## What walks keep -/

theorem walk_induction {P : Relation → Prop} (hadd : ∀ r i, P r → P (r.add i b)) {fuel : Nat} (h : P r) :
    P (walk t b stop fuel e r) := by
  induction fuel generalizing e r with
  | zero =>
    unfold walk
    exact h
  | succ fuel ih =>
    cases e with
    | unset => exact h
    | exit => exact h
    | instruction i =>
      unfold walk
      split
      · exact h
      · split
        · exact h
        · exact ih (hadd r i h)

/-- What each new pair keeps, and what the number of branches has no part in, is kept by
going through branches, whichever they are and however often each comes. -/
theorem foldl_addBranch_induction {P : Relation → Prop} {l : List Nat}
    (hadd : ∀ r i, ∀ x ∈ l, P r → P (r.add i (x : Nat))) (hbranches : ∀ r n, P r → P { r with branches := n })
    (h : P r) : P (l.foldl (addBranch g t) r) := by
  apply List.foldlRecOn l (addBranch g t) h
  intro r hr x hx
  unfold addBranch
  apply List.foldlRecOn (g.succs x) _ (hbranches r _ hr)
  intro r hr s _
  exact walk_induction (fun r i => hadd r i x hx) hr

/-- The pairs of an instruction and a branch. -/
def recorded (r : Relation) : Set (Int × Int) := {p | r.contains p.1 p.2 = true}

theorem recorded_add (r : Relation) (i b : Int) : (r.add i b).recorded = insert (i, b) r.recorded := by
  ext ⟨i', b'⟩
  simp [recorded, contains_add]

/-- Going through branches takes no pair away. -/
theorem recorded_subset_foldl_addBranch (r : Relation) (l : List Nat) :
    r.recorded ⊆ (l.foldl (addBranch g t) r).recorded := by
  apply foldl_addBranch_induction (P := fun r' => r.recorded ⊆ r'.recorded)
  · intro r' i x _ hr
    rw [recorded_add]
    exact hr.trans (Set.subset_insert _ _)
  · intro r' n hr
    exact hr
  · exact subset_rfl

/-- The number that is kept is the number of pairs. -/
def Counted (r : Relation) : Prop := r.recorded.encard = r.pairs

theorem counted_empty : Counted empty := by
  unfold Counted
  have hnone : empty.recorded = ∅ := by
    ext p
    simp [recorded, contains_empty]
  rw [hnone, Set.encard_empty]
  rfl

theorem Counted.add (h : Counted r) (i b : Int) : Counted (r.add i b) := by
  by_cases hib : r.contains i b = true
  · have hsame : r.add i b = r := if_pos hib
    rwa [hsame]
  · have hpairs : (r.add i b).pairs = r.pairs + 1 := by
      unfold Relation.add
      rw [if_neg hib]
    have hnew : (i, b) ∉ r.recorded := hib
    unfold Counted
    rw [recorded_add, Set.encard_insert_of_notMem hnew, h, hpairs]
    rfl

theorem Counted.foldl_addBranch (h : Counted r) (l : List Nat) : Counted (l.foldl (addBranch g t) r) := by
  apply foldl_addBranch_induction
  · intro r i x _ hr
    exact hr.add i x
  · intro r n hr
    exact hr
  · exact h

/-- On any table whose entries are in range, with circles or without, building needs no
bound on its walks. It records the chain from each successor of each branch up to the
entry of the branch, all of it, and counts each pair once. Going through more branches, or
through the same ones again, takes no pair away. -/
theorem ofTable_stops_early_without_loss {code : Code} (hc : code.check = .ok ())
    (ht : ∀ e ∈ t, e.InRange code.size) :
    (∀ r, Builds code.flow t r ↔ r = ofTable code.flow t) ∧
      (∀ y x : Int, (ofTable code.flow t).contains y x = true ↔
        ∃ b : Nat, x = b ∧ 2 ≤ (code.flow.succs b).length ∧ ∃ s ∈ code.flow.succs b, ∃ k,
          t.after^[k] (.instruction (s : Nat)) = .instruction y ∧
            ∀ j ≤ k, ∃ i, t.after^[j] (.instruction (s : Nat)) = .instruction i ∧
              .instruction i ≠ t.entry b) ∧
      (∀ l : List Nat, (l.foldl (addBranch code.flow t) (ofTable code.flow t)).Counted) ∧
      ∀ (r : Relation) (l : List Nat), r.recorded ⊆ (l.foldl (addBranch code.flow t) r).recorded := by
  have hg := (Code.flow_wellFormed hc).succs_lt
  have hentry : ∀ i, (t.entry i).InRange code.flow.size := Table.entry_inRange ht
  refine ⟨fun r => builds_iff hg hentry, fun y x => ?_, fun l => ?_, recorded_subset_foldl_addBranch⟩
  · rw [contains_ofTable hg hentry]
    unfold Contributes
    simp only [trail_iff_iterate]
    exact exists_congr fun b => and_left_comm
  · unfold ofTable
    exact (counted_empty.foldl_addBranch _).foldl_addBranch l

/-- Entries that lead from either instruction of the loop to the other. -/
def circularTable : Table := #[.exit, .instruction 3, .exit, .instruction 1]

theorem stops_early_circularTable :
    Outcome.twoEntryLoop.check = .ok () ∧ (∀ e ∈ circularTable, e.InRange Outcome.twoEntryLoop.size) ∧
      circularTable.after^[2] (.instruction 1) = .instruction 1 ∧
      (∀ r, Builds Outcome.twoEntryLoop.flow circularTable r ↔ r = ofTable Outcome.twoEntryLoop.flow circularTable) ∧
      (∀ y x : Int, (ofTable Outcome.twoEntryLoop.flow circularTable).contains y x = true ↔
        ∃ b : Nat, x = b ∧ 2 ≤ (Outcome.twoEntryLoop.flow.succs b).length ∧
          ∃ s ∈ Outcome.twoEntryLoop.flow.succs b, ∃ k,
            circularTable.after^[k] (.instruction (s : Nat)) = .instruction y ∧
              ∀ j ≤ k, ∃ i, circularTable.after^[j] (.instruction (s : Nat)) = .instruction i ∧
                .instruction i ≠ circularTable.entry b) ∧
      (∀ l : List Nat, (l.foldl (addBranch Outcome.twoEntryLoop.flow circularTable)
        (ofTable Outcome.twoEntryLoop.flow circularTable)).Counted) ∧
      ∀ (r : Relation) (l : List Nat),
        r.recorded ⊆ (l.foldl (addBranch Outcome.twoEntryLoop.flow circularTable) r).recorded := by
  have hc : Outcome.twoEntryLoop.check = .ok () := by decide +kernel
  have hsize : Outcome.twoEntryLoop.size = 4 := by decide +kernel
  have ht : ∀ e ∈ circularTable, e.InRange Outcome.twoEntryLoop.size := by
    simp [circularTable, PostDominator.InRange, hsize]
  exact ⟨hc, ht, rfl, ofTable_stops_early_without_loss hc ht⟩

end Relation

end ControlDependence
