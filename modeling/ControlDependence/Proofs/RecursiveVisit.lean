-- SUMMARY: The stack search numbers instructions as the recursive search does: mark, visit predecessors, append.
import Mathlib.Data.Finset.Card
import ControlDependence.Proofs.Exploration

/-!
# The recursive search

`Tour.visit` is depth-first search as one would write it with the call stack. It marks an
instruction, visits each predecessor that is unmarked when its turn comes, and appends the
instruction; it ends because a visit marks. The stack search handles one entry at a time
and may have to go through leftovers, but it ends, from every root, and it leaves
instructions in the order in which the recursive search appends them.
-/
namespace ControlDependence

/-- A recursive search under way. -/
structure Tour where
  /-- The instructions that are not marked yet. -/
  unmarked : Finset Nat
  /-- The instructions in the order in which they were appended. -/
  order : List Nat

namespace Tour

def start (g : Flow) : Tour := ⟨Finset.range g.size, []⟩

def mark (t : Tour) (v : Nat) : Tour := { t with unmarked := t.unmarked.erase v }

def append (t : Tour) (v : Nat) : Tour := { t with order := t.order ++ [v] }

/-- A search that has gone on from another. Marks stay. -/
abbrev Later (t : Tour) : Type := { t' : Tour // t'.unmarked ⊆ t.unmarked }

mutual

/-- Marks an instruction, visits its predecessors and appends it. -/
def visit (g : Flow) (t : Tour) (v : Nat) (_hv : v ∈ t.unmarked) : t.Later :=
  let inner := visitEach g (t.mark v) (g.preds v)
  ⟨inner.val.append v, inner.property.trans (Finset.erase_subset v t.unmarked)⟩
termination_by (t.unmarked.card, 0)
decreasing_by exact .left _ _ (Finset.card_erase_lt_of_mem _hv)

/-- Visits each instruction of a list that is still unmarked when its turn comes. -/
def visitEach (g : Flow) (t : Tour) (l : List Nat) : t.Later :=
  match l with
  | [] => ⟨t, subset_rfl⟩
  | v :: l =>
    if hv : v ∈ t.unmarked then
      let first := visit g t v hv
      let rest := visitEach g first.val l
      ⟨rest.val, rest.property.trans first.property⟩
    else visitEach g t l
termination_by (t.unmarked.card, l.length + 1)
decreasing_by
  · exact .right _ (Nat.succ_pos _)
  · rcases (Finset.card_le_card first.property).lt_or_eq with hlt | heq
    · exact .left _ _ hlt
    · rw [heq]
      exact .right _ (by simp)
  · exact .right _ (by simp)

end

/-- The search from the last instruction and, if asked to, from every exit, in index order. -/
def of (g : Flow) (useExits : Bool) : Tour :=
  let first := (visitEach g (start g) [g.size - 1]).val
  if useExits then (visitEach g first ((List.range g.size).filter g.isExit)).val else first

/-- The place of an instruction in the order, counted from 1; 0 if it was not appended. -/
def rank (t : Tour) (v : Nat) : Nat := if v ∈ t.order then t.order.idxOf v + 1 else 0

/-- The numbering that the order gives. -/
def numbering (t : Tour) (g : Flow) : Numbering where
  sequence := t.order.reverse
  ranks := Array.ofFn fun v : Fin g.size => t.rank v

variable {g : Flow} {t : Tour} {v : Nat} {l : List Nat}

theorem visitEach_nil : (visitEach g t []).val = t := by
  rw [visitEach]

theorem visitEach_of_marked (hv : v ∉ t.unmarked) : (visitEach g t (v :: l)).val = (visitEach g t l).val := by
  rw [visitEach, dif_neg hv]

theorem visitEach_of_unmarked (hv : v ∈ t.unmarked) :
    (visitEach g t (v :: l)).val =
      (visitEach g ((visitEach g (t.mark v) (g.preds v)).val.append v) l).val := by
  have hvisit : (visit g t v hv).val = (visitEach g (t.mark v) (g.preds v)).val.append v := by
    rw [visit]
  rw [visitEach, dif_pos hv, ← hvisit]

theorem visitEach_append (l' : List Nat) :
    (visitEach g t (l ++ l')).val = (visitEach g (visitEach g t l).val l').val := by
  induction l generalizing t with
  | nil => rw [List.nil_append, visitEach_nil]
  | cons v l ih =>
    by_cases hv : v ∈ t.unmarked
    · rw [List.cons_append, visitEach_of_unmarked hv, visitEach_of_unmarked hv, ih]
    · rw [List.cons_append, visitEach_of_marked hv, visitEach_of_marked hv, ih]

theorem notMem_unmarked_visitEach (hv : v ∈ l) : v ∉ (visitEach g t l).val.unmarked := by
  induction l generalizing t with
  | nil => cases hv
  | cons u l ih =>
    by_cases hu : u ∈ t.unmarked
    · rw [visitEach_of_unmarked hu]
      rcases List.mem_cons.1 hv with rfl | hv
      · intro hmem
        have hinner := (visitEach g ((visitEach g (t.mark v) (g.preds v)).val.append v) l).property hmem
        exact Finset.notMem_erase v t.unmarked ((visitEach g (t.mark v) (g.preds v)).property hinner)
      · exact ih hv
    · rw [visitEach_of_marked hu]
      rcases List.mem_cons.1 hv with rfl | hv
      · exact fun hmem => hu ((visitEach g t l).property hmem)
      · exact ih hv

/-- What is marked at the start may be left out of the list. -/
theorem visitEach_filter {q : Nat → Bool} (hq : ∀ v ∈ l, q v = false → v ∉ t.unmarked) :
    (visitEach g t (l.filter q)).val = (visitEach g t l).val := by
  induction l generalizing t with
  | nil => rfl
  | cons v l ih =>
    have hl : ∀ u ∈ l, q u = false → u ∉ t.unmarked := fun u hu => hq u (List.mem_cons_of_mem v hu)
    by_cases hv : v ∈ t.unmarked
    · have hqv : q v = true := by
        by_contra hqv
        exact hq v (List.mem_cons_self ..) (Bool.eq_false_of_not_eq_true hqv) hv
      rw [List.filter_cons_of_pos hqv, visitEach_of_unmarked hv, visitEach_of_unmarked hv]
      apply ih
      intro u hu hqu hmem
      exact hl u hu hqu (Finset.mem_of_mem_erase ((visitEach g (t.mark v) (g.preds v)).property hmem))
    · rw [visitEach_of_marked hv]
      cases hqv : q v with
      | true => rw [List.filter_cons_of_pos hqv, visitEach_of_marked hv, ih hl]
      | false => rw [List.filter_cons_of_neg (by simp [hqv]), ih hl]

/-- The exit in last place, if it is one, was the first instruction to be visited. -/
theorem of_eq (g : Flow) (useExits : Bool) :
    Tour.of g useExits = (visitEach g (start g) (Numbering.roots g useExits)).val := by
  have hexits : Numbering.exitRoots g = ((List.range g.size).filter g.isExit).filter (· != g.size - 1) := by
    rw [Numbering.exitRoots, List.filter_comm]
    congr 1
    cases g.size with
    | zero => rfl
    | succ n =>
      have hbelow : (List.range n).filter (· != n) = List.range n :=
        List.filter_eq_self.2 fun i hi => bne_iff_ne.2 (List.mem_range.1 hi).ne
      rw [Nat.add_sub_cancel, List.range_succ, List.filter_append, hbelow]
      simp
  cases useExits with
  | false => rfl
  | true =>
    rw [Numbering.roots, if_pos rfl, ← List.singleton_append, visitEach_append, hexits, visitEach_filter]
    · rfl
    · intro v _ hv
      have hlast : v = g.size - 1 := by simpa using hv
      exact notMem_unmarked_visitEach (by simp [hlast])

end Tour

namespace Search

variable {g : Flow} {s s' : Search} {t : Tour}

/-- The recursive search has got as far as the stack search. -/
structure Keeps (t : Tour) (s : Search) : Prop where
  unmarked_iff : ∀ v, v ∈ t.unmarked ↔ s.hasMet v = false
  order_eq : t.order = s.left.reverse

theorem keeps_start (g : Flow) : Keeps (.start g) (start g.size) := by
  refine ⟨fun v => ?_, rfl⟩
  by_cases hv : v < g.size <;> simp [Tour.start, hasMet, start, hv]

theorem Keeps.mark (h : Keeps t s) (v : Nat) : Keeps (t.mark v) (s.mark v) := by
  refine ⟨fun u => ?_, h.order_eq⟩
  rw [hasMet_mark, Tour.mark, Finset.mem_erase, h.unmarked_iff]
  simp

theorem Keeps.leave (h : Keeps t s) (v : Nat) : Keeps (t.append v) (s.leave v) :=
  ⟨h.unmarked_iff, by simp [Tour.append, h.order_eq]⟩

/-- Exploring a list does what visiting its instructions does. -/
theorem Explores.keeps {l : List Nat} (h : Explores g s l s') (hk : Keeps t s) :
    Keeps (t.visitEach g l).val s' := by
  induction h generalizing t with
  | done => rwa [Tour.visitEach_nil]
  | @skip s s' v l hv _ ih =>
    have hmarked : v ∉ t.unmarked := mt (hk.unmarked_iff v).1 (by simp [hv])
    rw [Tour.visitEach_of_marked hmarked]
    exact ih hk
  | @visit s s₁ s₂ v l hv _ _ ih₁ ih₂ =>
    have hmark := hk.mark v
    -- The predecessors that the stack search does not push are marked already.
    have hfresh : ((t.mark v).visitEach g ((s.mark v).fresh g v)).val = ((t.mark v).visitEach g (g.preds v)).val := by
      apply Tour.visitEach_filter
      intro u _ hu hmem
      simp [(hmark.unmarked_iff u).1 hmem] at hu
    rw [Tour.visitEach_of_unmarked ((hk.unmarked_iff v).2 hv), ← hfresh]
    exact ih₂ ((ih₁ hmark).leave v)

/-! ## The loops end -/

/-- Handles the top of the stack as long as there is one. -/
inductive Loops (g : Flow) : Search → Search → Prop where
  | stop {s : Search} : s.stack = [] → Loops g s s
  | again {s s' : Search} : s.stack ≠ [] → Loops g (s.step g) s' → Loops g s s'

/-- Loops from each root that is not met when its turn comes. -/
inductive Traverses (g : Flow) : Search → List Nat → Search → Prop where
  | done {s : Search} : Traverses g s [] s
  | skip {s s' : Search} {v : Nat} {l : List Nat} :
      s.hasMet v = true → Traverses g s l s' → Traverses g s (v :: l) s'
  | loop {s s₁ s' : Search} {v : Nat} {l : List Nat} :
      s.hasMet v = false → Loops g (s.withStack [v]) s₁ → Traverses g s₁ l s' → Traverses g s (v :: l) s'

theorem loops_of_iterate {m : Nat} (h : ((step g)^[m] s).stack = []) : Loops g s ((step g)^[m] s) := by
  induction m generalizing s with
  | zero => exact .stop h
  | succ m ih =>
    by_cases hs : s.stack = []
    · have hfix : step g s = s := by simp [step, hs]
      rw [Function.iterate_fixed hfix]
      exact .stop hs
    · exact .again hs (ih h)

/-- The loop from a root ends when all that it leads to has been explored. -/
theorem Explores.loops {v : Nat} (h : Explores g s [v] s') (hc : Coherent g.size s) (hs : s.stack = [])
    (hopen : ¬ s.IsOpen v) : Loops g (s.withStack [v]) s' := by
  obtain ⟨m, hm⟩ := h.iterate hc (by simpa using hopen) []
  have hstack : s'.withStack [] = s' := by rw [← h.stack_eq.trans hs]; rfl
  rw [List.append_nil, hstack] at hm
  rw [← hm]
  exact loops_of_iterate (by rw [hm, h.stack_eq, hs])

theorem Explores.traverses {l : List Nat} (h : Explores g s l s') (hc : Coherent g.size s)
    (hs : s.stack = []) (hopen : ∀ v, ¬ s.IsOpen v) : Traverses g s l s' := by
  induction l generalizing s with
  | nil =>
    cases h
    exact .done
  | cons v l ih =>
    cases h with
    | skip hv h => exact .skip hv (ih h hc hs hopen)
    | @visit _ s₁ _ _ _ hv h₁ h₂ =>
      have hone : Explores g s [v] (s₁.leave v) := .visit hv h₁ .done
      obtain ⟨new, hnew⟩ := hone.extends hc
      exact .loop hv (hone.loops hc hs (hopen v))
        (ih h₂ hnew.coherent (hone.stack_eq.trans hs) fun u hu => hopen u ((hnew.isOpen_iff hc u).1 hu))

theorem place_eq_idxOf {l : List Nat} (h : l.Nodup) (v : Nat) :
    place l v = if v ∈ l.reverse then l.reverse.idxOf v + 1 else 0 := by
  induction l with
  | nil => simp [place]
  | cons u l ih =>
    obtain ⟨hu, hl⟩ := List.nodup_cons.1 h
    rw [List.reverse_cons, List.idxOf_append]
    by_cases huv : u = v
    · subst huv
      simp [place, hu]
    · rw [place, if_neg huv, ih hl]
      by_cases hv : v ∈ l
      · simp [hv]
      · simp [hv, Ne.symm huv]

end Search

namespace Numbering

open Search

theorem numbering_of_explores {g : Flow} {useExits : Bool} {s : Search}
    (hs : Explores g (Search.start g.size) (roots g useExits) s) :
    { sequence := s.left, ranks := s.ranks } = (Tour.of g useExits).numbering g := by
  obtain ⟨new, hnew⟩ := hs.extends (.start g.size)
  have hc := hnew.coherent
  have hkeeps := hs.keeps (keeps_start g)
  rw [← Tour.of_eq] at hkeeps
  have hrank : ∀ v, (Tour.of g useExits).rank v = s.ranks.getD v 0 := by
    intro v
    rw [Tour.rank, hkeeps.order_eq, ← place_eq_idxOf hc.left_nodup, hc.rank_eq]
  unfold Tour.numbering
  congr 1
  · rw [hkeeps.order_eq, List.reverse_reverse]
  · apply Array.ext
    · simp [hc.ranks_size]
    · intro v hv _
      simp [hrank, hv]

/-- The loop over the stack ends from every root that is left to it, and the numbering is that
of the recursive search: the same instructions in the same order, with the same ranks. -/
theorem stack_search_eq_recursive_search (g : Flow) (useExits : Bool) :
    ∃ s, Traverses g (Search.start g.size) (roots g useExits) s ∧
      ofFlow g useExits = { sequence := s.left, ranks := s.ranks } ∧
      ofFlow g useExits = (Tour.of g useExits).numbering g := by
  obtain ⟨s, hs, heq⟩ := exists_explores g useExits
  refine ⟨s, hs.traverses (.start g.size) rfl (not_isOpen_start g.size), heq, ?_⟩
  rw [heq]
  exact numbering_of_explores hs

end Numbering

end ControlDependence
