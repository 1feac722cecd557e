-- SUMMARY: The stack search as nested exploration: meet an instruction, explore its predecessors, leave it.
import Mathlib.Algebra.BigOperators.Group.Finset.Basic
import Mathlib.Algebra.Order.BigOperators.Group.Finset
import ControlDependence.PostDominance.Numbering

/-!
# Exploration

`Explores g s l s'` is the depth-first search in its recursive form: the instructions
of `l` are gone through in order, those already met are skipped, and any other is met,
its predecessors are explored, and it is left. The stack search does the same. An
entry of the stack may be a leftover of an instruction that was met through another
entry; what makes the two agree is that such an instruction has been left by the time
the leftover comes to the top.
-/
namespace ControlDependence.Search

variable {g : Flow} {n : Nat} {s s' : Search}

def mark (s : Search) (v : Nat) : Search := { s with met := s.met.setIfInBounds v true }

def leave (s : Search) (v : Nat) : Search :=
  { s with left := v :: s.left, ranks := s.ranks.setIfInBounds v (s.left.length + 1) }

/-- The predecessors that the search has yet to meet. -/
def fresh (s : Search) (g : Flow) (v : Nat) : List Nat := (g.preds v).filter fun p => !s.hasMet p

/-- Goes through a list of instructions, exploring from each that is not met yet. -/
inductive Explores (g : Flow) : Search → List Nat → Search → Prop where
  | done {s : Search} : Explores g s [] s
  | skip {s s' : Search} {v : Nat} {l : List Nat} :
      s.hasMet v = true → Explores g s l s' → Explores g s (v :: l) s'
  | visit {s s₁ s₂ : Search} {v : Nat} {l : List Nat} :
      s.hasMet v = false → Explores g (s.mark v) ((s.mark v).fresh g v) s₁ →
      Explores g (s₁.leave v) l s₂ → Explores g s (v :: l) s₂

/-! ## The state of a search -/

/-- The place of an instruction in the order in which the search left them, counted
from 1; 0 if it has not been left. -/
def place : List Nat → Nat → Nat
  | [], _ => 0
  | u :: l, v => if u = v then l.length + 1 else place l v

/-- The arrays agree with each other and with what the search has left. -/
structure Coherent (n : Nat) (s : Search) : Prop where
  met_size : s.met.size = n
  ranks_size : s.ranks.size = n
  rank_eq : ∀ v, s.ranks.getD v 0 = place s.left v
  left_met : ∀ v ∈ s.left, v < n ∧ s.hasMet v = true
  left_nodup : s.left.Nodup

/-- Met but not left yet. -/
def IsOpen (s : Search) (v : Nat) : Prop := v < s.met.size ∧ s.hasMet v = true ∧ v ∉ s.left

theorem place_eq_zero {l : List Nat} {v : Nat} : place l v = 0 ↔ v ∉ l := by
  induction l with
  | nil => simp [place]
  | cons u l ih =>
    by_cases h : u = v
    · simp [place, h]
    · simp [place, h, ih, Ne.symm h]

theorem place_append {l l' : List Nat} {v : Nat} (h : v ∉ l) : place (l ++ l') v = place l' v := by
  induction l with
  | nil => rfl
  | cons u l ih =>
    simp only [List.mem_cons, not_or] at h
    simp [place, Ne.symm h.1, ih h.2]

theorem hasMet_of_size_le {v : Nat} (h : s.met.size ≤ v) : s.hasMet v = true := by
  simp [hasMet, Array.getElem?_eq_none h]

theorem lt_of_unmet {v : Nat} (h : s.hasMet v = false) : v < s.met.size := by
  by_contra hv
  rw [hasMet_of_size_le (Nat.le_of_not_lt hv)] at h
  cases h

theorem hasMet_mark {u v : Nat} : (s.mark v).hasMet u = (decide (u = v) || s.hasMet u) := by
  by_cases hv : v < s.met.size
  · by_cases h : u = v
    · subst h
      simp [hasMet, mark, hv]
    · simp [hasMet, mark, h, Ne.symm h]
  · have hmet : s.met.setIfInBounds v true = s.met := Array.setIfInBounds_eq_of_size_le (by omega)
    by_cases h : u = v
    · subst h
      rw [hasMet_of_size_le (by simp [mark]; omega)]
      simp
    · simp [hasMet, mark, hmet, h]

@[simp] theorem hasMet_leave {u v : Nat} : (s.leave v).hasMet u = s.hasMet u := rfl
@[simp] theorem left_mark {v : Nat} : (s.mark v).left = s.left := rfl
@[simp] theorem left_leave {v : Nat} : (s.leave v).left = v :: s.left := rfl

theorem mem_fresh {u v : Nat} : u ∈ s.fresh g v ↔ u ∈ g.preds v ∧ s.hasMet u = false := by
  simp [fresh]

theorem Coherent.start (n : Nat) : Coherent n (start n) where
  met_size := by simp [Search.start]
  ranks_size := by simp [Search.start]
  rank_eq v := by
    by_cases h : v < n
    · simp [Search.start, place, h]
    · simp [Search.start, place, Nat.le_of_not_lt h]
  left_met v hv := by simp [Search.start] at hv
  left_nodup := by simp [Search.start]

theorem Coherent.mark (h : Coherent n s) (v : Nat) : Coherent n (s.mark v) where
  met_size := by simp [Search.mark, h.met_size]
  ranks_size := h.ranks_size
  rank_eq := h.rank_eq
  left_met u hu := ⟨(h.left_met u hu).1, by simp [hasMet_mark, (h.left_met u hu).2]⟩
  left_nodup := h.left_nodup

theorem Coherent.leave (h : Coherent n s) {v : Nat} (ho : s.IsOpen v) : Coherent n (s.leave v) where
  met_size := h.met_size
  ranks_size := by simp [Search.leave, h.ranks_size]
  rank_eq u := by
    have hv : v < s.ranks.size := by rw [h.ranks_size, ← h.met_size]; exact ho.1
    have hu := h.rank_eq u
    by_cases huv : v = u
    · subst huv
      simp [Search.leave, place, hv]
    · simp only [Array.getD_eq_getD_getElem?] at hu
      simp [Search.leave, place, huv, hu]
  left_met u hu := by
    rcases List.mem_cons.1 hu with rfl | hu
    · exact ⟨h.met_size ▸ ho.1, ho.2.1⟩
    · exact h.left_met u hu
  left_nodup := List.nodup_cons.2 ⟨ho.2.2, h.left_nodup⟩

/-! ## What an exploration does -/

/-- The search has gone on from `s` to `s'`: it has met and left the instructions of
`new`, put them in front of those left before, and met no others. -/
structure Extends (n : Nat) (s s' : Search) (new : List Nat) : Prop where
  coherent : Coherent n s'
  left_eq : s'.left = new ++ s.left
  unmet : ∀ v ∈ new, v < n ∧ s.hasMet v = false
  met_iff : ∀ v, s'.hasMet v = true ↔ s.hasMet v = true ∨ v ∈ new

/-- While its predecessors are explored, an instruction stays open. -/
theorem Extends.isOpen {new : List Nat} {v : Nat} (h : Extends n (s.mark v) s' new)
    (hc : Coherent n s) (hv : s.hasMet v = false) : s'.IsOpen v := by
  refine ⟨?_, (h.met_iff v).2 (.inl (by simp [hasMet_mark])), ?_⟩
  · rw [h.coherent.met_size, ← hc.met_size]
    exact lt_of_unmet hv
  · rw [h.left_eq, List.mem_append, not_or]
    exact ⟨fun hmem => by simpa [hasMet_mark] using (h.unmet v hmem).2,
      fun hmem => by simp [(hc.left_met v hmem).2] at hv⟩

theorem Extends.trans {s₁ s₂ : Search} {v : Nat} {new₁ new₂ : List Nat} (hc : Coherent n s)
    (hv : s.hasMet v = false) (h₁ : Extends n (s.mark v) s₁ new₁)
    (h₂ : Extends n (s₁.leave v) s₂ new₂) : Extends n s s₂ (new₂ ++ v :: new₁) where
  coherent := h₂.coherent
  left_eq := by simp [h₂.left_eq, h₁.left_eq]
  unmet u hu := by
    simp only [List.mem_append, List.mem_cons] at hu
    rcases hu with hu | rfl | hu
    · refine ⟨(h₂.unmet u hu).1, ?_⟩
      by_contra hmet
      have hmet₁ := (h₁.met_iff u).2 (.inl (by simp [hasMet_mark, hmet]))
      simpa [hmet₁] using (h₂.unmet u hu).2
    · exact ⟨hc.met_size ▸ lt_of_unmet hv, hv⟩
    · have := h₁.unmet u hu
      simp only [hasMet_mark, Bool.or_eq_false_iff] at this
      exact ⟨this.1, this.2.2⟩
  met_iff u := by
    rw [h₂.met_iff, hasMet_leave, h₁.met_iff, hasMet_mark]
    simp only [Bool.or_eq_true, decide_eq_true_eq, List.mem_append, List.mem_cons]
    tauto

theorem Explores.extends {l : List Nat} (h : Explores g s l s') (hc : Coherent n s) :
    ∃ new, Extends n s s' new := by
  induction h with
  | done => exact ⟨[], hc, by simp, by simp, by simp⟩
  | skip _ _ ih => exact ih hc
  | visit hv _ _ ih₁ ih₂ =>
    obtain ⟨new₁, h₁⟩ := ih₁ (hc.mark _)
    obtain ⟨new₂, h₂⟩ := ih₂ (h₁.coherent.leave (h₁.isOpen hc hv))
    exact ⟨_, h₁.trans hc hv h₂⟩

theorem Explores.hasMet_mono {l : List Nat} (h : Explores g s l s') (hc : Coherent n s) {v : Nat}
    (hv : s.hasMet v = true) : s'.hasMet v = true := by
  obtain ⟨new, hnew⟩ := h.extends hc
  exact (hnew.met_iff v).2 (.inl hv)

/-- Everything in the list has been met in the end. -/
theorem Explores.hasMet_of_mem {l : List Nat} (h : Explores g s l s') (hc : Coherent n s) {v : Nat}
    (hv : v ∈ l) : s'.hasMet v = true := by
  induction h with
  | done => simp at hv
  | skip hm h ih =>
    rcases List.mem_cons.1 hv with rfl | hv
    · exact h.hasMet_mono hc hm
    · exact ih hc hv
  | visit hu h₁ h₂ _ ih₂ =>
    obtain ⟨new₁, hnew₁⟩ := h₁.extends (hc.mark _)
    have hopen := hnew₁.isOpen hc hu
    rcases List.mem_cons.1 hv with rfl | hv
    · exact h₂.hasMet_mono (hnew₁.coherent.leave hopen) hopen.2.1
    · exact ih₂ (hnew₁.coherent.leave hopen) hv

/-! ## Every list can be explored -/

/-- The instructions that the search has yet to meet. -/
def remaining (s : Search) : Finset Nat := (Finset.range s.met.size).filter fun v => s.hasMet v = false

theorem mem_remaining {v : Nat} : v ∈ s.remaining ↔ s.hasMet v = false := by
  simp only [remaining, Finset.mem_filter, Finset.mem_range, and_iff_right_iff_imp]
  exact lt_of_unmet

theorem remaining_mark (v : Nat) : (s.mark v).remaining ⊆ s.remaining.erase v := by
  intro u hu
  rw [mem_remaining, hasMet_mark, Bool.or_eq_false_iff, decide_eq_false_iff_not] at hu
  rw [Finset.mem_erase, mem_remaining]
  exact hu

theorem Extends.remaining_le {new : List Nat} (h : Extends n s s' new) :
    s'.remaining.card ≤ s.remaining.card := by
  refine Finset.card_le_card fun u hu => ?_
  rw [mem_remaining] at hu ⊢
  by_contra hmet
  simp [(h.met_iff u).2 (.inl (by simpa using hmet))] at hu

theorem Explores.exists (hc : Coherent n s) (l : List Nat) : ∃ s', Explores g s l s' := by
  induction hk : s.remaining.card using Nat.strongRecOn generalizing s l with
  | ind k ih =>
    induction l generalizing s with
    | nil => exact ⟨s, .done⟩
    | cons v l ihl =>
      cases hv : s.hasMet v with
      | true =>
        obtain ⟨s', h⟩ := ihl hc hk
        exact ⟨s', .skip hv h⟩
      | false =>
        have hlt : (s.mark v).remaining.card < s.remaining.card :=
          (Finset.card_le_card (remaining_mark v)).trans_lt (Finset.card_erase_lt_of_mem (mem_remaining.2 hv))
        obtain ⟨s₁, h₁⟩ := ih _ (hk ▸ hlt) (hc.mark v) ((s.mark v).fresh g v) rfl
        obtain ⟨new₁, hnew₁⟩ := h₁.extends (hc.mark v)
        have hle : (s₁.leave v).remaining.card ≤ (s.mark v).remaining.card := hnew₁.remaining_le
        obtain ⟨s₂, h₂⟩ := ih _ (by omega) (hnew₁.coherent.leave (hnew₁.isOpen hc hv)) l rfl
        exact ⟨s₂, .visit hv h₁ h₂⟩

/-! ## The stack search explores -/

/-- The search with other entries on its stack. -/
def withStack (s : Search) (stack : List Nat) : Search := { s with stack }

theorem Coherent.getD_ranks (hc : Coherent n s) {v : Nat} (hm : s.hasMet v = true) :
    s.ranks.getD v 1 = 0 ↔ s.IsOpen v := by
  by_cases hv : v < n
  · have hv' : v < s.ranks.size := hc.ranks_size.symm ▸ hv
    have hrank := hc.rank_eq v
    simp only [Array.getD_eq_getD_getElem?, Array.getElem?_eq_getElem hv', Option.getD_some] at hrank ⊢
    rw [hrank, place_eq_zero, IsOpen, hc.met_size]
    simp [hv, hm]
  · have hv' : s.ranks.size ≤ v := by rw [hc.ranks_size]; omega
    simp [Array.getElem?_eq_none hv', IsOpen, hc.met_size, hv]

theorem step_cons {v : Nat} {rest : List Nat} :
    step g (s.withStack (v :: rest)) =
      if s.hasMet v then
        if s.ranks.getD v 1 = 0 then (s.leave v).withStack rest else s.withStack rest
      else (s.mark v).withStack ((s.mark v).fresh g v ++ v :: rest) := rfl

/-- What an exploration meets it also leaves, so it opens and closes nothing else. -/
theorem Extends.isOpen_iff {new : List Nat} (h : Extends n s s' new) (hc : Coherent n s) (v : Nat) :
    s'.IsOpen v ↔ s.IsOpen v := by
  simp only [IsOpen, h.coherent.met_size, hc.met_size, h.left_eq, h.met_iff, List.mem_append]
  have := h.unmet v
  constructor
  · rintro ⟨hv, hm | hm, hl⟩
    · exact ⟨hv, hm, fun hmem => hl (.inr hmem)⟩
    · exact absurd (.inl hm) hl
  · rintro ⟨hv, hm, hl⟩
    refine ⟨hv, .inl hm, ?_⟩
    rintro (hmem | hmem)
    · simp [(this hmem).2] at hm
    · exact hl hmem

/-- The stack search empties the upper part of its stack by exploring it, provided that
no entry there is open. -/
theorem Explores.iterate {l : List Nat} (h : Explores g s l s') (hc : Coherent n s)
    (hl : ∀ v ∈ l, ¬ s.IsOpen v) (rest : List Nat) :
    ∃ m, (step g)^[m] (s.withStack (l ++ rest)) = s'.withStack rest := by
  induction h generalizing rest with
  | done => exact ⟨0, rfl⟩
  | @skip s s' v l hv h ih =>
    obtain ⟨m, hm⟩ := ih hc (fun u hu => hl u (by simp [hu])) rest
    refine ⟨m + 1, ?_⟩
    have hr := mt (hc.getD_ranks hv).1 (hl v (by simp))
    rw [Function.iterate_succ_apply, List.cons_append, step_cons, if_pos hv, if_neg hr, hm]
  | @visit s s₁ s₂ v l hv h₁ h₂ ih₁ ih₂ =>
    obtain ⟨new₁, hnew₁⟩ := h₁.extends (hc.mark v)
    have hopen := hnew₁.isOpen hc hv
    have hc₁ := hnew₁.coherent.leave hopen
    -- Leaving `v` opens nothing, and so far only `v` had been opened.
    have hl₁ : ∀ u ∈ l, ¬ (s₁.leave v).IsOpen u := by
      intro u hu ho
      have hu₁ : s₁.IsOpen u := ⟨ho.1, ho.2.1, fun hmem => ho.2.2 (by simp [hmem])⟩
      have hne : u ≠ v := fun he => ho.2.2 (by simp [he])
      have hu₀ := (hnew₁.isOpen_iff (hc.mark v) u).1 hu₁
      refine hl u (by simp [hu]) ⟨by simpa [mark] using hu₀.1, ?_, hu₀.2.2⟩
      simpa [hasMet_mark, hne] using hu₀.2.1
    -- Fresh entries are unmet; below them `v` itself waits to be left.
    obtain ⟨m₁, hm₁⟩ := ih₁ (hc.mark v)
      (fun u hu ho => by simp [(mem_fresh.1 hu).2, IsOpen] at ho) (v :: (l ++ rest))
    obtain ⟨m₂, hm₂⟩ := ih₂ hc₁ hl₁ rest
    refine ⟨m₂ + 1 + m₁ + 1, ?_⟩
    have hr := (hnew₁.coherent.getD_ranks hopen.2.1).2 hopen
    rw [Function.iterate_succ_apply, List.cons_append, step_cons, if_neg (by simp [hv]),
      Function.iterate_add_apply, hm₁, Function.iterate_succ_apply, step_cons,
      if_pos hopen.2.1, if_pos hr, hm₂]

/-! ## The budget suffices -/

/-- Bounds the steps that are left: one for each entry of the stack, and for each
instruction yet to be met one more than the entries it will push. -/
def weight (g : Flow) (s : Search) : Nat :=
  s.stack.length + ∑ v ∈ s.remaining, (1 + (g.preds v).length)

theorem weight_withStack (stack : List Nat) :
    weight g (s.withStack stack) = stack.length + ∑ v ∈ s.remaining, (1 + (g.preds v).length) := rfl

theorem weight_mark {v : Nat} (hv : s.hasMet v = false) (stack : List Nat) :
    weight g ((s.mark v).withStack stack) + (1 + (g.preds v).length) ≤ weight g (s.withStack stack) := by
  have hle := Finset.sum_le_sum_of_subset (f := fun v => 1 + (g.preds v).length) (remaining_mark (s := s) v)
  have heq := Finset.add_sum_erase s.remaining (fun v => 1 + (g.preds v).length) (mem_remaining.2 hv)
  rw [weight_withStack, weight_withStack]
  omega

theorem weight_step (h : s.stack ≠ []) : weight g (step g s) < weight g s := by
  obtain ⟨v, rest, hs⟩ := List.exists_cons_of_ne_nil h
  have hself : s = s.withStack (v :: rest) := by rw [← hs]; rfl
  rw [hself, step_cons]
  split
  · split
    · exact Nat.add_lt_add_right (by simp [withStack]) _
    · simp [weight_withStack]
  · rename_i hv
    have hle := weight_mark (g := g) (by simpa using hv) (v :: rest)
    have hfresh : ((s.mark v).fresh g v).length ≤ (g.preds v).length := List.length_filter_le ..
    simp only [weight_withStack, List.length_append, List.length_cons] at hle ⊢
    omega

theorem run_eq_iterate {fuel m : Nat} (hf : weight g s ≤ fuel) (hm : ((step g)^[m] s).stack = []) :
    run g fuel s = (step g)^[m] s := by
  induction fuel generalizing s m with
  | zero =>
    have hs : s.stack = [] := List.length_eq_zero_iff.1 (by simp only [weight] at hf; omega)
    have hfix : step g s = s := by simp [step, hs]
    rw [Function.iterate_fixed hfix, run]
  | succ fuel ih =>
    by_cases hs : s.stack = []
    · have hfix : step g s = s := by simp [step, hs]
      simp [Function.iterate_fixed hfix, run, hs]
    · have hlt := weight_step (g := g) hs
      cases m with
      | zero => exact absurd hm hs
      | succ m =>
        rw [Function.iterate_succ_apply] at hm ⊢
        rw [run, if_neg (by simp [hs])]
        exact ih (by omega) hm

/-- Whatever has been met, a search from one root ends within the budget. -/
theorem weight_le_budget (root : Nat) (hc : Coherent g.size s) :
    weight g (s.withStack [root]) ≤ budget g := by
  have hsub : s.remaining ⊆ Finset.range g.size := fun v hv =>
    Finset.mem_range.2 (hc.met_size ▸ lt_of_unmet (mem_remaining.1 hv))
  have hle := Finset.sum_le_sum_of_subset (f := fun v => 1 + (g.preds v).length) hsub
  have hlist : g.links.toList.map (·.preds.length) =
      (List.range g.size).map fun v => (g.preds v).length :=
    List.ext_getElem (by simp [Flow.size]) fun i h _ => by
      simp at h
      simp [Flow.preds, h]
  have hsum : (g.links.toList.map (·.preds.length)).foldr (· + ·) 0 =
      ∑ v ∈ Finset.range g.size, (g.preds v).length := by
    rw [hlist]
    rfl
  have hone : ∑ v ∈ Finset.range g.size, (1 + (g.preds v).length) =
      g.size + ∑ v ∈ Finset.range g.size, (g.preds v).length := by
    simp [Finset.sum_add_distrib]
  rw [budget, hsum, weight_withStack, List.length_singleton]
  omega

theorem visit_eq {root : Nat} (hc : Coherent g.size s) (hr : ¬ s.IsOpen root)
    (h : Explores g s [root] s') : visit g s root = s'.withStack [] := by
  obtain ⟨m, hm⟩ := h.iterate hc (by simpa using hr) []
  rw [List.append_nil] at hm
  have hrun := run_eq_iterate (weight_le_budget root hc) (m := m) (by rw [hm]; rfl)
  rw [← hm, ← hrun]
  rfl

theorem Explores.stack_eq {l : List Nat} (h : Explores g s l s') : s'.stack = s.stack := by
  induction h with
  | done => rfl
  | skip _ _ ih => exact ih
  | visit _ _ _ ih₁ ih₂ => exact ih₂.trans ih₁

/-- Searching from each root in turn explores the list of roots. -/
theorem Explores.foldl_visit {l : List Nat} (h : Explores g s l s') (hc : Coherent g.size s)
    (hs : s.stack = []) (hopen : ∀ v, ¬ s.IsOpen v) :
    l.foldl (fun s i => if s.hasMet i then s else s.visit g i) s = s' := by
  induction l generalizing s with
  | nil =>
    cases h
    rfl
  | cons v l ih =>
    cases h with
    | skip hv h =>
      rw [List.foldl_cons, if_pos hv]
      exact ih h hc hs hopen
    | @visit _ s₁ _ _ _ hv h₁ h₂ =>
      have hone : Explores g s [v] (s₁.leave v) := .visit hv h₁ .done
      have hstack : (s₁.leave v).stack = [] := hone.stack_eq.trans hs
      have hself : (s₁.leave v).withStack [] = s₁.leave v := by rw [← hstack]; rfl
      obtain ⟨new, hnew⟩ := hone.extends hc
      rw [List.foldl_cons, if_neg (by simp [hv]), visit_eq hc (hopen v) hone, hself]
      exact ih h₂ hnew.coherent hstack fun u hu => hopen u ((hnew.isOpen_iff hc u).1 hu)

theorem not_isOpen_start (n v : Nat) : ¬ (start n).IsOpen v := by
  rintro ⟨hv, hm, -⟩
  simp only [start, Array.size_replicate] at hv
  simp [hasMet, start, hv] at hm

end ControlDependence.Search

namespace ControlDependence.Numbering

open Search

/-- Where the search starts: at the last instruction, and if asked to at every other exit. -/
def roots (g : Flow) (useExits : Bool) : List Nat :=
  (g.size - 1) :: if useExits then exitRoots g else []

/-- The numbering is what an exploration from the roots leaves behind. -/
theorem exists_explores (g : Flow) (useExits : Bool) :
    ∃ s, Explores g (Search.start g.size) (roots g useExits) s ∧
      ofFlow g useExits = { sequence := s.left, ranks := s.ranks } := by
  obtain ⟨s, hs⟩ := Explores.exists (g := g) (.start g.size) (roots g useExits)
  refine ⟨s, hs, ?_⟩
  have hfold := hs.foldl_visit (.start g.size) rfl (not_isOpen_start g.size)
  by_cases hn : g.size = 0
  · -- Without instructions every root counts as met.
    have hroots : roots g useExits = [0] := by cases useExits <;> simp [roots, exitRoots, hn]
    have hmet : (Search.start g.size).hasMet 0 = true := hasMet_of_size_le (by simp [Search.start, hn])
    rw [hroots, List.foldl_cons, if_pos hmet] at hfold
    simp [ofFlow, ← hfold, Search.start, hn]
  · have hlast : (Search.start g.size).hasMet (g.size - 1) = false := by
      simp [hasMet, Search.start, Nat.sub_lt (Nat.pos_of_ne_zero hn)]
    rw [roots, List.foldl_cons, if_neg (by simp [hlast])] at hfold
    rw [ofFlow, if_neg hn, ← hfold]
    cases useExits <;> rfl

end ControlDependence.Numbering
