-- SUMMARY: A pass as a list of updates, and the order in which instructions are resolved.
import Mathlib.Data.List.NodupEquivFin
import ControlDependence.PostDominance.Solver
import ControlDependence.Proofs.Climb

/-!
# Grounded tables

A table is grounded if its resolved instructions can be listed in an order in which
each one's entry, and one of its successors, come before it. The solver keeps its
table so: a newly resolved instruction joins at the end of the order, and an entry that
is revised still names an instruction from before. Chains of a grounded table end at
the exit, so in a pass no walk fails and none runs into an unset entry.
-/
namespace ControlDependence

open Search (place place_le place_eq_zero)

namespace Table

variable {g : Flow} {o : Numbering} {t : Table} {order : List Nat} {i : Nat}

theorem entry_natCast (t : Table) (v : Nat) : t.entry v = t.getD v .unset := by
  simp [entry]

theorem entry_set {e : PostDominator} (h : i < t.size) (v : Nat) :
    entry (t.setIfInBounds i e) v = if v = i then e else t.entry v := by
  rw [entry_natCast, entry_natCast]
  by_cases hv : v = i
  · subst hv
    simp [h]
  · simp [hv, Ne.symm hv]

theorem set_entry (h : i < t.size) : t.setIfInBounds i (t.entry i) = t := by
  rw [entry_natCast]
  refine Array.ext (by simp) fun j hj _ => ?_
  by_cases hij : i = j
  · subst hij
    simp [h]
  · exact Array.getElem_setIfInBounds_ne (by simpa using hj) hij

theorem eq_unset_of_not_isResolved {e : PostDominator} (h : ¬ e.isResolved = true) : e = .unset := by
  cases e with
  | unset => rfl
  | exit => exact absurd rfl h
  | instruction i => exact absurd rfl h

/-- What a pass puts at an instruction. -/
inductive Update (g : Flow) (o : Numbering) (t : Table) (i : Nat) : PostDominator → Prop where
  | exit : g.succs i = [] → Update g o t i .exit
  | keep : g.succs i ≠ [] → (∀ s, ¬ Counts g t i s) → Update g o t i (t.entry i)
  | meet {e : PostDominator} {s : Nat} : Counts g t i s →
      (∀ z, Climb o t z e ↔ ∀ s, Counts g t i s → Climb o t z (.instruction s)) → Update g o t i e

/-- The resolved instructions, the latest first, each after its entry and after one of
its successors. -/
structure Grounded (g : Flow) (o : Numbering) (t : Table) (order : List Nat) : Prop where
  size_eq : t.size = g.size
  nodup : order.Nodup
  mem_order : ∀ v : Nat, v ∈ order ↔ (t.entry v).isResolved = true
  ranked : ∀ v ∈ order, v < g.size ∧ 0 < o.rank v
  exits : ∀ v ∈ order, g.succs v = [] → t.entry v = .exit
  succ : ∀ v ∈ order, g.succs v ≠ [] →
    ∃ s ∈ g.succs v, s ≠ v ∧ s ∈ order ∧ place order s < place order v
  entry : ∀ v ∈ order, t.entry v = .exit ∨
    ∃ w ∈ order, t.entry v = .instruction w ∧ place order w < place order v

theorem grounded_blank : Grounded g o (blank g.size) [] where
  size_eq := by simp [blank]
  nodup := .nil
  mem_order v := by
    rw [entry_natCast]
    by_cases h : v < g.size
    · simp [blank, h, PostDominator.isResolved]
    · simp [blank, Nat.le_of_not_lt h, PostDominator.isResolved]
  ranked := by simp
  exits := by simp
  succ := by simp
  entry := by simp

namespace Grounded

theorem counts_iff (h : Grounded g o t order) {s : Nat} :
    Counts g t i s ↔ s ∈ g.succs i ∧ s ≠ i ∧ s ∈ order := by
  rw [Counts, h.mem_order]

theorem length_le (h : Grounded g o t order) : order.length ≤ g.size := by
  have hsub : order ⊆ List.range g.size := fun v hv => List.mem_range.2 (h.ranked v hv).1
  simpa using (h.nodup.subperm hsub).length_le

/-- A resolved instruction's chain is no longer than its place in the order. -/
theorem ascent (h : Grounded g o t order) {v : Nat} (hv : v ∈ order) :
    ∃ n ≤ place order v, Ascent o t (.instruction v) n := by
  induction hk : place order v using Nat.strongRecOn generalizing v with
  | ind k ih =>
    have hr : o.isRanked v = true := by simpa [Numbering.isRanked] using (h.ranked v hv).2
    have hpos : 0 < place order v := Nat.pos_of_ne_zero fun h0 => place_eq_zero.1 h0 hv
    rcases h.entry v hv with he | ⟨w, hw, he, hlt⟩
    · exact ⟨1, by omega, .up hr (he ▸ .exit)⟩
    · obtain ⟨n, hn, hasc⟩ := ih (place order w) (hk ▸ hlt) hw rfl
      exact ⟨n + 1, by omega, .up hr (he ▸ hasc)⟩

theorem ascends (h : Grounded g o t order) {v : Nat} (hv : v ∈ order) :
    Ascends o t (.instruction v) := by
  obtain ⟨n, hn, hasc⟩ := h.ascent hv
  refine ⟨n, ?_, hasc⟩
  have := place_le order v
  have := h.length_le
  have := h.size_eq
  omega

/-- Landmarks of a resolved instruction's chain come no later in the order. -/
theorem of_climb (h : Grounded g o t order) {v : Nat} (hv : v ∈ order) {e : PostDominator}
    (hc : Climb o t e (.instruction v)) :
    e = .exit ∨ ∃ w ∈ order, e = .instruction w ∧ place order w ≤ place order v := by
  induction hk : place order v using Nat.strongRecOn generalizing v with
  | ind k ih =>
    rcases climb_instruction_iff.1 hc with rfl | ⟨-, hc⟩
    · exact .inr ⟨v, hv, rfl, hk.le⟩
    · rcases h.entry v hv with he | ⟨w, hw, he, hlt⟩
      · exact .inl (he ▸ hc).eq_exit
      · rcases ih _ (hk ▸ hlt) hw (he ▸ hc) rfl with rfl | ⟨x, hx, rfl, hle⟩
        · exact .inl rfl
        · exact .inr ⟨x, hx, rfl, by omega⟩

/-- Storing a resolved entry keeps a table grounded if the entry and a successor come
before the instruction. -/
theorem set (h : Grounded g o t order) {e : PostDominator} (hi : i < g.size ∧ 0 < o.rank i)
    (hexit : g.succs i = [] → e = .exit)
    (hsucc : g.succs i ≠ [] → ∃ s ∈ g.succs i, s ≠ i ∧ s ∈ order)
    (hentry : e = .exit ∨ ∃ w ∈ order, e = .instruction w ∧ (i ∈ order → place order w < place order i)) :
    ∃ order', Grounded g o (t.setIfInBounds i e) order' ∧ order ⊆ order' := by
  have hset := entry_set (t := t) (e := e) (h.size_eq ▸ hi.1)
  have hsize : (t.setIfInBounds i e).size = g.size := by simp [h.size_eq]
  have hres : e.isResolved = true := by
    rcases hentry with rfl | ⟨w, -, rfl, -⟩ <;> rfl
  by_cases hmem : i ∈ order
  · refine ⟨order, ⟨hsize, h.nodup, fun v => ?_, h.ranked, fun v hv hx => ?_, h.succ, fun v hv => ?_⟩,
      List.Subset.refl _⟩
    · rw [hset]
      split
      · simp [*]
      · exact h.mem_order v
    · rw [hset]
      split
      · exact hexit (by simp_all)
      · exact h.exits v hv hx
    · rw [hset]
      split
      · subst v
        refine hentry.imp_right ?_
        rintro ⟨w, hw, he, hlt⟩
        exact ⟨w, hw, he, hlt hmem⟩
      · exact h.entry v hv
  · -- The others keep their places; the new one comes after all of them.
    have hplace : ∀ v ∈ order, place (i :: order) v = place order v := fun v hv =>
      if_neg (ne_of_mem_of_not_mem hv hmem).symm
    have hlast : ∀ v ∈ order, place (i :: order) v < place (i :: order) i := fun v hv => by
      rw [hplace v hv, place, if_pos rfl]
      exact Nat.lt_succ_of_le (place_le order v)
    refine ⟨i :: order, ⟨hsize, List.nodup_cons.2 ⟨hmem, h.nodup⟩, fun v => ?_, ?_, ?_, ?_, ?_⟩,
      List.subset_cons_self ..⟩
    · rw [hset, List.mem_cons]
      split
      · simp [*]
      · simp [*, h.mem_order v]
    · exact List.forall_mem_cons.2 ⟨hi, h.ranked⟩
    · refine List.forall_mem_cons.2 ⟨fun hx => by rw [hset, if_pos rfl, hexit hx], fun v hv hx => ?_⟩
      rw [hset, if_neg (ne_of_mem_of_not_mem hv hmem), h.exits v hv hx]
    · refine List.forall_mem_cons.2 ⟨fun hx => ?_, fun v hv hx => ?_⟩
      · obtain ⟨s, hs, hne, hso⟩ := hsucc hx
        exact ⟨s, hs, hne, by simp [hso], hlast s hso⟩
      · obtain ⟨s, hs, hne, hso, hlt⟩ := h.succ v hv hx
        exact ⟨s, hs, hne, by simp [hso], by rwa [hplace s hso, hplace v hv]⟩
    · refine List.forall_mem_cons.2 ⟨?_, fun v hv => ?_⟩
      · rw [hset, if_pos rfl]
        refine hentry.imp_right ?_
        rintro ⟨w, hw, he, -⟩
        exact ⟨w, by simp [hw], he, hlast w hw⟩
      · rw [hset, if_neg (ne_of_mem_of_not_mem hv hmem)]
        refine (h.entry v hv).imp_right ?_
        rintro ⟨w, hw, he, hlt⟩
        exact ⟨w, by simp [hw], he, by rwa [hplace w hw, hplace v hv]⟩

theorem update (h : Grounded g o t order) {e : PostDominator} (hi : i < g.size ∧ 0 < o.rank i)
    (hu : Update g o t i e) : ∃ order', Grounded g o (t.setIfInBounds i e) order' ∧ order ⊆ order' := by
  cases hu with
  | exit hx => exact h.set hi (fun _ => rfl) (absurd hx) (.inl rfl)
  | keep =>
    rw [set_entry (h.size_eq ▸ hi.1)]
    exact ⟨order, h, List.Subset.refl _⟩
  | @meet _ s hs hz =>
    have hclimb := (hz e).1 .here
    obtain ⟨hss, hne, hso⟩ := h.counts_iff.1 hs
    refine h.set hi (fun hx => by simp [hx] at hss) (fun _ => ⟨s, hss, hne, hso⟩) ?_
    by_cases hio : i ∈ order
    · -- An instruction revised has a successor before it, and what is above that is before it too.
      obtain ⟨s', hs', hne', hso', hlt⟩ := h.succ i hio (by rintro hx; simp [hx] at hss)
      refine (h.of_climb hso' (hclimb s' (h.counts_iff.2 ⟨hs', hne', hso'⟩))).imp_right ?_
      exact fun ⟨w, hw, he, hle⟩ => ⟨w, hw, he, fun _ => by omega⟩
    · refine (h.of_climb hso (hclimb s hs)).imp_right ?_
      exact fun ⟨w, hw, he, _⟩ => ⟨w, hw, he, fun hmem => absurd hmem hio⟩

end Grounded

/-- The updates of a pass over a list of instructions. -/
inductive Sweep (g : Flow) (o : Numbering) : Table → List Nat → Table → Prop where
  | done {t : Table} : Sweep g o t [] t
  | step {t t' : Table} {i : Nat} {l : List Nat} {e : PostDominator} : Update g o t i e →
      Sweep g o (t.setIfInBounds i e) l t' → Sweep g o t (i :: l) t'

/-- Every numbered instruction may keep its entry. -/
def Stable (g : Flow) (o : Numbering) (t : Table) : Prop := ∀ i ∈ o.sequence, Update g o t i (t.entry i)

theorem Stable.sweep {l : List Nat} (h : ∀ i ∈ l, Update g o t i (t.entry i))
    (hl : ∀ i ∈ l, i < t.size) : Sweep g o t l t := by
  induction l with
  | nil => exact .done
  | cons i l ih =>
    refine .step (h i (by simp)) ?_
    rw [set_entry (hl i (by simp))]
    exact ih (fun j hj => h j (by simp [hj])) fun j hj => hl j (by simp [hj])

theorem Grounded.sweep {t' : Table} {l : List Nat} (h : Grounded g o t order) (hs : Sweep g o t l t')
    (hl : ∀ i ∈ l, i < g.size ∧ 0 < o.rank i) : ∃ order', Grounded g o t' order' ∧ order ⊆ order' := by
  induction hs generalizing order with
  | done => exact ⟨order, h, List.Subset.refl _⟩
  | step hu _ ih =>
    obtain ⟨order₁, h₁, hsub₁⟩ := h.update (hl _ (by simp)) hu
    obtain ⟨order₂, h₂, hsub₂⟩ := ih h₁ fun j hj => hl j (by simp [hj])
    exact ⟨order₂, h₂, List.Subset.trans hsub₁ hsub₂⟩

end Table

namespace Pass

open Table

variable {g : Flow} {o : Numbering} {order : List Nat} {p : Pass} {i : Nat}

theorem store_table {e : PostDominator} (hi : i < p.table.size) :
    (p.store i e).table = p.table.setIfInBounds i e := by
  rw [store]
  split
  · subst e
    exact (set_entry hi).symm
  · rfl

theorem store_fault {e : PostDominator} : (p.store i e).fault = p.fault := by
  rw [store]
  split <;> rfl

/-- On a grounded table a step is an update: no walk fails and no meet is put off. -/
theorem exists_update (ho : o.Orders g) (h : Grounded g o p.table order) (hf : p.fault = none)
    (hi : i < g.size) : ∃ e, Update g o p.table i e ∧ step g o p i = p.store i e := by
  have hsize : i < p.table.size := h.size_eq ▸ hi
  rw [step, hf]
  by_cases hx : g.succs i = []
  · exact ⟨.exit, .exit hx, by simp [Flow.isExit, hx]⟩
  · have hnx : g.isExit i = false := by simpa [Flow.isExit] using hx
    by_cases hcount : ∃ s, Counts g p.table i s
    · obtain ⟨s, hs⟩ := hcount
      obtain ⟨e, he, -, hz⟩ := meet_spec (tieFree_of_orders ho) hs fun s hs =>
        h.ascends (h.counts_iff.1 hs).2.2
      exact ⟨e, .meet hs hz, by simp [hnx, he]⟩
    · refine ⟨p.table.entry i, .keep hx (not_exists.1 hcount), ?_⟩
      simp [hnx, meet_of_none (not_exists.1 hcount), store]

/-- A pass over a grounded table runs through, and says truly that nothing changed. -/
theorem foldl_step_spec (ho : o.Orders g) {l : List Nat} (hl : ∀ i ∈ l, i < g.size ∧ 0 < o.rank i)
    (h : Grounded g o p.table order) (hf : p.fault = none) :
    (l.foldl (step g o) p).fault = none ∧
      Sweep g o p.table l (l.foldl (step g o) p).table ∧
      ((l.foldl (step g o) p).changed = false →
        l.foldl (step g o) p = p ∧ ∀ i ∈ l, Update g o p.table i (p.table.entry i)) := by
  induction l generalizing p order with
  | nil => exact ⟨hf, .done, fun _ => ⟨rfl, by simp⟩⟩
  | cons i l ih =>
    obtain ⟨e, he, hstep⟩ := exists_update ho h hf (hl i (by simp)).1
    have htable := store_table (e := e) (h.size_eq ▸ (hl i (by simp)).1)
    obtain ⟨order', h', -⟩ := h.update (hl i (by simp)) he
    obtain ⟨hfault, hsweep, hsame⟩ := ih (p := p.store i e) (fun j hj => hl j (by simp [hj]))
      (htable ▸ h') (store_fault.trans hf)
    rw [List.foldl_cons, hstep]
    refine ⟨hfault, .step he (htable ▸ hsweep), fun hc => ?_⟩
    obtain ⟨heq, hupd⟩ := hsame hc
    -- A store that changed the table would have been noted.
    have hentry : p.table.entry i = e := by
      by_contra hne
      rw [heq, store, if_neg hne] at hc
      simp at hc
    have hp : p.store i e = p := by rw [store, if_pos hentry]
    rw [hp] at heq hupd ⊢
    exact ⟨heq, List.forall_mem_cons.2 ⟨hentry.symm ▸ he, hupd⟩⟩

theorem run_of_unchanged (ho : o.Orders g) {t : Table} (h : Grounded g o t order)
    (hu : ∀ i ∈ o.sequence, ∀ e, Update g o t i e → e = t.entry i) : run g o t = start t := by
  have hstep : ∀ l ⊆ o.sequence, l.foldl (step g o) (start t) = start t := by
    intro l hl
    induction l with
    | nil => rfl
    | cons i l ih =>
      have hi : i ∈ o.sequence := hl (by simp)
      obtain ⟨e, he, hstep⟩ := exists_update (p := start t) ho h rfl (ho.lt_size i hi)
      have hstore : (start t).store i e = start t := if_pos (hu i hi e he).symm
      rw [List.foldl_cons, hstep, hstore]
      exact ih fun j hj => hl (by simp [hj])
  exact hstep _ (List.Subset.refl _)

end Pass

end ControlDependence
