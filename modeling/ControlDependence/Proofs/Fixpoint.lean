-- SUMMARY: What the table holds after each pass: bounds on every entry from both sides.
import ControlDependence.Proofs.Grounded
import ControlDependence.Proofs.Route

/-!
# The fixpoint

After `k` passes the table is right as far as routes with fewer than `k` retreats can
tell: an instruction with such a route is resolved, and its entry is hit on every such
route (`Propagated`). In the other direction no guard is ever lost (`Faithful`): an
entry is guarded by whatever guards its instruction. The first bound improves with
every pass and the second holds throughout. Where the first holds of all routes the two
determine the table.
-/
namespace ControlDependence.Table

open Search (place)

variable {g : Flow} {o : Numbering} {t : Table} {order : List Nat} {i : Nat}

/-! ## The bound from above -/

/-- How many retreats are allowed for from each instruction. Along a route the
allowance shrinks no faster than the retreats still to come. -/
structure Allowance (g : Flow) (o : Numbering) (allow : Nat → Nat) : Prop where
  rise : ∀ v s : Nat, s ∈ g.succs v → 0 < o.rank s → o.rank v < o.rank s → allow v ≤ allow s
  step : ∀ v s : Nat, s ∈ g.succs v → allow v ≤ allow s + 1

/-- The table is right about all routes with fewer retreats than allowed. -/
structure Propagated (g : Flow) (o : Numbering) (t : Table) (allow : Nat → Nat) : Prop where
  resolved : ∀ (v : Nat) (p : List Nat), Route g o (v :: p) → retreats o (v :: p) < allow v →
    (t.entry v).isResolved = true
  entry : ∀ (v s w : Nat) (p : List Nat), Route g o (v :: s :: p) → retreats o (v :: s :: p) < allow v →
    t.entry v = .instruction w → Hits o w (s :: p)

/-- Where a step has used up a retreat, one less is left to allow for. -/
theorem retreats_lt_of_cons {v s m n : Nat} {p : List Nat} (hrise : o.rank v < o.rank s → m ≤ n)
    (hstep : m ≤ n + 1) (h : retreats o (v :: s :: p) < m) : retreats o (s :: p) < n := by
  simp only [retreats] at h
  split at h
  · have := hrise ‹_›
    omega
  · omega

theorem Allowance.drop {allow : Nat → Nat} (ha : Allowance g o allow) (ho : o.Orders g) {q r : List Nat}
    {v f : Nat} (hr : Route g o (v :: q ++ f :: r)) (hlt : retreats o (v :: q ++ f :: r) < allow v) :
    retreats o (f :: r) < allow f := by
  induction q generalizing v with
  | nil =>
    obtain ⟨hs, -, hf⟩ := route_cons_cons.1 hr
    exact retreats_lt_of_cons (ha.rise v f hs (hf.ranked ho (by simp))) (ha.step v f hs) hlt
  | cons s q ih =>
    obtain ⟨hs, -, hf⟩ := route_cons_cons.1 hr
    exact ih hf (retreats_lt_of_cons (ha.rise v s hs (hf.ranked ho (by simp))) (ha.step v s hs) hlt)

/-- Landmarks of a chain are hit on every route that the table is right about. -/
theorem Propagated.hits {allow : Nat → Nat} (h : Propagated g o t allow) (hgr : Grounded g o t order)
    (ha : Allowance g o allow) (ho : o.Orders g) {s w : Nat} {p : List Nat} (hs : s ∈ order)
    (hc : Climb o t (.instruction w) (.instruction s)) (hr : Route g o (s :: p))
    (hlt : retreats o (s :: p) < allow s) : Hits o w (s :: p) := by
  induction hk : place order s using Nat.strongRecOn generalizing s p with
  | ind k ih =>
    rcases climb_instruction_iff.1 hc with heq | ⟨hb, hc⟩
    · cases heq
      exact .inl rfl
    · refine .inr ⟨hb, ?_⟩
      rcases hgr.entry s hs with he | ⟨f, hf, he, hpl⟩
      · rw [he] at hc
        cases hc.eq_exit
      · -- The route hits the entry of `s`; from there the rest of the chain applies.
        have hx : g.succs s ≠ [] := fun hx => by simp [hgr.exits s hs hx] at he
        obtain ⟨s', p, rfl⟩ := exists_route_cons hr hx
        obtain ⟨q, r, hqr, hq⟩ := hits_iff.1 (h.entry s s' f p hr hlt he)
        rw [hqr] at hr hlt ⊢
        have hrf : Route g o (f :: r) := Route.drop (p := s :: q) hr
        exact hits_append hq (ih _ (hk ▸ hpl) hf (he ▸ hc) hrf (ha.drop ho hr hlt) rfl)

/-- Updating `i` lets its allowance grow to `n` if its successors' allowances permit. -/
theorem Propagated.update {allow : Nat → Nat} {e : PostDominator} {n : Nat} (h : Propagated g o t allow)
    (hgr : Grounded g o t order) (ha : Allowance g o allow) (ho : o.Orders g) (hi : i < g.size)
    (hu : Update g o t i e)
    (hrise : ∀ s ∈ g.succs i, 0 < o.rank s → o.rank i < o.rank s → n ≤ allow s)
    (hstep : ∀ s ∈ g.succs i, n ≤ allow s + 1) :
    Propagated g o (t.setIfInBounds i e) (Function.update allow i n) := by
  have hset := entry_set (t := t) (e := e) (hgr.size_eq ▸ hi)
  -- Along a route from `i`, what the table knows of the next instruction suffices.
  have hnext : ∀ s p, Route g o (i :: s :: p) → retreats o (i :: s :: p) < n →
      Route g o (s :: p) ∧ retreats o (s :: p) < allow s ∧ Counts g t i s := by
    intro s p hr hlt
    obtain ⟨hs, hne, hrs⟩ := route_cons_cons.1 hr
    have hlt' := retreats_lt_of_cons (hrise s hs (hrs.ranked ho (by simp))) (hstep s hs) hlt
    exact ⟨hrs, hlt', hs, hne, h.resolved s p hrs hlt'⟩
  constructor
  · intro v p hr hlt
    rw [hset]
    by_cases hv : v = i
    · subst hv
      rw [Function.update_self] at hlt
      rw [if_pos rfl]
      cases p with
      | nil =>
        have hx := (route_singleton.1 hr).2
        cases hu with
        | exit => rfl
        | keep hne => exact absurd hx hne
        | meet hs => simp [Counts, hx] at hs
      | cons s p =>
        obtain ⟨-, -, hcount⟩ := hnext s p hr hlt
        cases hu with
        | exit => rfl
        | keep _ hnone => exact absurd hcount (hnone s)
        | meet _ hz =>
          rcases hgr.of_climb (hgr.counts_iff.1 hcount).2.2 ((hz e).1 .here s hcount) with rfl | ⟨w, -, rfl, -⟩
          · rfl
          · rfl
    · rw [Function.update_of_ne hv] at hlt
      rw [if_neg hv]
      exact h.resolved v p hr hlt
  · intro v s w p hr hlt he
    rw [hset] at he
    by_cases hv : v = i
    · subst hv
      rw [Function.update_self] at hlt
      rw [if_pos rfl] at he
      obtain ⟨hrs, hlt', hcount⟩ := hnext s p hr hlt
      cases hu with
      | exit => cases he
      | keep _ hnone => exact absurd hcount (hnone s)
      | meet _ hz =>
        subst he
        exact h.hits hgr ha ho (hgr.counts_iff.1 hcount).2.2 ((hz _).1 .here s hcount) hrs hlt'
    · rw [Function.update_of_ne hv] at hlt
      rw [if_neg hv] at he
      exact h.entry v s w p hr hlt he

/-- The allowances in the middle of pass `k + 1`, when the instructions of `done` have
had their turn. -/
def grant (k : Nat) (done : List Nat) (v : Nat) : Nat := if v ∈ done then k + 1 else k

/-- What ranks above an instruction has its turn before it. -/
theorem mem_of_rank_lt (ho : o.Orders g) {done l : List Nat} (hseq : o.sequence = done ++ l) {v s : Nat}
    (hs : 0 < o.rank s) (hv : v ∈ done ∨ l.head? = some v) (hlt : o.rank v < o.rank s) : s ∈ done := by
  have hmem := (ho.mem_sequence s).2 hs
  have hdesc := ho.descending
  rw [hseq] at hmem hdesc
  obtain ⟨-, hl, hcross⟩ := List.pairwise_append.1 hdesc
  refine (List.mem_append.1 hmem).resolve_right fun hsl => ?_
  rcases hv with hv | hv
  · have := hcross v hv s hsl
    omega
  · cases l with
    | nil => cases hv
    | cons u l =>
      cases hv
      rcases List.mem_cons.1 hsl with rfl | hsl
      · omega
      · have := (List.pairwise_cons.1 hl).1 s hsl
        omega

theorem allowance_grant (ho : o.Orders g) {done l : List Nat} (hseq : o.sequence = done ++ l) (k : Nat) :
    Allowance g o (grant k done) where
  rise v s _ hs hlt := by
    by_cases hv : v ∈ done
    · simp [grant, hv, mem_of_rank_lt ho hseq hs (.inl hv) hlt]
    · simp only [grant, hv, if_false]
      split <;> omega
  step v s _ := by
    simp only [grant]
    split <;> split <;> omega

/-- A pass allows one more retreat from everywhere. -/
theorem Propagated.sweep {t' : Table} {done l : List Nat} {k : Nat} (h : Propagated g o t (grant k done))
    (hgr : Grounded g o t order) (ho : o.Orders g) (hseq : o.sequence = done ++ l)
    (hs : Sweep g o t l t') : Propagated g o t' fun _ => k + 1 := by
  induction hs generalizing done order with
  | done =>
    have hall : ∀ v p, Route g o (v :: p) → grant k done v = k + 1 := fun v p hr =>
      if_pos (by simpa [hseq] using (ho.mem_sequence v).2 (hr.ranked ho (by simp)))
    exact ⟨fun v p hr hlt => h.resolved v p hr (hall v p hr ▸ hlt),
      fun v s w p hr hlt he => h.entry v s w p hr (hall v _ hr ▸ hlt) he⟩
  | @step t t' i l e hu _ ih =>
    have hi := ho.of_mem i (by simp [hseq])
    obtain ⟨order', hgr', -⟩ := hgr.update hi hu
    have hupd := h.update hgr (allowance_grant ho hseq k) ho hi.1 hu (n := k + 1)
      (fun s _ hs hlt => by simp [grant, mem_of_rank_lt ho hseq hs (.inr rfl) hlt])
      (fun s _ => by simp only [grant]; split <;> omega)
    have hgrant : Function.update (grant k done) i (k + 1) = grant k (done ++ [i]) := by
      funext v
      by_cases hv : v = i
      · simp [hv, grant]
      · simp [hv, grant]
    exact ih (hgrant ▸ hupd) hgr' (by simp [hseq])

/-! ## The bound from below -/

/-- No guard is lost: what guards an instruction guards the entry, if not itself the entry. -/
def Faithful (g : Flow) (o : Numbering) (t : Table) : Prop :=
  ∀ v y : Nat, (t.entry v).isResolved = true → g.succs v ≠ [] → GuardsAfter g o y v →
    ∃ w : Nat, t.entry v = .instruction w ∧ Guards g o y w

theorem Grounded.exists_route (h : Grounded g o t order) {v : Nat} (hv : v ∈ order) :
    ∃ p, Route g o (v :: p) := by
  induction hk : place order v using Nat.strongRecOn generalizing v with
  | ind k ih =>
    by_cases hx : g.succs v = []
    · exact ⟨[], route_singleton.2 ⟨(h.ranked v hv).2, hx⟩⟩
    · obtain ⟨s, hs, hne, hso, hlt⟩ := h.succ v hv hx
      obtain ⟨p, hp⟩ := ih _ (hk ▸ hlt) hso rfl
      exact ⟨s :: p, route_cons_cons.2 ⟨hs, hne, hp⟩⟩

/-- A guard other than the instruction itself guards the entry, which comes before. -/
theorem Faithful.guards_entry (h : Faithful g o t) (hgr : Grounded g o t order) {s y : Nat} (hs : s ∈ order)
    (hne : s ≠ y) (hy : Guards g o y s) :
    o.rank s < o.rank y ∧
      ∃ w ∈ order, t.entry s = .instruction w ∧ place order w < place order s ∧ Guards g o y w := by
  obtain ⟨p, hp⟩ := hgr.exists_route hs
  obtain ⟨hlt, hx, hafter⟩ := hy.of_ne hne hp
  refine ⟨hlt, ?_⟩
  obtain ⟨w, hw, hyw⟩ := h s y ((hgr.mem_order s).1 hs) hx hafter
  rcases hgr.entry s hs with he | ⟨w', hw', he, hpl⟩
  · simp [hw] at he
  · cases hw.symm.trans he
    exact ⟨w, hw', hw, hpl, hyw⟩

/-- Everything that guards a resolved instruction is a landmark of its chain. -/
theorem Faithful.climb (h : Faithful g o t) (hgr : Grounded g o t order) {s y : Nat} (hs : s ∈ order)
    (hy : Guards g o y s) : Climb o t (.instruction y) (.instruction s) := by
  induction hk : place order s using Nat.strongRecOn generalizing s with
  | ind k ih =>
    by_cases hne : s = y
    · exact hne ▸ .here
    · obtain ⟨hlt, w, hw, he, hpl, hyw⟩ := h.guards_entry hgr hs hne hy
      exact .up hlt (he ▸ ih _ (hk ▸ hpl) hw hyw rfl)

/-- On the way up to a landmark, the guards above the landmark are kept. -/
theorem Faithful.guards_of_climb (h : Faithful g o t) (hgr : Grounded g o t order) {s w y : Nat}
    (hs : s ∈ order) (hc : Climb o t (.instruction w) (.instruction s))
    (hyw : Climb o t (.instruction y) (.instruction w)) (hy : Guards g o y s) : Guards g o y w := by
  induction hk : place order s using Nat.strongRecOn generalizing s with
  | ind k ih =>
    rcases climb_instruction_iff.1 hc with heq | ⟨hb, hc⟩
    · cases heq
      exact hy
    · have hlt : o.rank s < o.rank w := hb
      have hne : s ≠ y := by
        rintro rfl
        rcases climb_instruction_iff.1 hyw with heq | ⟨hb', -⟩
        · cases heq
          omega
        · have hlt' : o.rank w < o.rank s := hb'
          omega
      obtain ⟨-, f, hf, he, hpl, hyf⟩ := h.guards_entry hgr hs hne hy
      exact ih _ (hk ▸ hpl) hf (he ▸ hc) hyf rfl

theorem Faithful.update_guards (h : Faithful g o t) (hgr : Grounded g o t order) {e : PostDominator} {y : Nat}
    (hres : e.isResolved = true) (hx : g.succs i ≠ []) (hu : Update g o t i e) (hy : GuardsAfter g o y i) :
    ∃ w : Nat, e = .instruction w ∧ Guards g o y w := by
  cases hu with
  | exit hx' => exact absurd hx' hx
  | keep => exact h i y hres hx hy
  | @meet _ s hs hz =>
    have hguards : ∀ s, Counts g t i s → Guards g o y s := fun s hs => .of_succ hy hs.1 hs.2.1
    have hye : Climb o t (.instruction y) e :=
      (hz _).2 fun s hs => h.climb hgr (hgr.counts_iff.1 hs).2.2 (hguards s hs)
    have hso := (hgr.counts_iff.1 hs).2.2
    rcases hgr.of_climb hso ((hz e).1 .here s hs) with rfl | ⟨w, -, rfl, -⟩
    · cases hye.eq_exit
    · exact ⟨w, rfl, h.guards_of_climb hgr hso ((hz _).1 .here s hs) hye (hguards s hs)⟩

theorem Faithful.sweep {t' : Table} {l : List Nat} (h : Faithful g o t) (hgr : Grounded g o t order)
    (hl : ∀ i ∈ l, i < g.size ∧ 0 < o.rank i) (hs : Sweep g o t l t') : Faithful g o t' := by
  induction hs generalizing order with
  | done => exact h
  | @step t t' i l e hu _ ih =>
    obtain ⟨order', hgr', -⟩ := hgr.update (hl i (by simp)) hu
    refine ih ?_ hgr' fun j hj => hl j (by simp [hj])
    intro v y hres hx hy
    rw [entry_set (hgr.size_eq ▸ (hl i (by simp)).1)] at hres ⊢
    by_cases hv : v = i
    · subst hv
      rw [if_pos rfl] at hres ⊢
      exact h.update_guards hgr hres hx hu hy
    · rw [if_neg hv] at hres ⊢
      exact h v y hres hx hy

end ControlDependence.Table
