-- SUMMARY: Tables that are right about all routes, the tables a solver passes through, and where it stops.
import ControlDependence.Dependence.Analysis
import ControlDependence.Proofs.Fixpoint

/-!
# Solutions

A table is exact if it is right about all routes. A table reached by passes that a
further pass leaves alone is exact, and on an exact table a pass changes nothing: the
bounds from above and below leave each entry one value. So the solver stops as soon as
its table is exact and not before.
-/
namespace ControlDependence

namespace Table

variable {g : Flow} {o : Numbering} {t t' : Table} {order : List Nat} {i k : Nat}

/-- Instructions with a route are resolved, and entries are guards. -/
structure Exact (g : Flow) (o : Numbering) (t : Table) : Prop where
  resolved : ∀ (v : Nat) (p : List Nat), Route g o (v :: p) → (t.entry v).isResolved = true
  entry : ∀ v w : Nat, t.entry v = .instruction w → GuardsAfter g o w v

theorem exact_iff : Exact g o t ↔ ∀ k, Propagated g o t fun _ => k := by
  constructor
  · exact fun h k => ⟨fun v p hr _ => h.resolved v p hr, fun v s w p hr _ he => h.entry v w he s p hr⟩
  · exact fun h => ⟨fun v p hr => (h _).resolved v p hr (Nat.lt_succ_self _),
      fun v w he s p hr => (h _).entry v s w p hr (Nat.lt_succ_self _) he⟩

theorem Exact.update {e : PostDominator} (h : Exact g o t) (hgr : Grounded g o t order) (ho : o.Orders g)
    (hi : i < g.size) (hu : Update g o t i e) : Exact g o (t.setIfInBounds i e) := by
  rw [exact_iff] at h ⊢
  intro k
  have hupd := (h k).update hgr ⟨fun _ _ _ _ _ => le_rfl, fun _ _ _ => Nat.le_succ _⟩ ho hi hu (n := k)
    (fun _ _ _ _ => le_rfl) fun _ _ => Nat.le_succ _
  simpa using hupd

/-- There is one entry that is a guard and is guarded by every other guard. -/
theorem eq_of_guardsAfter {v : Nat} {p : List Nat} {e e' : PostDominator} (hr : Route g o (v :: p))
    (hx : g.succs v ≠ [])
    (he : e = .exit ∨ ∃ w : Nat, e = .instruction w ∧ GuardsAfter g o w v)
    (he' : e' = .exit ∨ ∃ w : Nat, e' = .instruction w ∧ GuardsAfter g o w v)
    (hf : ∀ y, GuardsAfter g o y v → ∃ w : Nat, e = .instruction w ∧ Guards g o y w)
    (hf' : ∀ y, GuardsAfter g o y v → ∃ w : Nat, e' = .instruction w ∧ Guards g o y w) : e = e' := by
  rcases he with rfl | ⟨w, rfl, hw⟩
  · rcases he' with rfl | ⟨w', rfl, hw'⟩
    · rfl
    · obtain ⟨_, hcon, -⟩ := hf w' hw'
      cases hcon
  · rcases he' with rfl | ⟨w', rfl, hw'⟩
    · obtain ⟨_, hcon, -⟩ := hf' w hw
      cases hcon
    · obtain ⟨_, heq, hg⟩ := hf w' hw'
      obtain ⟨_, heq', hg'⟩ := hf' w hw
      cases heq
      cases heq'
      -- The two entries guard each other.
      obtain ⟨s, q, rfl⟩ := exists_route_cons hr hx
      obtain ⟨a, b, hab, -⟩ := hits_iff.1 (hw s q hr)
      rw [hab] at hr
      rw [hg.antisymm hg' (Route.drop (p := v :: a) hr)]

/-- An update of an exact table puts back what is there. -/
theorem Exact.update_eq {e : PostDominator} (h : Exact g o t) (hf : Faithful g o t)
    (hgr : Grounded g o t order) (ho : o.Orders g) (hi : i < g.size ∧ 0 < o.rank i)
    (hu : Update g o t i e) : e = t.entry i := by
  have hset := entry_set (t := t) (e := e) (hgr.size_eq ▸ hi.1)
  have hex := h.update hgr ho hi.1 hu
  cases hu with
  | exit hx =>
    have hres := h.resolved i [] (route_singleton.2 ⟨hi.2, hx⟩)
    exact (hgr.exits i ((hgr.mem_order i).2 hres) hx).symm
  | keep => rfl
  | @meet _ s hs hz =>
    obtain ⟨hss, hne, hso⟩ := hgr.counts_iff.1 hs
    have hx : g.succs i ≠ [] := List.ne_nil_of_mem hss
    obtain ⟨p, hp⟩ := hgr.exists_route hso
    have hr : Route g o (i :: s :: p) := route_cons_cons.2 ⟨hss, hne, hp⟩
    have hires := h.resolved i _ hr
    have heres : e.isResolved = true := by
      simpa [hset] using hex.resolved i _ hr
    refine eq_of_guardsAfter hr hx ?_ ?_ (fun y => hf.update_guards hgr heres hx (.meet hs hz))
      fun y => hf i y hires hx
    · refine (hgr.of_climb hso ((hz e).1 .here s hs)).imp_right ?_
      exact fun ⟨w, _, he, _⟩ => ⟨w, he, hex.entry i w (by rw [hset, if_pos rfl, he])⟩
    · refine (hgr.entry i ((hgr.mem_order i).2 hires)).imp_right ?_
      exact fun ⟨w, _, he, _⟩ => ⟨w, he, h.entry i w he⟩

/-- What a table that the solver has finished holds. -/
structure Solved (g : Flow) (o : Numbering) (t : Table) : Prop where
  grounded : ∃ order, Grounded g o t order
  exact : Exact g o t
  faithful : Faithful g o t

/-- A pass over a solved table does nothing. -/
theorem Solved.run_eq_start (h : t.Solved g o) (ho : o.Orders g) : Pass.run g o t = Pass.start t := by
  obtain ⟨order, hgr⟩ := h.grounded
  refine Pass.run_of_unchanged ho hgr fun i hi e he => ?_
  exact h.exact.update_eq h.faithful hgr ho (ho.of_mem i hi) he

/-! ## Passes -/

/-- The table after `k` passes. -/
inductive Reached (g : Flow) (o : Numbering) : Nat → Table → Prop where
  | start : Reached g o 0 (blank g.size)
  | pass {k : Nat} {t t' : Table} : Reached g o k t → Sweep g o t o.sequence t' → Reached g o (k + 1) t'

namespace Reached

variable (ho : o.Orders g)

include ho in
theorem grounded (h : Reached g o k t) : ∃ order, Grounded g o t order := by
  induction h with
  | start => exact ⟨[], grounded_blank⟩
  | pass _ hs ih =>
    obtain ⟨order, hgr⟩ := ih
    obtain ⟨order', hgr', -⟩ := hgr.sweep hs ho.of_mem
    exact ⟨order', hgr'⟩

include ho in
theorem faithful (h : Reached g o k t) : Faithful g o t := by
  induction h with
  | start =>
    intro v y hres
    exact absurd ((grounded_blank (o := o)).mem_order v |>.2 hres) (by simp)
  | pass h hs ih =>
    obtain ⟨order, hgr⟩ := h.grounded ho
    exact ih.sweep hgr ho.of_mem hs

include ho in
theorem propagated (h : Reached g o k t) : Propagated g o t fun _ => k := by
  induction h with
  | start => exact ⟨fun _ _ _ hlt => absurd hlt (by omega), fun _ _ _ _ _ hlt => absurd hlt (by omega)⟩
  | @pass k t t' h hs ih =>
    obtain ⟨order, hgr⟩ := h.grounded ho
    have hgrant : grant k [] = fun _ => k := by
      funext v
      simp [grant]
    have hfirst : Propagated g o t (grant k []) := hgrant ▸ ih
    exact hfirst.sweep hgr ho rfl hs

include ho in
/-- A table that passes leave alone counts as reached by any number of them. -/
theorem exact (h : Reached g o k t) (hs : Stable g o t) : Exact g o t := by
  obtain ⟨order, hgr⟩ := h.grounded ho
  have hsweep : Sweep g o t o.sequence t :=
    Stable.sweep hs fun i hi => hgr.size_eq ▸ ho.lt_size i hi
  have hmore : ∀ m, Reached g o (k + m) t := by
    intro m
    induction m with
    | zero => exact h
    | succ m ih => exact .pass ih hsweep
  refine ⟨fun v p hr => ?_, fun v w he s p hr => ?_⟩
  · exact ((hmore (retreats o (v :: p) + 1)).propagated ho).resolved v p hr (by omega)
  · exact ((hmore (retreats o (v :: s :: p) + 1)).propagated ho).entry v s w p hr (by omega) he

include ho in
theorem solved (h : Reached g o k t) (hex : Exact g o t) : t.Solved g o :=
  ⟨h.grounded ho, hex, h.faithful ho⟩

end Reached

end Table

namespace Solver

open Table

variable {g : Flow} {o : Numbering} {s : Solver}

/-- The solver works on the given graph and numbering and has its table by passes. -/
structure Runs (g : Flow) (o : Numbering) (s : Solver) : Prop where
  flow_eq : s.flow = g
  numbering_eq : s.numbering = o
  reached : Reached g o s.passes s.table

theorem runs_init (g : Flow) (o : Numbering) (maxPasses : Int) : Runs g o (init g o maxPasses) :=
  ⟨rfl, rfl, .start⟩

/-- A pass never faults, and one that reports no change leaves a stable table. -/
theorem pass_spec (ho : o.Orders g) (h : Runs g o s) :
    ∃ s' changed, s.pass = (s', changed, none) ∧ Runs g o s' ∧ s'.passes = s.passes + 1 ∧
      s'.bound = s.bound ∧ (changed = false → Stable g o s'.table) ∧
      (Exact g o s.table → changed = false) := by
  obtain ⟨rfl, rfl, hreach⟩ := h
  obtain ⟨order, hgr⟩ := hreach.grounded ho
  obtain ⟨hfault, hsweep, hsame⟩ := Pass.foldl_step_spec (p := Pass.start s.table) ho ho.of_mem hgr rfl
  refine ⟨{ s with table := (Pass.run s.flow s.numbering s.table).table, passes := s.passes + 1 },
    (Pass.run s.flow s.numbering s.table).changed, ?_, ⟨rfl, rfl, .pass hreach hsweep⟩, rfl, rfl, ?_, ?_⟩
  · exact Prod.ext rfl (Prod.ext rfl hfault)
  · intro hc
    obtain ⟨heq, hstable⟩ := hsame hc
    have htable : (Pass.run s.flow s.numbering s.table).table = s.table := congrArg Pass.table heq
    rw [htable]
    exact hstable
  · intro hex
    rw [(hreach.solved ho hex).run_eq_start ho]
    rfl

/-- Where the solver stops of itself, its table is one that passes leave alone. -/
theorem stable_of_loop (ho : o.Orders g) {cut : Option Cutoff} {fuel asked : Nat} {s' : Solver}
    (h : Runs g o s) (hl : loop cut fuel asked s = (s', none)) : Runs g o s' ∧ Stable g o s'.table := by
  induction fuel generalizing asked s with
  | zero => simp [loop] at hl
  | succ fuel ih =>
    obtain ⟨s₁, changed, hpass, h₁, -, -, hstable, -⟩ := pass_spec ho h
    rw [loop, hpass] at hl
    cases hcut : Cutoff.answer cut asked with
    | some c => simp [hcut] at hl
    | none =>
      cases changed with
      | true => exact ih h₁ (by simpa [hcut] using hl)
      | false =>
        obtain rfl : s₁ = s' := by simpa [hcut] using hl
        exact ⟨h₁, hstable rfl⟩

/-- A solver whose table is exact after `m` passes stops at the next pass if not before. -/
theorem exists_loop_eq (ho : o.Orders g) {m fuel : Nat} (asked : Nat) (h : Runs g o s) (hle : s.passes ≤ m)
    (hfuel : m < s.passes + fuel) (hex : ∀ t, Reached g o m t → Exact g o t) :
    ∃ s', loop none fuel asked s = (s', none) ∧ s'.passes ≤ m + 1 := by
  induction fuel generalizing asked s with
  | zero => omega
  | succ fuel ih =>
    obtain ⟨s₁, changed, hpass, h₁, hpasses, -, -, hexact⟩ := pass_spec ho h
    rw [loop, hpass]
    cases changed with
    | false => exact ⟨s₁, rfl, by omega⟩
    | true =>
      have hlt : s.passes < m := by
        refine Nat.lt_of_le_of_ne hle fun heq => ?_
        simpa using hexact (hex _ (heq ▸ h.reached))
      exact ih _ h₁ (by omega) (by omega)

theorem exists_solve_eq (ho : o.Orders g) {m : Nat} {maxPasses : Int} (hm : m < boundFor o maxPasses)
    (hex : ∀ t, Reached g o m t → Exact g o t) :
    ∃ s, (init g o maxPasses).solve none = (s, none) ∧ s.passes ≤ m + 1 :=
  exists_loop_eq ho 0 (runs_init g o maxPasses) (Nat.zero_le m) (by simpa [init] using hm) hex

end Solver

namespace Outcome

variable {opts : Options} {cut : Option Cutoff} {code : Code} {a : Analysis}

/-- Accepted code is analysed by solving its graph, whether or not it is checked again. -/
theorem result_of_check (hc : code.check = .ok ()) : (Outcome.of opts cut (some code)).result =
    match (Solver.init code.flow (.ofFlow code.flow opts.exitRoots) opts.maxPasses).solve cut with
    | (_, some f) => .error f
    | (s, none) => .ok (.ofSolver code s) := by
  have hval : (if opts.skipValidation then .ok () else code.check) = .ok () := by
    rw [hc]
    exact ite_self _
  simp only [Outcome.of, hval, Code.isReadable_of_check hc, if_true]
  cases (Solver.init code.flow (.ofFlow code.flow opts.exitRoots) opts.maxPasses).solve cut with
  | mk s f => cases f <;> rfl

theorem result_eq_ok_iff (hc : code.check = .ok ()) :
    (Outcome.of opts cut (some code)).result = .ok a ↔
      ∃ s, (Solver.init code.flow (.ofFlow code.flow opts.exitRoots) opts.maxPasses).solve cut = (s, none) ∧
        a = .ofSolver code s := by
  rw [result_of_check hc]
  cases (Solver.init code.flow (.ofFlow code.flow opts.exitRoots) opts.maxPasses).solve cut with
  | mk s f => cases f <;> simp [eq_comm]

theorem result_eq_error_iff (hc : code.check = .ok ()) {f : Failure} :
    (Outcome.of opts cut (some code)).result = .error f ↔
      ∃ s, (Solver.init code.flow (.ofFlow code.flow opts.exitRoots) opts.maxPasses).solve cut = (s, some f) := by
  rw [result_of_check hc]
  cases (Solver.init code.flow (.ofFlow code.flow opts.exitRoots) opts.maxPasses).solve cut with
  | mk s f => cases f <;> simp

/-- An analysis is read off a solved table of the accepted graph. -/
theorem solved_of_result (hc : code.check = .ok ()) (h : (Outcome.of opts cut (some code)).result = .ok a) :
    a.numbering = .ofFlow code.flow opts.exitRoots ∧
      a.table.Solved code.flow (.ofFlow code.flow opts.exitRoots) ∧
      a.relation = .ofTable code.flow a.table := by
  obtain ⟨s, hs, rfl⟩ := (result_eq_ok_iff hc).1 h
  have ho := Numbering.ofFlow_orders (Code.flow_wellFormed hc) opts.exitRoots
  obtain ⟨hruns, hstable⟩ := Solver.stable_of_loop ho (Solver.runs_init ..) hs
  refine ⟨hruns.numbering_eq, ?_, ?_⟩
  · exact hruns.reached.solved ho (hruns.reached.exact ho hstable)
  · simp [Analysis.ofSolver, hruns.flow_eq]

end Outcome

end ControlDependence
