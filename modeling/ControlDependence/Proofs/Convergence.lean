-- SUMMARY: The automatic bound on passes is never reached.
import ControlDependence.Dependence.Analysis
import ControlDependence.Proofs.Detour
import ControlDependence.Proofs.Solution

/-!
# Convergence

An entry that is wrong is refuted by a route with no more retreats than there are ranked
instructions, and the table after one pass more than that is right about all such
routes. So it is exact, and the pass after it, the last that the automatic bound
allows, finds nothing to change. For a numbering that is not a post-order of a
depth-first search this many passes need not be enough.
-/
namespace ControlDependence

namespace Table

variable {g : Flow} {o : Numbering} {lo : Nat → Nat} {t : Table}

theorem Reached.exact_of_detour (hg : g.WellFormed) (ho : o.Orders g)
    (hf : Search.Forest g (fun v => o.rank v) lo 0 o.sequence)
    (h : Reached g o (o.sequence.length + 1) t) : Exact g o t := by
  have hprop := h.propagated ho
  constructor
  · intro v p hr
    obtain ⟨q, hq, hnd, -⟩ := Route.of_path hr.1
    have hlt := retreats_lt_length (o := o) (v := v) (p := q)
    have hlen := length_le_of_nodup ho hnd fun x hx => hq.ranked ho hx
    exact hprop.resolved v q hq (by omega)
  · intro v w he s p hr
    by_contra hn
    obtain ⟨hs, hne, hrs⟩ := route_cons_cons.1 hr
    obtain ⟨q, hq, hnq, hlt⟩ := exists_detour hg ho hf hrs hn
    refine hnq (hprop.entry v s w q (route_cons_cons.2 ⟨hs, hne, hq⟩) ?_ he)
    simp only [retreats]
    split <;> omega

end Table

/-- Uninterrupted and under the automatic bound, the solver stops of itself. -/
theorem Solver.exists_solve_automatic {g : Flow} (hg : g.WellFormed) (useExits : Bool) {maxPasses : Int}
    (hmax : maxPasses ≤ 0) :
    ∃ s, (init g (.ofFlow g useExits) maxPasses).solve none = (s, none) ∧
      s.passes ≤ (Numbering.ofFlow g useExits).sequence.length + 2 := by
  have ho := Numbering.ofFlow_orders hg useExits
  obtain ⟨lo, hf⟩ := Numbering.exists_forest g useExits
  have hbound : (Numbering.ofFlow g useExits).sequence.length + 1 <
      boundFor (.ofFlow g useExits) maxPasses := by
    rw [boundFor, if_pos hmax]
    exact Nat.lt_succ_self _
  exact exists_solve_eq ho hbound fun t ht => ht.exact_of_detour hg ho hf

namespace Outcome

variable {opts : Options} {code : Code}

/-- Accepted code is analysed if nothing interrupts and the bound is the automatic one. -/
theorem exists_result (hc : code.check = .ok ()) (hmax : opts.maxPasses ≤ 0) :
    ∃ a, (Outcome.of opts none (some code)).result = .ok a ∧
      a.passes ≤ a.numbering.sequence.length + 2 := by
  have hg := Code.flow_wellFormed hc
  obtain ⟨s, hs, hpasses⟩ := Solver.exists_solve_automatic hg opts.exitRoots hmax
  have hok := (result_eq_ok_iff hc).2 ⟨s, hs, rfl⟩
  obtain ⟨hnum, -, -⟩ := solved_of_result hc hok
  refine ⟨.ofSolver code s, hok, ?_⟩
  rw [hnum]
  exact hpasses

/-- Without a bound of its own and without interruption every accepted method is
analysed, in at most two passes more than it has ranked instructions, and a further
pass over the result would change nothing. -/
theorem solves_within_automatic_bound (hc : code.check = .ok ()) (hmax : opts.maxPasses ≤ 0) :
    ∃ a, (Outcome.of opts none (some code)).result = .ok a ∧
      a.numbering = Numbering.ofFlow code.flow opts.exitRoots ∧
      a.passes ≤ a.numbering.sequence.length + 2 ∧
      (Pass.run code.flow a.numbering a.table).changed = false := by
  have ho := Numbering.ofFlow_orders (Code.flow_wellFormed hc) opts.exitRoots
  obtain ⟨a, ha, hpasses⟩ := exists_result hc hmax
  obtain ⟨hnum, hsolved, -⟩ := solved_of_result hc ha
  refine ⟨a, ha, hnum, hpasses, ?_⟩
  rw [hnum, hsolved.run_eq_start ho]
  rfl

/-- A loop of two instructions that is entered at either, with the last instruction in it. -/
def twoEntryLoop : Code :=
  .built {
    instructions := #[
      { label := "", succs := [1, 3], preds := [] },
      { label := "", succs := [3, 2], preds := [0, 3] },
      { label := "", succs := [], preds := [1] },
      { label := "", succs := [1], preds := [0, 1] }]
    edges := {(0, 1), (0, 3), (1, 3), (1, 2), (3, 1)}
    frozen := true }

theorem solves_twoEntryLoop : twoEntryLoop.check = .ok () ∧
    ∃ a, (Outcome.of {} none (some twoEntryLoop)).result = .ok a ∧
      a.numbering = Numbering.ofFlow twoEntryLoop.flow true ∧
      a.passes ≤ a.numbering.sequence.length + 2 ∧
      (Pass.run twoEntryLoop.flow a.numbering a.table).changed = false :=
  ⟨by decide +kernel, solves_within_automatic_bound (by decide +kernel) (by decide)⟩

end Outcome

end ControlDependence
