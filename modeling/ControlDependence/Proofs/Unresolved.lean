-- SUMMARY: An entry is unset where no counted exit can be reached and nowhere else, and the figures count these places.
import Mathlib.Data.Set.Card
import ControlDependence.Proofs.ImmediatePostDominator

/-!
# Unresolved instructions

A solved table has an entry for each instruction from which a path leads to an exit that
counts, and for no other. Being ranked is not enough for an entry: the numbering starts
at the last instruction even if that never ends, and reaches all that leads there. So
what is left unset is a matter of paths alone, wherever the exits stand.
-/
namespace ControlDependence

namespace Table

variable {g : Flow} {o : Numbering} {t : Table}

/-- A table lists the entries of its positions. -/
theorem toList_eq_map_entry (t : Table) : t.toList = (List.range t.size).map fun i : Nat => t.entry i := by
  apply List.ext_getElem
  · simp
  · intro i hi _
    have hi' : i < t.size := by simpa using hi
    simp [entry_natCast, hi']

theorem unresolved_eq_ncard (t : Table) :
    t.unresolved = {i : Nat | i < t.size ∧ t.entry i = .unset}.ncard := by
  have hset : {i : Nat | i < t.size ∧ t.entry i = .unset} =
      ((List.range t.size).filter fun i : Nat => !(t.entry i).isResolved).toFinset := by
    ext i
    have hunset : t.entry i = .unset ↔ (t.entry i).isResolved = false := by
      cases t.entry i <;> simp [PostDominator.isResolved]
    simp [hunset]
  rw [hset, Set.ncard_coe_finset, List.toFinset_card_of_nodup (List.nodup_range.filter _), unresolved,
    toList_eq_map_entry, List.filter_map, List.length_map]
  rfl

namespace Solved

theorem entry_eq_unset_iff (h : t.Solved g o) (v : Nat) :
    t.entry v = .unset ↔ ¬ g.Reaches (o.Ends g) v := by
  rw [← h.resolved_iff v]
  constructor
  · intro he
    rw [he]
    exact Bool.false_ne_true
  · exact eq_unset_of_not_isResolved

theorem unresolved_eq (h : t.Solved g o) :
    t.unresolved = {i : Nat | i < g.size ∧ ¬ g.Reaches (o.Ends g) i}.ncard := by
  obtain ⟨order, hgr⟩ := h.grounded
  rw [unresolved_eq_ncard, hgr.size_eq]
  simp only [h.entry_eq_unset_iff]

end Solved

end Table

namespace Outcome

variable {opts : Options} {cut : Option Cutoff} {code : Code} {a : Analysis}

/-- In every analysis, whatever the last instruction is, an immediate post-dominator is
unset if and only if no path leads to an exit that counts, and the figure of unresolved
instructions is the number of these. -/
theorem unset_iff_no_exit_reachable (hc : code.check = .ok ())
    (h : (Outcome.of opts cut (some code)).result = .ok a) :
    (∀ i : Nat, a.immediatePostDominator i = .unset ↔
        ¬ code.flow.Reaches (code.flow.Exit opts.exitRoots) i) ∧
      a.stats.unresolved =
        {i : Nat | i < code.size ∧ ¬ code.flow.Reaches (code.flow.Exit opts.exitRoots) i}.ncard := by
  obtain ⟨-, hsolved, -⟩ := solved_of_result hc h
  rw [Numbering.exit_eq_ends (Code.flow_wellFormed hc)]
  refine ⟨hsolved.entry_eq_unset_iff, ?_⟩
  exact congrArg Int.ofNat hsolved.unresolved_eq

/-- An exit in the middle, and in last place an instruction that never ends. -/
def trapInLastPlace : Code :=
  .built {
    instructions := #[
      { label := "", succs := [1, 3], preds := [1] },
      { label := "", succs := [2, 0], preds := [0] },
      { label := "", succs := [], preds := [1] },
      { label := "", succs := [3], preds := [0, 3] }]
    edges := {(0, 1), (0, 3), (1, 2), (1, 0), (3, 3)}
    frozen := true }

theorem unset_trapInLastPlace : trapInLastPlace.check = .ok () ∧
    ∃ a, (Outcome.of {} none (some trapInLastPlace)).result = .ok a ∧
      (∀ i : Nat, a.immediatePostDominator i = .unset ↔
        ¬ trapInLastPlace.flow.Reaches (trapInLastPlace.flow.Exit true) i) ∧
      a.stats.unresolved = {i : Nat | i < trapInLastPlace.size ∧
        ¬ trapInLastPlace.flow.Reaches (trapInLastPlace.flow.Exit true) i}.ncard := by
  have hc : trapInLastPlace.check = .ok () := by decide +kernel
  have hmax : ({} : Options).maxPasses ≤ 0 := Int.le_refl 0
  obtain ⟨a, ha, -⟩ := exists_result hc hmax
  exact ⟨hc, a, ha, unset_iff_no_exit_reachable hc ha⟩

end Outcome

end ControlDependence
