-- SUMMARY: Control dependence by paths, and that a table of immediate post-dominators yields exactly it.
import ControlDependence.Proofs.ImmediatePostDominator
import ControlDependence.Proofs.Trail

/-!
# Control dependence by paths

An instruction depends on a branch if it must execute once some successor of the branch
has been taken, but need not execute after the branch otherwise. From a table of
immediate post-dominators the relation builder collects exactly these pairs: the trail
from a successor goes through the post-dominators of the successor, from the nearest
on, and the immediate post-dominator of the branch is the first among them that
post-dominates the branch as well.
-/
namespace ControlDependence

variable {g : Flow} {X : Nat → Prop} {t : Table} {stop : PostDominator}

/-- `y` depends on `x`: some successor of the branch `x` is `y` or cannot end without it,
and `x` itself can. -/
def Flow.ControlDepends (g : Flow) (X : Nat → Prop) (y x : Nat) : Prop :=
  2 ≤ (g.succs x).length ∧ (∃ s ∈ g.succs x, y = s ∨ g.PostDominates X y s) ∧
    ¬ (y ≠ x ∧ g.PostDominates X y x)

namespace Table.Correct

theorem entry_cases (h : t.Correct g X) (v : Nat) :
    t.entry v = .unset ∨ t.entry v = .exit ∨
      ∃ m : Nat, t.entry v = .instruction m ∧ g.ImmediatelyPostDominates X m v := by
  by_cases hv : g.Reaches X v
  · refine .inr (or_iff_not_imp_left.2 fun hne => ?_)
    rw [h.exit_iff v hv] at hne
    push Not at hne
    obtain ⟨y, hyv, hy⟩ := hne
    obtain ⟨m, hm⟩ := Flow.exists_immediatelyPostDominates hy hyv
    exact ⟨m, (h.instruction_iff v m).2 hm, hm⟩
  · exact .inl (eq_unset_of_not_isResolved (mt (h.resolved_iff v).1 hv))

/-- A trail goes through post-dominators of its start, and whatever it was stopped by
post-dominates all of it. -/
theorem postDominates_of_trail (h : t.Correct g X) {s : Nat} {y : Int}
    (ht : Trail t stop (.instruction s) y) :
    ∃ w : Nat, y = w ∧ (w = s ∨ g.PostDominates X w s) ∧ stop ≠ .instruction w ∧
      ∀ m : Nat, stop = .instruction m → g.PostDominates X m s → g.PostDominates X m w := by
  generalize he : PostDominator.instruction s = e at ht
  induction ht generalizing s with
  | here hstop =>
    cases he
    exact ⟨s, rfl, .inl rfl, hstop, fun _ _ hm => hm⟩
  | @next i y hstop ht ih =>
    cases he
    rcases h.entry_cases s with hu | hx | ⟨j, hj, hne, hpd, hnear⟩
    · rw [hu] at ht
      cases ht
    · rw [hx] at ht
      cases ht
    · obtain ⟨w, rfl, hw, hws, hm⟩ := ih hj.symm
      have hws' : g.PostDominates X w s := by
        rcases hw with rfl | hw
        · exact hpd
        · exact hpd.trans hw
      refine ⟨w, rfl, .inr hws', hws, fun m hsm hms => hm m hsm ?_⟩
      by_cases hmj : m = j
      · subst hmj
        exact .refl hpd.reaches
      · refine hnear m ?_ hmj hms
        rintro rfl
        exact hstop hsm

/-- A post-dominator is on the trail unless what stops the trail comes first. -/
theorem trail_of_postDominates (h : t.Correct g X) {s y : Nat} (hy : y = s ∨ g.PostDominates X y s)
    (hstop : ∀ m : Nat, stop = .instruction m → y ≠ m ∧ ¬ g.PostDominates X y m) :
    Trail t stop (.instruction s) y := by
  have hhere : Trail t stop (.instruction y) y := .here fun hs => (hstop y hs).1 rfl
  by_cases hys : y = s
  · exact hys ▸ hhere
  · replace hy := hy.resolve_left hys
    obtain ⟨p, hp⟩ := hy.1
    -- The immediate post-dominator is further down the path.
    induction hk : p.length using Nat.strongRecOn generalizing s p with
    | ind k ih =>
      obtain ⟨m, hne, hpd, hnear⟩ := Flow.exists_immediatelyPostDominates hy hys
      have hentry := (h.instruction_iff s m).2 ⟨hne, hpd, hnear⟩
      refine .next (fun hs => (hstop s hs).2 hy) (hentry ▸ ?_)
      by_cases hym : y = m
      · exact hym ▸ hhere
      · obtain ⟨a, b, rfl⟩ := List.append_of_mem ((List.mem_cons.1 (hpd.2 p hp)).resolve_left hne)
        have hlt : b.length < k := by
          rw [← hk, List.length_append, List.length_cons]
          omega
        exact ih b.length hlt hym (hnear y hys hym hy) b (Flow.Path.drop (p := s :: a) hp) rfl

theorem contributes_iff (h : t.Correct g X) {x y : Nat} :
    Relation.Contributes g t x y ↔
      (∃ s ∈ g.succs x, y = s ∨ g.PostDominates X y s) ∧ ¬ (y ≠ x ∧ g.PostDominates X y x) := by
  constructor
  · rintro ⟨s, hs, ht⟩
    obtain ⟨w, hw, hws, hstop, hm⟩ := h.postDominates_of_trail ht
    obtain rfl := Int.natCast_inj.1 hw
    refine ⟨⟨s, hs, hws⟩, fun ⟨hyx, hy⟩ => ?_⟩
    -- The entry of the branch comes before `y` and post-dominates it, so they are the same.
    obtain ⟨m, hmx, hmpd, hnear⟩ := Flow.exists_immediatelyPostDominates hy hyx
    have hentry := (h.instruction_iff x m).2 ⟨hmx, hmpd, hnear⟩
    have hym : y ≠ m := by
      rintro rfl
      exact hstop hentry
    have hsr : g.Reaches X s := hws.elim (fun he => he ▸ hy.reaches) And.left
    have hmy := hm m hentry (hmpd.of_succ hmx hs hsr)
    exact hym ((hnear y hyx hym hy).antisymm hmy)
  · rintro ⟨⟨s, hs, hys⟩, hnot⟩
    refine ⟨s, hs, h.trail_of_postDominates hys fun m hm => ?_⟩
    obtain ⟨hmx, hmpd, -⟩ := (h.instruction_iff x m).1 hm
    refine ⟨?_, fun hym => ?_⟩
    · rintro rfl
      exact hnot ⟨hmx, hmpd⟩
    · by_cases hyx : y = x
      · exact hmx (hmpd.antisymm (hyx ▸ hym))
      · exact hnot ⟨hyx, hmpd.trans hym⟩

end Table.Correct

theorem Table.Solved.inRange {o : Numbering} (h : t.Solved g o) (i : Int) : (t.entry i).InRange g.size := by
  obtain ⟨order, hgr⟩ := h.grounded
  by_cases hi : i < 0
  · simp [entry, hi, PostDominator.InRange]
  · obtain ⟨v, rfl⟩ : ∃ v : Nat, i = v := Int.eq_ofNat_of_zero_le (Int.not_lt.1 hi)
    by_cases hv : v ∈ order
    · rcases hgr.entry v hv with he | ⟨w, hw, he, -⟩
      · rw [he]
        trivial
      · rw [he]
        have := (hgr.ranked w hw).1
        exact ⟨by omega, by omega⟩
    · rw [eq_unset_of_not_isResolved (mt (hgr.mem_order v).2 hv)]
      trivial

namespace Outcome

variable {opts : Options} {cut : Option Cutoff} {code : Code} {a : Analysis}

/-- The controllers of an instruction are the branches that contribute it. -/
theorem mem_controllersOf_iff_exists (hc : code.check = .ok ())
    (h : (Outcome.of opts cut (some code)).result = .ok a) {x y : Int} :
    x ∈ a.controllersOf y ↔
      ∃ n : Nat, 2 ≤ (code.flow.succs n).length ∧ x = n ∧ Relation.Contributes code.flow a.table n y := by
  obtain ⟨-, hsolved, hrel⟩ := solved_of_result hc h
  rw [Analysis.controllersOf, hrel, Relation.mem_controllersOf,
    Relation.contains_ofTable (Code.flow_wellFormed hc).succs_lt hsolved.inRange]

theorem mem_controllersOf_iff_contributes (hc : code.check = .ok ())
    (h : (Outcome.of opts cut (some code)).result = .ok a) {x y : Nat} :
    (x : Int) ∈ a.controllersOf y ↔
      2 ≤ (code.flow.succs x).length ∧ Relation.Contributes code.flow a.table x y := by
  rw [mem_controllersOf_iff_exists hc h]
  constructor
  · rintro ⟨x', hx', hxx', hcontr⟩
    obtain rfl := Int.natCast_inj.1 hxx'
    exact ⟨hx', hcontr⟩
  · rintro ⟨hx, hcontr⟩
    exact ⟨x, hx, rfl, hcontr⟩

theorem mem_controllersOf_iff (hc : code.check = .ok ())
    (h : (Outcome.of opts cut (some code)).result = .ok a) {X : Nat → Prop}
    (hcorrect : a.table.Correct code.flow X) (x y : Nat) :
    (x : Int) ∈ a.controllersOf y ↔ code.flow.ControlDepends X y x := by
  rw [mem_controllersOf_iff_contributes hc h, hcorrect.contributes_iff, Flow.ControlDepends]

/-- With an exit in last place, the controllers of an instruction in an analysis are the
branches it depends on by the definition over paths. -/
theorem controllersOf_eq_path_definition (hc : code.check = .ok ())
    (hlast : code.flow.isExit (code.size - 1) = true)
    (h : (Outcome.of opts cut (some code)).result = .ok a) (x y : Nat) :
    (x : Int) ∈ a.controllersOf y ↔
      2 ≤ (code.flow.succs x).length ∧
        (∃ s ∈ code.flow.succs x, y = s ∨ code.flow.PostDominates (code.flow.Exit opts.exitRoots) y s) ∧
        ¬ (y ≠ x ∧ code.flow.PostDominates (code.flow.Exit opts.exitRoots) y x) :=
  mem_controllersOf_iff hc h (correct_of_last_exit hc (List.isEmpty_iff.1 hlast) h) x y

theorem controllersOf_trapAndTwoExits :
    trapAndTwoExits.check = .ok () ∧ trapAndTwoExits.flow.isExit (trapAndTwoExits.size - 1) = true ∧
      ∃ a, (Outcome.of {} none (some trapAndTwoExits)).result = .ok a ∧
        ∀ x y : Nat, (x : Int) ∈ a.controllersOf y ↔
          2 ≤ (trapAndTwoExits.flow.succs x).length ∧
            (∃ s ∈ trapAndTwoExits.flow.succs x,
              y = s ∨ trapAndTwoExits.flow.PostDominates (trapAndTwoExits.flow.Exit true) y s) ∧
            ¬ (y ≠ x ∧ trapAndTwoExits.flow.PostDominates (trapAndTwoExits.flow.Exit true) y x) := by
  obtain ⟨hc, a, ha⟩ := exists_result_trapAndTwoExits
  have hlast : trapAndTwoExits.flow.isExit (trapAndTwoExits.size - 1) = true := by decide +kernel
  exact ⟨hc, hlast, a, ha, controllersOf_eq_path_definition hc hlast ha⟩

end Outcome

end ControlDependence
