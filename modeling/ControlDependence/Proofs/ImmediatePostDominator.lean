-- SUMMARY: When the solved table holds the immediate post-dominators, and that it does if the last instruction is an exit.
import ControlDependence.Proofs.Convergence

/-!
# Immediate post-dominators

A solved table holds the immediate post-dominators if and only if each of them guards
its instruction. With an exit in last place this is so. Then every root of the
numbering is an exit, from every ranked instruction a route rises to one of them, and
nothing but what lies on all routes can be met first on all of them.
-/
namespace ControlDependence

variable {g : Flow} {o : Numbering} {t : Table}

namespace Table

/-- The entries are the immediate post-dominators on the way to `X`. -/
structure Correct (g : Flow) (X : Nat → Prop) (t : Table) : Prop where
  resolved_iff : ∀ v : Nat, (t.entry v).isResolved = true ↔ g.Reaches X v
  exit_iff : ∀ v : Nat, g.Reaches X v → (t.entry v = .exit ↔ ∀ y, y ≠ v → ¬ g.PostDominates X y v)
  instruction_iff : ∀ v p : Nat, t.entry v = .instruction p ↔ g.ImmediatelyPostDominates X p v

namespace Solved

theorem resolved_iff (h : t.Solved g o) (v : Nat) :
    (t.entry v).isResolved = true ↔ g.Reaches (o.Ends g) v := by
  obtain ⟨order, hgr⟩ := h.grounded
  constructor
  · intro hres
    obtain ⟨p, hp⟩ := hgr.exists_route ((hgr.mem_order v).2 hres)
    exact ⟨p, hp.1⟩
  · rintro ⟨p, hp⟩
    obtain ⟨q, hq, -⟩ := Route.of_path hp
    exact h.exact.resolved v q hq

/-- Whatever the numbering, an entry is a post-dominator. -/
theorem postDominates (h : t.Solved g o) {v w : Nat} (he : t.entry v = .instruction w) :
    w ≠ v ∧ g.PostDominates (o.Ends g) w v := by
  obtain ⟨order, hgr⟩ := h.grounded
  have hv : v ∈ order := (hgr.mem_order v).2 (by rw [he]; rfl)
  have hx : g.succs v ≠ [] := fun hx => by simp [hgr.exits v hv hx] at he
  have hafter : ∀ q, Route g o (v :: q) → w ∈ q := by
    intro q hq
    obtain ⟨s, q, rfl⟩ := exists_route_cons hq hx
    exact (h.exact.entry v w he s q hq).mem
  obtain ⟨p, hp⟩ := hgr.exists_route hv
  obtain ⟨q, hq, hnd, -⟩ := Route.of_path hp.1
  refine ⟨?_, postDominates_iff.2 ⟨⟨q, hq⟩, fun ⟨r, hr, hw⟩ => hw ?_⟩⟩
  · rintro rfl
    exact (List.nodup_cons.1 hnd).1 (hafter q hq)
  · exact List.mem_cons_of_mem _ (hafter r hr)

/-- An immediate post-dominator that guards its instruction is its entry. -/
theorem entry_eq (h : t.Solved g o) {v m : Nat} (hm : g.ImmediatelyPostDominates (o.Ends g) m v)
    (hguard : GuardsAfter g o m v) : t.entry v = .instruction m := by
  obtain ⟨hne, hpd, hnear⟩ := hm
  obtain ⟨order, hgr⟩ := h.grounded
  have hx : g.succs v ≠ [] := by
    intro hx
    obtain ⟨p, hp⟩ := hpd.1
    have hstop : v ∈ order := (hgr.mem_order v).2 ((h.resolved_iff v).2 ⟨p, hp⟩)
    have hmem := hpd.2 [] (.stop ⟨(hgr.ranked v hstop).2, hx⟩)
    exact hne (List.mem_singleton.1 hmem)
  obtain ⟨w, hw, hmw⟩ := h.faithful v m ((h.resolved_iff v).2 hpd.1) hx hguard
  obtain ⟨hwv, hwpd⟩ := h.postDominates hw
  by_cases hwm : w = m
  · rw [hw, hwm]
  · -- The entry and `m` would post-dominate each other.
    obtain ⟨p, hp⟩ := hwpd.reaches
    obtain ⟨q, hq, -⟩ := Route.of_path hp
    exact absurd ((hnear w hwv hwm hwpd).antisymm (hmw.postDominates hq)) hwm

theorem correct (h : t.Solved g o)
    (hguard : ∀ v m, g.ImmediatelyPostDominates (o.Ends g) m v → GuardsAfter g o m v) :
    t.Correct g (o.Ends g) where
  resolved_iff := h.resolved_iff
  exit_iff v hv := by
    constructor
    · intro he y hne hy
      obtain ⟨m, hm⟩ := Flow.exists_immediatelyPostDominates hy hne
      simp [h.entry_eq hm (hguard v m hm)] at he
    · intro hnone
      obtain ⟨order, hgr⟩ := h.grounded
      have hvo := (hgr.mem_order v).2 ((h.resolved_iff v).2 hv)
      refine (hgr.entry v hvo).resolve_right ?_
      rintro ⟨w, -, hw, -⟩
      exact hnone w (h.postDominates hw).1 (h.postDominates hw).2
  instruction_iff v p := by
    constructor
    · intro hp
      obtain ⟨hne, hpd⟩ := h.postDominates hp
      obtain ⟨m, hm⟩ := Flow.exists_immediatelyPostDominates hpd hne
      have heq := hp.symm.trans (h.entry_eq hm (hguard v m hm))
      rw [Int.natCast_inj.1 (PostDominator.instruction.inj heq)]
      exact hm
    · exact fun hm => h.entry_eq hm (hguard v p hm)

end Solved

end Table

/-! ## An exit in last place -/

theorem Numbering.exit_eq_ends (hg : g.WellFormed) (useExits : Bool) :
    g.Exit useExits = (ofFlow g useExits).Ends g :=
  funext fun _ => propext (exit_iff hg)

/-- If the last instruction is an exit, every ranked instruction has a route that never
goes below it. -/
theorem exists_rising_route (hg : g.WellFormed) (hlast : g.succs (g.size - 1) = []) {useExits : Bool}
    {v : Nat} (hv : 0 < (Numbering.ofFlow g useExits).rank v) :
    ∃ p, Route g (.ofFlow g useExits) (v :: p) ∧
      ∀ x ∈ v :: p, (Numbering.ofFlow g useExits).rank v ≤ (Numbering.ofFlow g useExits).rank x := by
  induction hk : (Numbering.ofFlow g useExits).sequence.length - (Numbering.ofFlow g useExits).rank v
    using Nat.strongRecOn generalizing v with
  | ind k ih =>
    rcases Numbering.ofFlow_rooted hg useExits hv with hroot | ⟨s, hs, hlt⟩
    · have hx : g.succs v = [] := by
        rcases Numbering.mem_roots.1 hroot with rfl | ⟨-, -, hx⟩
        · exact hlast
        · exact hx
      exact ⟨[], route_singleton.2 ⟨hv, hx⟩, by simp⟩
    · have hle := Numbering.ofFlow_rank_le g useExits s
      obtain ⟨p, hp, hall⟩ := ih _ (by omega) (Nat.lt_trans hv hlt) rfl
      refine ⟨s :: p, route_cons_cons.2 ⟨hs, ?_, hp⟩, List.forall_mem_cons.2 ⟨le_rfl, fun x hx => ?_⟩⟩
      · rintro rfl
        omega
      · exact hlt.le.trans (hall x hx)

theorem guardsAfter_of_last_exit (hg : g.WellFormed) (hlast : g.succs (g.size - 1) = []) {useExits : Bool}
    {v y : Nat} (hne : y ≠ v) (hy : g.PostDominates ((Numbering.ofFlow g useExits).Ends g) y v) :
    GuardsAfter g (.ofFlow g useExits) y v := by
  have ho := Numbering.ofFlow_orders hg useExits
  obtain ⟨-, hav⟩ := postDominates_iff.1 hy
  intro s p hr
  by_contra hn
  have hv : y ∉ [v] := by simpa using hne
  have hmem : y ∈ s :: p := (List.mem_cons.1 (mem_of_not_avoids hav hr)).resolve_left hne
  have hrs := (route_cons_cons.1 hr).2.2
  obtain ⟨l, u, r, hl, hyl, hu⟩ := exists_above_of_not_hits ho (hrs.ranked ho hmem) hmem hn
  -- Above `y` a route rises to an exit and leaves `y` behind.
  have hur : 0 < (Numbering.ofFlow g useExits).rank u := hrs.ranked ho (by rw [hl]; simp)
  obtain ⟨q, hq, hrise⟩ := exists_rising_route hg hlast hur
  have huav : Avoids g (.ofFlow g useExits) y u := ⟨q, hq, fun hyq => by have := hrise y hyq; omega⟩
  exact hav (.of_append hr rfl hv (.of_append hrs hl hyl huav))

namespace Outcome

variable {opts : Options} {cut : Option Cutoff} {code : Code} {a : Analysis}

theorem correct_of_last_exit (hc : code.check = .ok ()) (hlast : code.flow.succs (code.size - 1) = [])
    (h : (Outcome.of opts cut (some code)).result = .ok a) :
    a.table.Correct code.flow (code.flow.Exit opts.exitRoots) := by
  have hg := Code.flow_wellFormed hc
  rw [Numbering.exit_eq_ends hg]
  refine (solved_of_result hc h).2.1.correct fun v m hm => ?_
  exact guardsAfter_of_last_exit hg hlast hm.1 hm.2.1

/-- With an exit in last place, an analysis gives as the immediate post-dominator of an
instruction that can reach an exit the nearest of the others that lie on all its paths,
and the exit where there is none. -/
theorem immediatePostDominator_eq_nearest (hc : code.check = .ok ())
    (hlast : code.flow.isExit (code.size - 1) = true)
    (h : (Outcome.of opts cut (some code)).result = .ok a) {i : Nat}
    (hi : code.flow.Reaches (code.flow.Exit opts.exitRoots) i) :
    (a.immediatePostDominator i = .exit ↔
        ∀ y, y ≠ i → ¬ code.flow.PostDominates (code.flow.Exit opts.exitRoots) y i) ∧
      ∀ p : Nat, a.immediatePostDominator i = .instruction p ↔
        code.flow.ImmediatelyPostDominates (code.flow.Exit opts.exitRoots) p i := by
  have hcorrect := correct_of_last_exit hc (List.isEmpty_iff.1 hlast) h
  exact ⟨hcorrect.exit_iff i hi, hcorrect.instruction_iff i⟩

/-- A loop with two exits behind it and a trap beside it. -/
def trapAndTwoExits : Code :=
  .built {
    instructions := #[
      { label := "", succs := [1, 3], preds := [1] },
      { label := "", succs := [0, 2, 4], preds := [0] },
      { label := "", succs := [], preds := [1] },
      { label := "", succs := [3], preds := [0, 3] },
      { label := "", succs := [], preds := [1] }]
    edges := {(0, 1), (0, 3), (1, 0), (1, 2), (1, 4), (3, 3)}
    frozen := true }

theorem exists_result_trapAndTwoExits : trapAndTwoExits.check = .ok () ∧
    ∃ a, (Outcome.of {} none (some trapAndTwoExits)).result = .ok a := by
  have hc : trapAndTwoExits.check = .ok () := by decide +kernel
  have hmax : ({} : Options).maxPasses ≤ 0 := Int.le_refl 0
  obtain ⟨a, ha, -⟩ := exists_result hc hmax
  exact ⟨hc, a, ha⟩

theorem immediatePostDominator_trapAndTwoExits :
    trapAndTwoExits.check = .ok () ∧ trapAndTwoExits.flow.isExit (trapAndTwoExits.size - 1) = true ∧
      trapAndTwoExits.flow.Reaches (trapAndTwoExits.flow.Exit true) 0 ∧
      ∃ a, (Outcome.of {} none (some trapAndTwoExits)).result = .ok a ∧
        (a.immediatePostDominator 0 = .exit ↔
          ∀ y, y ≠ 0 → ¬ trapAndTwoExits.flow.PostDominates (trapAndTwoExits.flow.Exit true) y 0) ∧
        ∀ p : Nat, a.immediatePostDominator 0 = .instruction p ↔
          trapAndTwoExits.flow.ImmediatelyPostDominates (trapAndTwoExits.flow.Exit true) p 0 := by
  obtain ⟨hc, a, ha⟩ := exists_result_trapAndTwoExits
  have hlast : trapAndTwoExits.flow.isExit (trapAndTwoExits.size - 1) = true := by decide +kernel
  have hi : trapAndTwoExits.flow.Reaches (trapAndTwoExits.flow.Exit true) 0 :=
    ⟨[1, 4], .step (by decide +kernel) (.step (by decide +kernel)
      (.stop ⟨by decide +kernel, by decide +kernel, .inl rfl⟩))⟩
  exact ⟨hc, hlast, hi, a, ha, immediatePostDominator_eq_nearest hc hlast ha hi⟩

end Outcome

end ControlDependence
