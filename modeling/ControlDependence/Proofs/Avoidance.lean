-- SUMMARY: On every way to an instruction that could have been avoided stands one of its controllers.
import ControlDependence.Proofs.PathDefinition

/-!
# Avoidable executions

Take a path to `y` that starts where `y` can still be avoided. At the last instruction on
it from which `y` can be avoided the path makes a choice after which `y` cannot: that
instruction is a branch, and `y` depends on it. So an instruction that depends on nothing
executes in every terminating run that comes to a place from where it can be reached.
-/
namespace ControlDependence

namespace Flow

variable {g : Flow} {X : Nat → Prop} {y u v s : Nat} {p : List Nat}

/-- Some path from `v` to `X` does not go through `y`. -/
def Avoids (g : Flow) (X : Nat → Prop) (y v : Nat) : Prop := ∃ q, g.Path X (v :: q) ∧ y ∉ v :: q

theorem Reaches.of_path (h : g.Path (· = y) (v :: p)) (hy : g.Reaches X y) : g.Reaches X v := by
  obtain ⟨q, hq⟩ := hy
  obtain ⟨l, hl⟩ := h.eq_append_singleton
  have hpath : g.Path X (l ++ y :: q) := Path.splice (hl ▸ h) hq
  cases l with
  | nil =>
    cases hl
    exact ⟨q, hpath⟩
  | cons _ l =>
    cases hl
    exact ⟨l ++ y :: q, hpath⟩

theorem postDominates_of_not_avoids (hv : g.Reaches X v) (h : ¬ g.Avoids X y v) : g.PostDominates X y v := by
  refine ⟨hv, fun q hq => ?_⟩
  by_contra hy
  exact h ⟨q, hq, hy⟩

/-- Where `y` can be avoided, it can be avoided by way of some successor. -/
theorem Avoids.exists_succ (h : g.Avoids X y v) (hv : ¬ X v) : ∃ s ∈ g.succs v, g.Avoids X y s := by
  obtain ⟨q, hq, hy⟩ := h
  cases hq with
  | stop hx => exact absurd hx hv
  | @step _ s q hs hq => exact ⟨s, hs, q, hq, fun hmem => hy (List.mem_cons_of_mem _ hmem)⟩

theorem two_le_length_of_ne {l : List Nat} {a b : Nat} (ha : a ∈ l) (hb : b ∈ l) (hne : a ≠ b) :
    2 ≤ l.length := by
  by_contra hlen
  have hone : l.length = 1 := by
    have := List.length_pos_of_mem ha
    omega
  obtain ⟨c, rfl⟩ := List.length_eq_one_iff.1 hone
  exact hne ((List.mem_singleton.1 ha).trans (List.mem_singleton.1 hb).symm)

/-- An instruction depends on where it is seen last that it can be avoided. -/
theorem Avoids.controlDepends (hX : ∀ x, X x → g.succs x = []) (h : g.Avoids X y v) (hs : s ∈ g.succs v)
    (hr : g.Reaches X s) (hn : ¬ g.Avoids X y s) : g.ControlDepends X y v := by
  have hv : ¬ X v := by
    intro hx
    rw [hX v hx] at hs
    cases hs
  obtain ⟨s', hs', hav⟩ := h.exists_succ hv
  refine ⟨two_le_length_of_ne hs hs' ?_, ⟨s, hs, .inr (postDominates_of_not_avoids hr hn)⟩, ?_⟩
  · rintro rfl
    exact hn hav
  · rintro ⟨-, hpd⟩
    obtain ⟨q, hq, hy⟩ := h
    exact hy (hpd.2 q hq)

theorem exists_controlDepends_of_path (hX : ∀ x, X x → g.succs x = []) (hy : g.Reaches X y)
    (hp : g.Path (· = y) (u :: p)) (hav : g.Avoids X y u) :
    ∃ x ∈ (u :: p).dropLast, g.ControlDepends X y x := by
  induction p generalizing u with
  | nil =>
    cases hp with
    | stop he =>
      obtain ⟨q, -, hq⟩ := hav
      exact absurd (he ▸ List.mem_cons_self ..) hq
  | cons s p ih =>
    cases hp with
    | step hs hp =>
      rw [List.dropLast_cons_cons]
      by_cases hn : g.Avoids X y s
      · obtain ⟨x, hx, hdep⟩ := ih hp hn
        exact ⟨x, List.mem_cons_of_mem _ hx, hdep⟩
      · exact ⟨u, List.mem_cons_self .., hav.controlDepends hX hs (.of_path hp hy) hn⟩

end Flow

namespace Outcome

variable {opts : Options} {cut : Option Cutoff} {code : Code} {a : Analysis}

/-- With an exit in last place, every path to an instruction from where it can be avoided
passes one of its controllers first. So an instruction that has no controllers lies on all
terminating paths from wherever it can be reached. -/
theorem exists_controller_before_avoidable (hc : code.check = .ok ())
    (hlast : code.flow.isExit (code.size - 1) = true)
    (h : (Outcome.of opts cut (some code)).result = .ok a) {y : Nat}
    (hy : code.flow.Reaches (code.flow.Exit opts.exitRoots) y) :
    (∀ u p, code.flow.Path (· = y) (u :: p) →
        (∃ q, code.flow.Path (code.flow.Exit opts.exitRoots) (u :: q) ∧ y ∉ u :: q) →
        ∃ x ∈ (u :: p).dropLast, (x : Int) ∈ a.controllersOf y) ∧
      (a.controllersOf y = [] → ∀ u p, code.flow.Path (· = y) (u :: p) →
        ∀ q, code.flow.Path (code.flow.Exit opts.exitRoots) (u :: q) → y ∈ u :: q) := by
  have hcorrect := correct_of_last_exit hc (List.isEmpty_iff.1 hlast) h
  have hexists : ∀ u p, code.flow.Path (· = y) (u :: p) →
      code.flow.Avoids (code.flow.Exit opts.exitRoots) y u →
      ∃ x ∈ (u :: p).dropLast, (x : Int) ∈ a.controllersOf y := by
    intro u p hp hav
    obtain ⟨x, hx, hdep⟩ := Flow.exists_controlDepends_of_path (fun _ hx => hx.2.1) hy hp hav
    exact ⟨x, hx, (mem_controllersOf_iff hc h hcorrect x y).2 hdep⟩
  refine ⟨hexists, fun hnone u p hp q hq => ?_⟩
  by_contra hmem
  obtain ⟨x, -, hx⟩ := hexists u p hp ⟨q, hq, hmem⟩
  rw [hnone] at hx
  cases hx

/-- The first exit behind the loop can be avoided by taking the second. -/
theorem exists_controller_trapAndTwoExits :
    trapAndTwoExits.check = .ok () ∧ trapAndTwoExits.flow.isExit (trapAndTwoExits.size - 1) = true ∧
      trapAndTwoExits.flow.Reaches (trapAndTwoExits.flow.Exit true) 2 ∧
      trapAndTwoExits.flow.Path (· = 2) [0, 1, 2] ∧
      (trapAndTwoExits.flow.Path (trapAndTwoExits.flow.Exit true) [0, 1, 4] ∧ 2 ∉ [0, 1, 4]) ∧
      ∃ a, (Outcome.of {} none (some trapAndTwoExits)).result = .ok a ∧
        (∃ x ∈ [0, 1, 2].dropLast, ((x : Nat) : Int) ∈ a.controllersOf (2 : Nat)) ∧
        (a.controllersOf (2 : Nat) = [] → ∀ u p, trapAndTwoExits.flow.Path (· = 2) (u :: p) →
          ∀ q, trapAndTwoExits.flow.Path (trapAndTwoExits.flow.Exit true) (u :: q) → 2 ∈ u :: q) := by
  obtain ⟨hc, a, ha⟩ := exists_result_trapAndTwoExits
  have hlast : trapAndTwoExits.flow.isExit (trapAndTwoExits.size - 1) = true := by decide +kernel
  have hy : trapAndTwoExits.flow.Reaches (trapAndTwoExits.flow.Exit true) 2 :=
    ⟨[], .stop ⟨by decide +kernel, by decide +kernel, .inl rfl⟩⟩
  have hp : trapAndTwoExits.flow.Path (· = 2) [0, 1, 2] :=
    .step (by decide +kernel) (.step (by decide +kernel) (.stop rfl))
  have hq : trapAndTwoExits.flow.Path (trapAndTwoExits.flow.Exit true) [0, 1, 4] ∧ 2 ∉ [0, 1, 4] :=
    ⟨.step (by decide +kernel) (.step (by decide +kernel)
      (.stop ⟨by decide +kernel, by decide +kernel, .inl rfl⟩)), by decide⟩
  obtain ⟨hexists, hempty⟩ := exists_controller_before_avoidable hc hlast ha hy
  exact ⟨hc, hlast, hy, hp, hq, a, ha, hexists 0 [1, 2] hp ⟨[1, 4], hq⟩, hempty⟩

end Outcome

end ControlDependence
