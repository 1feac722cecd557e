-- SUMMARY: A bound on passes and a cutoff end an analysis early or leave it as it is; they never change its result.
import Mathlib.Data.ENat.Basic
import ControlDependence.Proofs.Convergence

/-!
# Settling

Left alone, passes follow one another until the first that changes nothing; `Pass.Settles`
says so with the number of passes, and speaks of neither bound nor cutoff. The solver
makes these passes and no others. Before each it looks at the bound first and asks second
whether it is cut off, so of the two the one that comes first decides how it fails, and
the bound does where they come together.
-/
namespace ControlDependence

/-- How many questions whether to stop are answered with no. -/
def Cutoff.patience : Option Cutoff → ℕ∞
  | some c => c.polls
  | none => ⊤

theorem Cutoff.answer_of_lt {cut : Option Cutoff} {asked n : Nat} (h : n ≤ patience cut) (hlt : asked < n) :
    answer cut asked = none := by
  cases cut with
  | none => rfl
  | some c =>
    have hle : n ≤ c.polls := Nat.cast_le.1 h
    have hpolls : ¬ c.polls ≤ asked := by omega
    simp [answer, hpolls]

theorem Cutoff.answer_polls (c : Cutoff) : answer (some c) c.polls = some c.cause := by
  simp [answer]

/-- The passes from a table on, as many as it takes until one changes nothing. -/
inductive Pass.Settles (g : Flow) (o : Numbering) : Table → Nat → Table → Prop where
  | last {t t' : Table} : run g o t = ⟨t', false, none⟩ → Settles g o t 1 t'
  | more {t t' t'' : Table} {n : Nat} : run g o t = ⟨t', true, none⟩ → Settles g o t' n t'' →
      Settles g o t (n + 1) t''

namespace Solver

open Pass (Settles)

variable {g : Flow} {o : Numbering} {t t' : Table} {cut : Option Cutoff} {n fuel asked bound passes : Nat}

/-! ## One turn of the loop -/

theorem loop_of_changed (hcut : Cutoff.answer cut asked = none) (hrun : Pass.run g o t = ⟨t', true, none⟩) :
    loop cut (fuel + 1) asked ⟨g, o, t, bound, passes⟩ =
      loop cut fuel (asked + 1) ⟨g, o, t', bound, passes + 1⟩ := by
  simp only [loop, hcut, pass, hrun]

theorem loop_of_unchanged (hcut : Cutoff.answer cut asked = none) (hrun : Pass.run g o t = ⟨t', false, none⟩) :
    loop cut (fuel + 1) asked ⟨g, o, t, bound, passes⟩ = (⟨g, o, t', bound, passes + 1⟩, none) := by
  simp only [loop, hcut, pass, hrun]

theorem loop_of_answer {c : Interruption} (hcut : Cutoff.answer cut asked = some c) (s : Solver) :
    loop cut (fuel + 1) asked s = (s, some (.interrupted c)) := by
  simp only [loop, hcut]

/-! ## The three ways to end -/

/-- With fuel and patience for all passes, the solver settles. -/
theorem loop_of_settles (h : Settles g o t n t') (hfuel : n ≤ fuel)
    (hcut : (asked + n : Nat) ≤ Cutoff.patience cut) :
    loop cut fuel asked ⟨g, o, t, bound, passes⟩ = (⟨g, o, t', bound, passes + n⟩, none) := by
  induction h generalizing fuel asked passes with
  | last hrun =>
    obtain ⟨fuel, rfl⟩ := Nat.exists_eq_add_of_le' hfuel
    exact loop_of_unchanged (Cutoff.answer_of_lt hcut (Nat.lt_succ_self asked)) hrun
  | @more t t₁ t' n hrun _ ih =>
    obtain ⟨fuel, rfl⟩ := Nat.exists_eq_add_of_le' (Nat.le_of_add_left_le hfuel)
    rw [loop_of_changed (Cutoff.answer_of_lt hcut (by omega)) hrun]
    rw [Nat.add_comm n 1, ← Nat.add_assoc] at hcut ⊢
    exact ih (Nat.le_of_succ_le_succ hfuel) hcut

/-- With less fuel than that, and patience until it is spent, the solver ends at the bound. -/
theorem loop_of_fuel_lt (h : Settles g o t n t') (hfuel : fuel < n)
    (hcut : (asked + fuel : Nat) ≤ Cutoff.patience cut) :
    ∃ s, loop cut fuel asked ⟨g, o, t, bound, passes⟩ =
      (s, some (.breakdown .noConvergence (-1) (passes + fuel : Nat) s!"pass bound {bound} reached")) := by
  induction h generalizing fuel asked passes with
  | last =>
    obtain rfl := Nat.lt_one_iff.1 hfuel
    exact ⟨_, rfl⟩
  | @more t t₁ t' n hrun _ ih =>
    cases fuel with
    | zero => exact ⟨_, rfl⟩
    | succ fuel =>
      rw [loop_of_changed (Cutoff.answer_of_lt hcut (by omega)) hrun]
      rw [Nat.add_comm fuel 1, ← Nat.add_assoc] at hcut ⊢
      exact ih (Nat.lt_of_succ_lt_succ hfuel) hcut

/-- With patience for fewer passes than there are to make and fuel for, the solver is cut off. -/
theorem loop_of_patience_lt {c : Cutoff} (h : Settles g o t n t') (hasked : asked ≤ c.polls)
    (hpasses : c.polls < asked + n) (hfuel : c.polls < asked + fuel) :
    ∃ s, loop (some c) fuel asked ⟨g, o, t, bound, passes⟩ = (s, some (.interrupted c.cause)) := by
  induction h generalizing fuel asked passes with
  | last =>
    obtain rfl : asked = c.polls := by omega
    obtain ⟨fuel, rfl⟩ : ∃ k, fuel = k + 1 := Nat.exists_eq_add_one.2 (by omega)
    exact ⟨_, loop_of_answer c.answer_polls _⟩
  | @more t t₁ t' n hrun _ ih =>
    obtain ⟨fuel, rfl⟩ : ∃ k, fuel = k + 1 := Nat.exists_eq_add_one.2 (by omega)
    rcases Nat.eq_or_lt_of_le hasked with rfl | hlt
    · exact ⟨_, loop_of_answer c.answer_polls _⟩
    · rw [loop_of_changed (Cutoff.answer_of_lt (n := c.polls) le_rfl hlt) hrun]
      exact ih hlt (by omega) (by omega)

/-- A solver that stops of itself has made the passes it takes to settle. -/
theorem settles_of_loop {s s' : Solver} (h : loop cut fuel asked s = (s', none)) :
    ∃ n, Settles s.flow s.numbering s.table n s'.table := by
  induction fuel generalizing asked s with
  | zero => simp [loop] at h
  | succ fuel ih =>
    cases hcut : Cutoff.answer cut asked with
    | some c =>
      rw [loop_of_answer hcut] at h
      cases h
    | none =>
      rcases hrun : Pass.run s.flow s.numbering s.table with ⟨t, changed, fault⟩
      simp only [loop, hcut, pass, hrun] at h
      cases fault with
      | some walk => cases h
      | none =>
        cases changed with
        | false =>
          cases h
          exact ⟨1, .last hrun⟩
        | true =>
          obtain ⟨n, hn⟩ := ih h
          exact ⟨n + 1, .more hrun hn⟩

theorem exists_settles (hg : g.WellFormed) (useExits : Bool) :
    ∃ n t, Settles g (.ofFlow g useExits) (.blank g.size) n t := by
  obtain ⟨s, hs, -⟩ := exists_solve_automatic hg useExits (Int.le_refl 0)
  obtain ⟨n, hn⟩ := settles_of_loop hs
  exact ⟨n, s.table, hn⟩

/-! ## Solving under a bound and a cutoff -/

section Solve

variable {maxPasses : Int} (h : Settles g o (.blank g.size) n t)

include h

theorem solve_of_settles (hm : n ≤ boundFor o maxPasses) (hk : n ≤ Cutoff.patience cut) :
    (init g o maxPasses).solve cut = (⟨g, o, t, boundFor o maxPasses, n⟩, none) := by
  rw [← Nat.zero_add n] at hk ⊢
  exact loop_of_settles h hm hk

theorem solve_of_bound_lt (hm : boundFor o maxPasses < n) (hk : boundFor o maxPasses ≤ Cutoff.patience cut) :
    ∃ s, (init g o maxPasses).solve cut = (s, some (.breakdown .noConvergence (-1) (boundFor o maxPasses)
      s!"pass bound {boundFor o maxPasses} reached")) := by
  have hzero : (boundFor o maxPasses : Int) = (0 + boundFor o maxPasses : Nat) := by rw [Nat.zero_add]
  rw [hzero]
  exact loop_of_fuel_lt h hm (by rwa [Nat.zero_add])

theorem solve_of_polls_lt {c : Cutoff} (hn : c.polls < n) (hm : c.polls < boundFor o maxPasses) :
    ∃ s, (init g o maxPasses).solve (some c) = (s, some (.interrupted c.cause)) :=
  loop_of_patience_lt h (Nat.zero_le _) (by rwa [Nat.zero_add]) (by rwa [Nat.zero_add])

end Solve

end Solver

/-- The result of a run that gives the analysis `a` when nothing ends it early, under the
bound `m` and a cutoff. It is the same analysis if both let all its passes be made. If not,
it says that the bound was reached where the cutoff has the patience for it, and why the
run was cut off where it has not. -/
structure Analysis.Limited (a : Analysis) (m : Nat) (cut : Option Cutoff) (r : Except Failure Analysis) : Prop where
  succeeds_iff : (∃ b, r = .ok b) ↔ a.passes ≤ m ∧ a.passes ≤ Cutoff.patience cut
  eq_of_ok : ∀ b, r = .ok b → b = a
  bound_iff : ¬ (a.passes ≤ m ∧ a.passes ≤ Cutoff.patience cut) →
    (r = .error (.breakdown .noConvergence (-1) m s!"pass bound {m} reached") ↔ m ≤ Cutoff.patience cut)
  cut_iff : ¬ (a.passes ≤ m ∧ a.passes ≤ Cutoff.patience cut) →
    ((∃ c, cut = some c ∧ r = .error (.interrupted c.cause)) ↔ Cutoff.patience cut < m)

/-- Which comes first of the last pass, the bound and the cutoff decides how a run ends. -/
theorem Analysis.limited_of_cases {a : Analysis} {m : Nat} {cut : Option Cutoff} {r : Except Failure Analysis}
    (hok : a.passes ≤ m → a.passes ≤ Cutoff.patience cut → r = .ok a)
    (hbound : m < a.passes → m ≤ Cutoff.patience cut →
      r = .error (.breakdown .noConvergence (-1) m s!"pass bound {m} reached"))
    (hcut : ∀ c, cut = some c → c.polls < a.passes → c.polls < m → r = .error (.interrupted c.cause)) :
    a.Limited m cut r := by
  by_cases hall : a.passes ≤ m ∧ a.passes ≤ Cutoff.patience cut
  · obtain rfl := hok hall.1 hall.2
    refine ⟨⟨fun _ => hall, fun _ => ⟨a, rfl⟩⟩, ?_, absurd hall, absurd hall⟩
    intro b hb
    cases hb
    rfl
  · rcases le_or_gt (m : ℕ∞) (Cutoff.patience cut) with hle | hlt
    · have hm : m < a.passes := by
        apply Nat.lt_of_not_le
        intro hm
        exact hall ⟨hm, le_trans (Nat.cast_le.2 hm) hle⟩
      obtain rfl := hbound hm hle
      constructor <;> simp [hall, hle]
    · -- A cutoff without end would have patience for the bound.
      cases cut with
      | none => simp [Cutoff.patience] at hlt
      | some c =>
        have hpolls : c.polls < m := Nat.cast_lt.1 hlt
        have hpasses : c.polls < a.passes := by
          apply Nat.lt_of_not_le
          intro hle
          exact hall ⟨by omega, Nat.cast_le.2 hle⟩
        obtain rfl := hcut c rfl hpasses hpolls
        constructor <;> simp [hall, hlt]

namespace Outcome

variable {opts : Options} {cut : Option Cutoff} {code : Code} {n : Nat} {t : Table}

/-- The analysis of code whose table settles after `n` passes. -/
def settled (code : Code) (useExits : Bool) (n : Nat) (t : Table) : Analysis :=
  .ofSolver code ⟨code.flow, .ofFlow code.flow useExits, t, 0, n⟩

theorem result_of_settles (hc : code.check = .ok ())
    (h : Pass.Settles code.flow (.ofFlow code.flow opts.exitRoots) (.blank code.size) n t)
    (hm : n ≤ Solver.boundFor (.ofFlow code.flow opts.exitRoots) opts.maxPasses)
    (hk : n ≤ Cutoff.patience cut) :
    (Outcome.of opts cut (some code)).result = .ok (settled code opts.exitRoots n t) :=
  (result_eq_ok_iff hc).2 ⟨_, Solver.solve_of_settles h hm hk, rfl⟩

theorem limited_of_settles (hc : code.check = .ok ()) (opts : Options) (cut : Option Cutoff)
    (h : Pass.Settles code.flow (.ofFlow code.flow opts.exitRoots) (.blank code.size) n t) :
    (settled code opts.exitRoots n t).Limited
      (Solver.boundFor (.ofFlow code.flow opts.exitRoots) opts.maxPasses) cut
      (Outcome.of opts cut (some code)).result := by
  apply Analysis.limited_of_cases
  · exact result_of_settles hc h
  · intro hm hk
    exact (result_eq_error_iff hc).2 (Solver.solve_of_bound_lt h hm hk)
  · rintro c rfl hn hm
    exact (result_eq_error_iff hc).2 (Solver.solve_of_polls_lt h hn hm)

/-- Neither the bound on passes nor a cutoff changes what an analysis finds. There is one
analysis, whose passes are those of a run that nothing bounds or cuts off, and under any
bound and cutoff a run gives it or ends early at the lesser of the two. -/
theorem bound_and_cutoff_only_end_early (hc : code.check = .ok ()) (opts : Options) :
    ∃ a : Analysis,
      Pass.Settles code.flow (.ofFlow code.flow opts.exitRoots) (.blank code.size) a.passes a.table ∧
      ∀ (maxPasses : Int) (cut : Option Cutoff),
        a.Limited (Solver.boundFor (.ofFlow code.flow opts.exitRoots) maxPasses) cut
          (Outcome.of { opts with maxPasses } cut (some code)).result := by
  obtain ⟨n, t, h⟩ := Solver.exists_settles (Code.flow_wellFormed hc) opts.exitRoots
  refine ⟨settled code opts.exitRoots n t, h, ?_⟩
  intro maxPasses cut
  exact limited_of_settles hc { opts with maxPasses } cut h

/-- Three passes are needed. A bound and a cutoff of three let the run succeed; of two passes each, the
bound shows; and a cutoff before the bound interrupts. -/
theorem bound_and_cutoff_twoEntryLoop : twoEntryLoop.check = .ok () ∧
    ∃ a : Analysis, a.passes = 3 ∧
      Pass.Settles twoEntryLoop.flow (.ofFlow twoEntryLoop.flow true) (.blank twoEntryLoop.size) a.passes a.table ∧
      (Outcome.of { maxPasses := 3 } (some ⟨3, .canceled⟩) (some twoEntryLoop)).result = .ok a ∧
      (Outcome.of { maxPasses := 2 } (some ⟨2, .canceled⟩) (some twoEntryLoop)).result =
        .error (.breakdown .noConvergence (-1) 2 "pass bound 2 reached") ∧
      (Outcome.of { maxPasses := 3 } (some ⟨2, .canceled⟩) (some twoEntryLoop)).result =
        .error (.interrupted .canceled) := by
  have hc : twoEntryLoop.check = .ok () := by decide +kernel
  obtain ⟨a, hsettles, hlimited⟩ := bound_and_cutoff_only_end_early hc {}
  have hok : (Outcome.of { maxPasses := 3 } none (some twoEntryLoop)).result.toOption.isSome := by decide +kernel
  have hno : (Outcome.of { maxPasses := 2 } none (some twoEntryLoop)).result.toOption.isNone := by decide +kernel
  have hle : a.passes ≤ 3 := by
    by_contra hgt
    rw [((hlimited 3 none).bound_iff fun h => hgt h.1).2 le_top] at hok
    cases hok
  have hgt : ¬ a.passes ≤ 2 := by
    intro hle
    obtain ⟨b, hb⟩ := (hlimited 2 none).succeeds_iff.2 ⟨hle, le_top⟩
    rw [hb] at hno
    cases hno
  have hthree := hlimited 3 (some ⟨3, .canceled⟩)
  have htwo := hlimited 2 (some ⟨2, .canceled⟩)
  have hcut := hlimited 3 (some ⟨2, .canceled⟩)
  obtain ⟨b, hb⟩ := hthree.succeeds_iff.2 ⟨hle, Nat.cast_le.2 hle⟩
  obtain ⟨c, hc', hinterrupted⟩ := (hcut.cut_iff fun h => hgt (Nat.cast_le.1 h.2)).2
    (Nat.cast_lt.2 (Nat.lt_succ_self 2))
  cases hc'
  exact ⟨hc, a, by omega, hsettles, hthree.eq_of_ok b hb ▸ hb, (htwo.bound_iff fun h => hgt h.1).2 le_rfl, hinterrupted⟩

end Outcome

end ControlDependence
