-- SUMMARY: A worker that goes pass by pass reaches the outcome of the whole analysis, cut off where it was told to stop.
import ControlDependence.Batch.Run
import ControlDependence.Proofs.Contract

/-!
# Workers

A worker takes its method through an analysis one pass at a time, and other workers may
do anything between two passes. It holds nothing but its own solver, so from any place
it can only go on to where the analysis as a whole would go from there
(`Outcome.Resumes`). A verdict is therefore the outcome of an analysis on its own, cut off
by the stop of the run or not at all (`Verdict.Allowed`).
-/
namespace ControlDependence

/-! ## Analyses that are cut off -/

namespace Solver

variable {cut : Option Cutoff} {s : Solver} {c : Interruption} {polls fuel asked : Nat}

/-- A cutoff changes nothing unless it shows. -/
theorem loop_cutoff (s : Solver) (polls fuel asked : Nat) (c : Interruption) :
    loop (some ⟨polls, c⟩) fuel asked s = loop none fuel asked s ∨
      ∃ s', loop (some ⟨polls, c⟩) fuel asked s = (s', some (.interrupted c)) := by
  induction fuel generalizing asked s with
  | zero => exact .inl rfl
  | succ fuel ih =>
    by_cases hpolls : polls ≤ asked
    · refine .inr ⟨s, ?_⟩
      simp [loop, Cutoff.answer, hpolls]
    · rcases hpass : s.pass with ⟨s', changed, fault⟩
      cases fault with
      | some f => simp [loop, Cutoff.answer, hpolls, hpass]
      | none =>
        cases changed with
        | false => simp [loop, Cutoff.answer, hpolls, hpass]
        | true => simpa [loop, Cutoff.answer, hpolls, hpass] using ih s' (asked + 1)

/-- Without a cutoff nothing is interrupted. -/
theorem loop_none_ne_interrupted {f : Failure} {s' : Solver} (h : loop none fuel asked s = (s', some f)) :
    f.kind ≠ .canceled := by
  induction fuel generalizing asked s with
  | zero =>
    cases h
    simp [boundFailure, Failure.kind, Failure.root]
  | succ fuel ih =>
    rcases hpass : s.pass with ⟨s₁, changed, fault⟩
    cases fault with
    | some walk =>
      obtain ⟨i, w⟩ := walk
      rw [loop, hpass] at h
      cases h
      simp [walkFailure, Failure.kind, Failure.root]
    | none =>
      cases changed with
      | false =>
        rw [loop, hpass] at h
        cases h
      | true =>
        rw [loop, hpass] at h
        exact ih h

end Solver

namespace Outcome

variable {opts : Options} {code : Code} {s s' : Solver}

/-- The outcome of an analysis whose solver has come to an end. -/
def conclude (code : Code) : Solver × Option Failure → Outcome
  | (s, some f) => .unsolved s f
  | (s, none) => .solved (.ofSolver code s)

theorem of_rejected {fault : Fault}
    (h : (if opts.skipValidation then .ok () else code.check) = .error fault) (cut : Option Cutoff) :
    of opts cut (some code) = .rejected code fault := by
  simp only [of, h]

theorem of_crashed (h : (if opts.skipValidation then .ok () else code.check) = .ok ())
    (hr : code.isReadable = false) (cut : Option Cutoff) : of opts cut (some code) = .crashed code := by
  simp only [of, h, hr, Bool.false_eq_true, if_false]

theorem of_accepted (h : (if opts.skipValidation then .ok () else code.check) = .ok ())
    (hr : code.isReadable = true) (cut : Option Cutoff) : of opts cut (some code) =
      conclude code ((Solver.init code.flow (.ofFlow code.flow opts.exitRoots) opts.maxPasses).solve cut) := by
  simp only [of, h, hr, if_true]
  cases (Solver.init code.flow (.ofFlow code.flow opts.exitRoots) opts.maxPasses).solve cut with
  | mk s f => cases f <;> rfl

/-- Before the first pass code is rejected, makes the analysis crash or is accepted, wherever the
analysis is cut off. -/
theorem of_cases (opts : Options) (code : Code) :
    (∃ fault, ∀ cut, of opts cut (some code) = .rejected code fault) ∨
    (opts.skipValidation = true ∧ code.isReadable = false ∧ ∀ cut, of opts cut (some code) = .crashed code) ∨
    ∀ cut, of opts cut (some code) =
      conclude code ((Solver.init code.flow (.ofFlow code.flow opts.exitRoots) opts.maxPasses).solve cut) := by
  cases hcheck : if opts.skipValidation then .ok () else code.check with
  | error fault => exact .inl ⟨fault, of_rejected hcheck⟩
  | ok _ =>
    cases hr : code.isReadable with
    | true => exact .inr (.inr (of_accepted hcheck hr))
    | false =>
      refine .inr (.inl ⟨?_, rfl, of_crashed hcheck hr⟩)
      by_contra hskip
      rw [if_neg hskip] at hcheck
      rw [Code.isReadable_of_check hcheck] at hr
      cases hr

theorem of_eq_crashed {cut : Option Cutoff} {body : Option Code} (h : of opts cut body = .crashed code) :
    body = some code ∧ opts.skipValidation = true ∧ code.isReadable = false := by
  cases body with
  | none => cases h
  | some c =>
    rcases of_cases opts c with ⟨fault, heq⟩ | ⟨hskip, hr, heq⟩ | heq
    · rw [heq] at h
      cases h
    · rw [heq] at h
      cases h
      exact ⟨rfl, hskip, hr⟩
    · rw [heq] at h
      unfold conclude at h
      split at h <;> cases h

theorem of_cutoff (opts : Options) (polls : Nat) (c : Interruption) (code : Option Code) :
    of opts (some ⟨polls, c⟩) code = of opts none code ∨
      ∃ s, of opts (some ⟨polls, c⟩) code = .unsolved s (.interrupted c) := by
  cases code with
  | none => exact .inl rfl
  | some code =>
    rcases of_cases opts code with ⟨fault, heq⟩ | ⟨-, -, heq⟩ | heq
    · exact .inl (by rw [heq, heq])
    · exact .inl (by rw [heq, heq])
    · rw [heq, heq]
      unfold Solver.solve
      rcases Solver.loop_cutoff (.init code.flow (.ofFlow code.flow opts.exitRoots) opts.maxPasses)
        polls _ 0 c with hloop | ⟨s, hloop⟩
      · exact .inl (congrArg (conclude code) hloop)
      · exact .inr ⟨s, congrArg (conclude code) hloop⟩

/-- An analysis on its own is never interrupted. -/
theorem kind_ne_canceled {code : Option Code} {f : Failure} (h : (of opts none code).result = .error f) :
    f.kind ≠ .canceled := by
  cases code with
  | none =>
    cases h
    simp [Failure.kind, Failure.root]
  | some code =>
    rcases of_cases opts code with ⟨fault, heq⟩ | ⟨-, -, heq⟩ | heq
    · rw [heq] at h
      cases h
      simp [Failure.kind, Failure.root, Failure.ofFault]
    · rw [heq] at h
      cases h
      simp [Failure.kind, Failure.root]
    · rw [heq] at h
      rcases hs : (Solver.init code.flow (.ofFlow code.flow opts.exitRoots) opts.maxPasses).solve none
        with ⟨s, f'⟩
      rw [hs] at h
      cases f' with
      | none => cases h
      | some f' =>
        cases h
        exact Solver.loop_none_ne_interrupted hs

/-! ## Analyses under way -/

/-- Wherever the analysis of the code is cut off from now on, its outcome is where the
solver goes from here. -/
def Resumes (opts : Options) (code : Code) (s : Solver) : Prop :=
  ∀ cut, (∀ k < s.passes, Cutoff.answer cut k = none) →
    of opts cut (some code) = conclude code (s.loop cut (s.bound - s.passes) s.passes)

theorem resumes_init (h : (if opts.skipValidation then .ok () else code.check) = .ok ())
    (hr : code.isReadable = true) :
    Resumes opts code (.init code.flow (.ofFlow code.flow opts.exitRoots) opts.maxPasses) := by
  intro cut _
  exact of_accepted h hr cut

theorem Resumes.of_bound (h : Resumes opts code s) (hb : s.bound ≤ s.passes) :
    of opts none (some code) = .unsolved s s.boundFailure := by
  rw [h none fun _ _ => rfl, Nat.sub_eq_zero_of_le hb]
  rfl

section Pass

variable (h : Resumes opts code s) (hb : s.passes < s.bound)

include h hb

/-- There is fuel for the next pass. -/
theorem Resumes.exists_fuel (cut : Option Cutoff) (hcut : ∀ k < s.passes, Cutoff.answer cut k = none) :
    ∃ fuel, s.bound = s.passes + 1 + fuel ∧
      of opts cut (some code) = conclude code (s.loop cut (fuel + 1) s.passes) := by
  obtain ⟨fuel, hfuel⟩ := Nat.exists_eq_add_of_lt hb
  refine ⟨fuel, by omega, ?_⟩
  rw [h cut hcut]
  have hsub : s.bound - s.passes = fuel + 1 := by omega
  rw [hsub]

theorem Resumes.of_interrupted (c : Interruption) :
    of opts (some ⟨s.passes, c⟩) (some code) = .unsolved s (.interrupted c) := by
  obtain ⟨fuel, -, heq⟩ := h.exists_fuel hb (some ⟨s.passes, c⟩) fun k hk => by
    simp [Cutoff.answer, hk]
  rw [heq]
  simp [Solver.loop, Cutoff.answer, conclude]

theorem Resumes.of_fault {changed : Bool} {i : Nat} {w : Table.WalkFault}
    (hpass : s.pass = (s', changed, some (i, w))) :
    of opts none (some code) = .unsolved s' (s'.walkFailure i w) := by
  obtain ⟨fuel, -, heq⟩ := h.exists_fuel hb none fun _ _ => rfl
  rw [heq, Solver.loop, hpass]
  rfl

theorem Resumes.of_unchanged (hpass : s.pass = (s', false, none)) :
    of opts none (some code) = .solved (.ofSolver code s') := by
  obtain ⟨fuel, -, heq⟩ := h.exists_fuel hb none fun _ _ => rfl
  rw [heq, Solver.loop, hpass]
  rfl

theorem Resumes.of_changed (hpass : s.pass = (s', true, none)) : Resumes opts code s' := by
  have hs' : s' = s.pass.1 := by rw [hpass]
  have hpasses : s'.passes = s.passes + 1 := by rw [hs']; rfl
  have hbound : s'.bound = s.bound := by rw [hs']; rfl
  intro cut hcut
  rw [hpasses] at hcut
  obtain ⟨fuel, hfuel, heq⟩ := h.exists_fuel hb cut fun k hk => hcut k (by omega)
  have hsub : s'.bound - s'.passes = fuel := by omega
  rw [heq, hsub, hpasses, Solver.loop, hcut s.passes (by omega), hpass]

end Pass

end Outcome

namespace Batch

variable {opts : Options} {stopped : Option Interruption} {code : Option Code}

/-- What a verdict on a method may be, given why the run was stopped. -/
inductive Verdict.Allowed (opts : Options) (stopped : Option Interruption) (code : Option Code) : Verdict → Prop where
  | skipped {c : Interruption} : stopped = some c → Allowed opts stopped code (.skipped c)
  | whole : Allowed opts stopped code (.analyzed (.of opts none code))
  | cut {polls : Nat} {c : Interruption} : stopped = some c →
      Allowed opts stopped code (.analyzed (.of opts (some ⟨polls, c⟩) code))

namespace Verdict.Allowed

variable {v : Verdict}

/-- A run that has been stopped stays so, for the same reason. -/
theorem or (h : v.Allowed opts stopped code) (more : Option Interruption) :
    v.Allowed opts (stopped.or more) code := by
  cases h with
  | skipped hc => exact .skipped (by rw [hc]; rfl)
  | whole => exact .whole
  | cut hc => exact .cut (by rw [hc]; rfl)

theorem eq_whole (h : v.Allowed opts none code) : v = .analyzed (.of opts none code) := by
  cases h with
  | skipped hc => cases hc
  | whole => rfl
  | cut hc => cases hc

/-- A verdict is the method's own result or says that the run was stopped. -/
theorem result (h : v.Allowed opts stopped code) (name : String) :
    v.result name = (Outcome.of opts none code).result.mapError (.noted name) ∨
      ∃ c, stopped = some c ∧
        (v.result name = .error (.interrupted c) ∨ v.result name = .error (.noted name (.interrupted c))) := by
  cases h with
  | skipped hc => exact .inr ⟨_, hc, .inl rfl⟩
  | whole => exact .inl rfl
  | @cut polls c hc =>
    unfold Verdict.result
    rcases Outcome.of_cutoff opts polls c code with heq | ⟨s, heq⟩
    · exact .inl (by rw [heq])
    · refine .inr ⟨c, hc, .inr ?_⟩
      rw [heq]
      rfl

end Verdict.Allowed

namespace Stage

variable {s s' : Stage}

/-- A method has got where it is by its own analysis and the stop of the run. -/
def Sound (opts : Options) (stopped : Option Interruption) (code : Option Code) : Stage → Prop
  | .pending | .queued | .assigned => True
  | .solving c s => code = some c ∧ Outcome.Resumes opts c s
  | .crashed => ∃ c, Outcome.of opts none code = .crashed c
  | .decided v | .handedIn v _ | .settled v => v.Allowed opts stopped code

theorem Sound.or (h : s.Sound opts stopped code) (more : Option Interruption) :
    s.Sound opts (stopped.or more) code := by
  cases s with
  | pending | queued | assigned | solving | crashed => exact h
  | decided v => exact Verdict.Allowed.or h more
  | handedIn v first => exact Verdict.Allowed.or h more
  | settled v => exact Verdict.Allowed.or h more

theorem sound_begin (opts : Options) (stopped : Option Interruption) (code : Option Code) :
    (begin opts code).Sound opts stopped code := by
  cases code with
  | none => exact .whole
  | some code =>
    cases hcheck : if opts.skipValidation then .ok () else code.check with
    | error fault =>
      have hbegin : begin opts (some code) = .decided (.analyzed (.rejected code fault)) := by
        simp only [begin, hcheck]
      rw [hbegin, ← Outcome.of_rejected hcheck none]
      exact .whole
    | ok _ =>
      cases hr : code.isReadable with
      | false =>
        have hbegin : begin opts (some code) = .crashed := by
          simp only [begin, hcheck, hr, Bool.false_eq_true, if_false]
        rw [hbegin]
        exact ⟨code, Outcome.of_crashed hcheck hr none⟩
      | true =>
        have hbegin : begin opts (some code) = .solving code
            (.init code.flow (.ofFlow code.flow opts.exitRoots) opts.maxPasses) := by
          simp only [begin, hcheck, hr, if_true]
        rw [hbegin]
        exact ⟨rfl, Outcome.resumes_init hcheck hr⟩

theorem sound_pass {c : Code} {s : Solver} (h : Outcome.Resumes opts c s) (stopped : Option Interruption) :
    (pass c s stopped).Sound opts stopped (some c) := by
  unfold pass
  by_cases hb : s.bound ≤ s.passes
  · simp only [hb, if_true, Sound]
    rw [← h.of_bound hb]
    exact .whole
  · have hlt : s.passes < s.bound := Nat.lt_of_not_le hb
    simp only [hb, if_false]
    cases stopped with
    | some cause =>
      simp only [Sound]
      rw [← h.of_interrupted hlt cause]
      exact .cut rfl
    | none =>
      rcases hpass : s.pass with ⟨s', changed, fault⟩
      cases fault with
      | some walk =>
        obtain ⟨i, w⟩ := walk
        simp only [Sound]
        rw [← h.of_fault hlt hpass]
        exact .whole
      | none =>
        cases changed with
        | true => exact ⟨rfl, h.of_changed hlt hpass⟩
        | false =>
          simp only [Sound]
          rw [← h.of_unchanged hlt hpass]
          exact .whole

/-- What a worker does keeps to the analysis of its method. -/
theorem Sound.work (h : s.Sound opts stopped code) (hs : s.work? opts code stopped = some s') :
    s'.Sound opts stopped code := by
  cases s with
  | assigned =>
    cases stopped with
    | some c =>
      cases hs
      exact .skipped rfl
    | none =>
      cases hs
      exact sound_begin opts none code
  | solving c s =>
    obtain ⟨rfl, hres⟩ := h
    cases hs
    exact sound_pass hres stopped
  | pending | queued | crashed | decided | handedIn | settled => cases hs

end Stage

end Batch

end ControlDependence
