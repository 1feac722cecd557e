-- SUMMARY: A run that does not fail fast reports for each method what its analysis alone gives, whatever the schedule.
import ControlDependence.Proofs.ImmediatePostDominator
import ControlDependence.Proofs.Schedule

/-!
# Isolation of methods

Unless it is to fail fast, nothing inside a run stops it. Then no worker is ever told to
stop, so each verdict is the outcome of the whole analysis of its method, and neither the
order of events nor the number of workers shows in the report.
-/
namespace ControlDependence.Batch

/-- The result of a method that is analysed on its own. -/
def Method.alone (opts : Options) (m : Method) : Except Failure Analysis := (Outcome.of opts none m.code).result

/-- The entry of a method that is analysed on its own. -/
def Method.entryAlone (opts : Options) (m : Method) : Entry :=
  ⟨m.name, ((m.alone opts).mapError (.noted m.name)).map some⟩

theorem Method.isSome_entryAlone (opts : Options) (m : Method) :
    (m.entryAlone opts).result.toOption.isSome = (m.alone opts).toOption.isSome := by
  unfold entryAlone
  cases m.alone opts <;> rfl

theorem Report.succeeded_add_failed (r : Report) : r.succeeded + r.failed = r.entries.length := by
  have hfailed : r.failed = r.entries.countP fun e => decide ¬ e.result.toOption.isSome = true := by
    apply List.countP_congr
    intro e _
    simp
  rw [hfailed]
  exact (List.length_eq_countP_add_countP _).symm

namespace Run

variable {r r' : Run} {a : Action} {settings : Settings} {methods : List Method}

/-- The run has no reason to stop, nor will it be given one. -/
structure Quiet (r : Run) : Prop where
  failFast : r.settings.failFast = false
  canceled : r.canceled = none
  stopped : r.stopped = none
  failure : r.failure = none
  calm : ¬ r.Raised

theorem quiet_start (methods : List Method) (hff : settings.failFast = false) :
    (start settings methods none).Quiet := by
  refine ⟨hff, rfl, rfl, rfl, ?_⟩
  rintro ⟨i, m, v, hat⟩
  cases (at_start.1 hat).2

namespace Quiet

theorem failure?_eq_none (h : r.Quiet) (m : Method) (v : Verdict) : r.failure? m v = none := by
  simp [failure?, h.failFast]

theorem calm_of_shift (h : r.Quiet) {i : Nat} {m : Method} {s s' : Stage} (hshift : Shift r r' i m s s')
    (hs' : ∀ v, s' ≠ .handedIn v true) : ¬ r'.Raised := by
  intro hr
  exact h.calm (hshift.raised_of_raised hs' hr)

theorem step (h : r.Quiet) (ha : ∀ c, a ≠ .cancel c) (hm : r.Moves a r') : r'.Quiet := by
  cases hm with
  | cancel c => exact absurd rfl (ha c)
  | skip hat hc =>
    rw [h.stopped] at hc
    cases hc
  | queue hat _ =>
    exact ⟨h.failFast, h.canceled, h.stopped, h.failure, h.calm_of_shift ⟨hat, .queue, rfl, rfl⟩ (by simp)⟩
  | assign hat _ =>
    exact ⟨h.failFast, h.canceled, h.stopped, h.failure, h.calm_of_shift ⟨hat, .assign, rfl, rfl⟩ (by simp)⟩
  | work hat hs =>
    refine ⟨h.failFast, h.canceled, h.stopped, h.failure, h.calm_of_shift ⟨hat, .work hs, rfl, rfl⟩ ?_⟩
    rintro v rfl
    cases Stage.verdict?_of_work? hs
  | @handIn i m v hat =>
    have hnone := h.failure?_eq_none m v
    refine ⟨h.failFast, h.canceled, h.stopped, ?_, h.calm_of_shift ⟨hat, .handIn, rfl, rfl⟩ ?_⟩
    · simp [h.failure, hnone]
    · simp [hnone]
  | @leave i m v first hat =>
    obtain rfl : first = false := by
      cases first with
      | false => rfl
      | true => exact absurd ⟨i, m, v, hat⟩ h.calm
    exact ⟨h.failFast, h.canceled, h.stopped, h.failure, h.calm_of_shift ⟨hat, .leave, rfl, rfl⟩ (by simp)⟩

end Quiet

theorem quiet_of_steps? {schedule : List Action} (hff : settings.failFast = false) (hu : Undisturbed schedule)
    (h : (start settings methods none).steps? schedule = some r) : r.Quiet :=
  steps?_induction (fun _ _ _ ha hm hr => hr.step ha hm) hu h (quiet_start methods hff)

/-- A run that has not been stopped reports of each method what its analysis alone gives. -/
theorem Lawful.entries_eq_alone (h : Lawful settings methods r) (hstopped : r.stopped = none)
    (hover : r.isOver = true) : r.entries = methods.map (·.entryAlone settings.options) := by
  apply h.entries_eq hover (List.length_map _)
  intro i m v hat
  have hv : v.Allowed settings.options none m.code := hstopped ▸ h.sound i m _ hat
  rw [List.getElem?_map, h.getElem?_methods hat, hv.eq_whole]
  rfl

/-- Without failing fast, and unless it is stopped from outside or a worker crashes over code
that was not checked, a run over any methods ends under every schedule; it does not fail,
and its report has for each method the result of its analysis alone. -/
theorem report_eq_alone (settings : Settings) (methods : List Method) (hff : settings.failFast = false)
    (hw : 1 ≤ settings.workers) :
    (Safe settings methods → (start settings methods none).Ends) ∧
    ∀ schedule r, Undisturbed schedule → (start settings methods none).steps? schedule = some r →
      r.isOver = true → r.error? = none ∧
        ∀ runId traceId milliseconds,
          (r.report runId traceId milliseconds).entries = methods.map (·.entryAlone settings.options) ∧
          (r.report runId traceId milliseconds).succeeded =
            methods.countP (fun m => (m.alone settings.options).toOption.isSome) ∧
          (r.report runId traceId milliseconds).succeeded + (r.report runId traceId milliseconds).failed =
            methods.length := by
  refine ⟨ends_start none hw, ?_⟩
  intro schedule r hu h hover
  have hquiet := quiet_of_steps? hff hu h
  have hentries := (lawful_of_steps? hu h).entries_eq_alone hquiet.stopped hover
  refine ⟨by simp [error?, hquiet.failure, hquiet.canceled], ?_⟩
  intro runId traceId milliseconds
  refine ⟨hentries, ?_, ?_⟩
  · unfold report Report.succeeded
    rw [hentries, List.countP_map]
    apply List.countP_congr
    intro m _
    rw [Function.comp_apply, Method.isSome_entryAlone]
  · rw [Report.succeeded_add_failed, report, hentries, List.length_map]

/-- A method that can be analysed, one without code, and a malformed one under the name of the
first. -/
def threeMethods : List Method :=
  [⟨"walk", some Outcome.trapAndTwoExits⟩, ⟨"idle", none⟩, ⟨"walk", some (.wired ⟨#[none]⟩)⟩]

/-- Two workers have the first two methods. The second one fails while the first is between
two passes, and the third gets its worker. -/
def interleaved : List Action :=
  [.submit, .start, .submit, .start, .submit, .work 1, .work 0, .handIn 1, .work 0, .leave 1, .start,
    .work 2, .work 0, .handIn 2, .handIn 0, .leave 0, .leave 2]

theorem report_threeMethods :
    Safe ⟨2, false, {}⟩ threeMethods ∧ (start ⟨2, false, {}⟩ threeMethods none).Ends ∧
    ∃ r, (start ⟨2, false, {}⟩ threeMethods none).steps? interleaved = some r ∧ r.isOver = true ∧
      r.error? = none ∧ r.entries = threeMethods.map (·.entryAlone {}) ∧
      (r.report "" "" 0).succeeded = 1 ∧ (r.report "" "" 0).failed = 2 := by
  have hover : ((start ⟨2, false, {}⟩ threeMethods none).steps? interleaved).any isOver = true := by
    decide +kernel
  have hone : threeMethods.countP (fun m => (m.alone {}).toOption.isSome) = 1 := by decide +kernel
  obtain ⟨r, hr, hover⟩ := (Option.any_eq_true _ _).1 hover
  have hsafe : Safe ⟨2, false, {}⟩ threeMethods := by simp [Safe]
  obtain ⟨hends, halone⟩ := report_eq_alone ⟨2, false, {}⟩ threeMethods rfl (by decide)
  obtain ⟨herror, hreport⟩ := halone interleaved r (by simp [Undisturbed, interleaved]) hr hover
  obtain ⟨hentries, hsucceeded, hsum⟩ := hreport "" "" 0
  have hsucceeded := hsucceeded.trans hone
  have hlength : threeMethods.length = 3 := rfl
  exact ⟨hsafe, hends hsafe, r, hr, hover, herror, hentries, hsucceeded, by omega⟩

end Run

end ControlDependence.Batch
