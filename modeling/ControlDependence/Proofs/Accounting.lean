-- SUMMARY: What a run reports to the instruments balances its report, whatever the schedule.
import ControlDependence.Proofs.FailFast
import ControlDependence.Proofs.Totals

/-!
# The accounts of a run

The log of a run has the outcomes of its analyses in the order in which their verdicts were
handed in, and the report has the methods in their own order. Every verdict of an analysis
is handed in once (`Run.Accounted`), so the outcomes in the log are those in the report up
to order, and whatever is summed over them comes to the same.

The two differ in the methods that were not begun: they have an entry and nothing in the
log. Which methods a schedule begins is read off its events (`Run.begun`).
-/
namespace ControlDependence

namespace Outcome

def analysis? (o : Outcome) : Option Analysis := o.result.toOption

def failure? (o : Outcome) : Option Failure :=
  match o.result with
  | .ok _ => none
  | .error f => some f

theorem failure?_eq_some_iff {o : Outcome} {f : Failure} : o.failure? = some f ↔ o.result = .error f := by
  unfold failure?
  cases o.result <;> simp

theorem isSome_analysis?_iff (o : Outcome) : o.analysis?.isSome = true ↔ o.failure? = none := by
  unfold analysis? failure?
  cases o.result <;> simp [Except.toOption]

end Outcome

namespace Batch

/-! ## The log of a list of outcomes -/

open Metrics

section Log

variable (os : List Outcome)

theorem filterMap_observe {α : Type} {f : Observation → Option α} {g : Outcome → Option α}
    (h : ∀ o, (observe 0 o).filterMap f = (g o).toList) :
    (os.flatMap (observe 0)).filterMap f = os.filterMap g := by
  rw [List.filterMap_flatMap, List.filterMap_eq_flatMap_toList]
  exact congrArg (List.flatMap · os) (funext h)

/-- What is read off the successful analyses only. -/
theorem filterMap_observe_of_ok {α : Type} {f : Observation → Option α} {g : Analysis → α}
    (hok : ∀ a : Analysis, f (.analysis okOutcome 0 a.stats.passes a.stats.edges) = some (g a))
    (herror : f (.analysis errorOutcome 0 0 0) = none) (hfailure : ∀ k, f (.failure k) = none) :
    (os.flatMap (observe 0)).filterMap f = (os.filterMap (·.analysis?)).map g := by
  rw [List.map_filterMap]
  apply filterMap_observe
  intro o
  unfold observe Outcome.analysis?
  cases o.result <;> simp [hok, herror, hfailure, Except.toOption]

theorem passes_observe :
    Observations.passes (os.flatMap (observe 0)) = (os.filterMap (·.analysis?)).map (·.stats.passes) :=
  filterMap_observe_of_ok os (fun _ => rfl) rfl fun _ => rfl

theorem edges_observe :
    Observations.edges (os.flatMap (observe 0)) = (os.filterMap (·.analysis?)).map (·.stats.edges) :=
  filterMap_observe_of_ok os (fun _ => rfl) rfl fun _ => rfl

theorem kinds_observe :
    (os.flatMap (observe 0)).filterMap (·.kind?) = (os.filterMap (·.failure?)).map (·.kind.name) := by
  rw [List.map_filterMap]
  apply filterMap_observe
  intro o
  unfold observe Outcome.failure?
  cases o.result <;> rfl

theorem outcomes_observe :
    (os.flatMap (observe 0)).filterMap (·.outcome?) =
      os.map fun o => if o.analysis?.isSome then okOutcome else errorOutcome := by
  rw [← List.filterMap_eq_map]
  apply filterMap_observe
  intro o
  unfold observe Outcome.analysis?
  dsimp only [Function.comp_apply]
  cases o.result <;> rfl

theorem analysesOf_ok_observe :
    Observations.analysesOf (os.flatMap (observe 0)) okOutcome = (os.filterMap (·.analysis?)).length := by
  rw [Observations.analysesOf_eq, outcomes_observe, List.length_filterMap_eq_countP, List.count, List.countP_map]
  apply List.countP_congr
  intro o _
  cases ho : o.analysis? <;> simp [ho, okOutcome, errorOutcome]

theorem analysesOf_error_observe :
    Observations.analysesOf (os.flatMap (observe 0)) errorOutcome = (os.filterMap (·.failure?)).length := by
  rw [Observations.analysesOf_eq, outcomes_observe, List.length_filterMap_eq_countP, List.count, List.countP_map]
  apply List.countP_congr
  intro o _
  have hiff := o.isSome_analysis?_iff
  cases hf : o.failure? <;> simp_all [okOutcome, errorOutcome]

end Log

/-! ## The entries of a list of jobs -/

namespace Job

/-- The outcome of the analysis of a method, if it took place. -/
def outcome? (j : Job) : Option Outcome :=
  match j.stage.verdict? with
  | some (.analyzed o) => some o
  | _ => none

def isSkipped (j : Job) : Bool :=
  match j.stage.verdict? with
  | some (.skipped _) => true
  | _ => false

def entry? (j : Job) : Option Entry := j.stage.verdict?.map (Verdict.entry j.method.name)

variable (j : Job)

theorem cases_verdict? :
    (j.entry? = none ∧ j.outcome? = none ∧ j.isSkipped = false) ∨
      (∃ c, j.entry? = some (Verdict.entry j.method.name (.skipped c)) ∧ j.outcome? = none ∧ j.isSkipped = true) ∨
      ∃ o, j.entry? = some (Verdict.entry j.method.name (.analyzed o)) ∧ j.outcome? = some o ∧
        j.isSkipped = false := by
  unfold entry? outcome? isSkipped
  rcases j.stage.verdict? with _ | c | o
  · exact .inl ⟨rfl, rfl, rfl⟩
  · exact .inr (.inl ⟨c, rfl, rfl, rfl⟩)
  · exact .inr (.inr ⟨o, rfl, rfl, rfl⟩)

end Job

/-- The analysis of an entry, if it was kept. -/
def Entry.analysis? (e : Entry) : Option Analysis := e.result.toOption.join

def Entry.failure? (e : Entry) : Option Failure :=
  match e.result with
  | .ok _ => none
  | .error f => some f

theorem Entry.isNone_toOption (e : Entry) : e.result.toOption.isNone = e.failure?.isSome := by
  unfold failure?
  cases e.result <;> rfl

/-- The analyses in a report. -/
def Report.analyses (r : Report) : List Analysis := r.entries.filterMap (·.analysis?)

section Entries

variable (name : String) (o : Outcome) (jobs : List Job)

theorem analysis?_entry_analyzed : (Verdict.entry name (.analyzed o)).analysis? = o.analysis? := by
  dsimp only [Entry.analysis?, Verdict.entry, Verdict.result, Outcome.analysis?]
  cases o.result <;> rfl

theorem failure?_entry_analyzed :
    (Verdict.entry name (.analyzed o)).failure? = o.failure?.map (Failure.noted name) := by
  dsimp only [Entry.failure?, Verdict.entry, Verdict.result, Outcome.failure?]
  cases o.result <;> rfl

theorem filterMap_analysis?_entries :
    (jobs.filterMap Job.entry?).filterMap (·.analysis?) =
      (jobs.filterMap Job.outcome?).filterMap (·.analysis?) := by
  rw [List.filterMap_filterMap, List.filterMap_filterMap]
  apply List.filterMap_congr
  intro j _
  rcases j.cases_verdict? with ⟨he, ho, -⟩ | ⟨c, he, ho, -⟩ | ⟨o, he, ho, -⟩
  · rw [he, ho]
    rfl
  · rw [he, ho]
    rfl
  · rw [he, ho]
    exact analysis?_entry_analyzed j.method.name o

/-- An entry that is no failure has its analysis. -/
theorem countP_ok_entries :
    (jobs.filterMap Job.entry?).countP (fun e => e.result.toOption.isSome) =
      ((jobs.filterMap Job.entry?).filterMap (·.analysis?)).length := by
  rw [List.length_filterMap_eq_countP]
  apply List.countP_congr
  intro e he
  obtain ⟨j, -, hj⟩ := List.mem_filterMap.1 he
  obtain ⟨v, -, rfl⟩ := Option.map_eq_some_iff.1 hj
  unfold Entry.analysis? Verdict.entry
  cases v.result j.method.name <;> simp [Except.map, Except.toOption]

/-- A method fails in its analysis or by being skipped. -/
theorem countP_failure?_entries {p : Failure → Bool} {b : Bool} (hnoted : ∀ note f, p (.noted note f) = p f)
    (hskipped : ∀ c, p (.interrupted c) = b) :
    (jobs.filterMap Job.entry?).countP (fun e => e.failure?.any p) =
      ((jobs.filterMap Job.outcome?).filterMap (·.failure?)).countP p +
        if b then jobs.countP Job.isSkipped else 0 := by
  induction jobs with
  | nil => simp
  | cons j jobs ih =>
    rcases j.cases_verdict? with ⟨he, ho, hskip⟩ | ⟨c, he, ho, hskip⟩ | ⟨o, he, ho, hskip⟩
    · simpa [he, ho, hskip] using ih
    · have hentry : (Verdict.entry j.method.name (.skipped c)).failure? = some (.interrupted c) := rfl
      simp only [List.filterMap_cons, he, ho, List.countP_cons, hskip, hentry, Option.any_some, hskipped, ih]
      cases b <;> simp [Nat.add_assoc]
    · have hentry : (Verdict.entry j.method.name (.analyzed o)).failure?.any p = o.failure?.any p := by
        rw [failure?_entry_analyzed]
        cases o.failure? <;> simp [hnoted]
      simp only [List.filterMap_cons, he, ho, List.countP_cons, hskip, hentry, ih]
      cases o.failure? <;> simp [List.countP_cons, Nat.add_right_comm]

end Entries

/-! ## Stages of an analysis under way -/

namespace Stage

variable {opts : Options} {code : Option Code} {stopped : Option Interruption} {s s' : Stage}

theorem begun_begin (opts : Options) (code : Option Code) : (begin opts code).Begun := by
  unfold begin
  split
  · trivial
  · split
    · trivial
    · split <;> trivial

theorem begun_pass (c : Code) (s : Solver) (stopped : Option Interruption) : (pass c s stopped).Begun := by
  unfold pass
  split
  · trivial
  · split
    · trivial
    · split <;> trivial

/-- An analysis that has begun stays so, and one begins where a worker finds the run going on. -/
theorem Moves.begun_iff (h : s.Moves opts code stopped s') :
    s'.Begun ↔ s.Begun ∨ s = .assigned ∧ stopped = none := by
  refine ⟨h.begun, ?_⟩
  rintro (hs | ⟨rfl, rfl⟩)
  · cases h with
    | skip | queue | assign => cases hs
    | @handIn v first | @leave v first =>
      cases v with
      | skipped => cases hs
      | analyzed => trivial
    | work hwork =>
      cases s with
      | solving c s =>
        cases hwork
        exact begun_pass c s stopped
      | pending | queued | assigned => cases hs
      | crashed | decided | handedIn | settled => cases hwork
  · cases h with
    | work hwork =>
      cases hwork
      exact begun_begin opts code

end Stage

namespace Run

variable {r r' : Run} {a : Action} {i k : Nat} {m : Method} {s s' : Stage} {settings : Settings}
  {methods : List Method}

/-! ## Verdicts that are handed in -/

/-- Verdicts are handed in once, and no analysis is settled without that. -/
structure Accounted (r : Run) : Prop where
  nodup : r.finished.Nodup
  handedIn : ∀ i ∈ r.finished, ∃ m s v, r.At i m s ∧ s.verdict? = some v
  finished : ∀ i m s o, r.At i m s → s.verdict? = some (.analyzed o) → i ∈ r.finished

theorem accounted_start (settings : Settings) (methods : List Method) (canceled : Option Interruption) :
    (start settings methods canceled).Accounted where
  nodup := List.nodup_nil
  handedIn i hi := by cases hi
  finished i m s o hat hv := by
    obtain ⟨-, rfl⟩ := at_start.1 hat
    cases hv

namespace Accounted

theorem notMem_finished (h : r.Accounted) (hat : r.At i m s) (hs : s.verdict? = none) : i ∉ r.finished := by
  intro hi
  obtain ⟨n, t, v, hat', hv⟩ := h.handedIn i hi
  obtain ⟨-, rfl⟩ := hat.unique hat'
  rw [hs] at hv
  cases hv

theorem handedIn_shift (h : r.Accounted) (hshift : Shift r r' i m s s') (hk : k ∈ r.finished) :
    ∃ n t v, r'.At k n t ∧ t.verdict? = some v := by
  obtain ⟨n, t, v, hat, hv⟩ := h.handedIn k hk
  obtain ⟨t', hat', hv'⟩ := hshift.exists_verdict hat hv
  exact ⟨n, t', v, hat', hv'⟩

/-- An event with which no verdict of an analysis is handed in. -/
theorem shift (h : r.Accounted) (hshift : Shift r r' i m s s') (hfinished : r'.finished = r.finished)
    (hs' : ∀ o, s'.verdict? = some (.analyzed o) → s.verdict? = some (.analyzed o)) : r'.Accounted where
  nodup := hfinished ▸ h.nodup
  handedIn k hk := h.handedIn_shift hshift (hfinished ▸ hk)
  finished k n t o hat hv := by
    rw [hfinished]
    rcases hshift.at_iff.1 hat with ⟨rfl, rfl, rfl⟩ | ⟨-, hat⟩
    · exact h.finished k n s o hshift.before (hs' o hv)
    · exact h.finished k n t o hat hv

theorem handIn {v : Verdict} {first : Bool} (h : r.Accounted)
    (hshift : Shift r r' i m (.decided v) (.handedIn v first)) (hfinished : r'.finished = i :: r.finished) :
    r'.Accounted where
  nodup := by
    rw [hfinished]
    exact List.nodup_cons.2 ⟨h.notMem_finished hshift.before rfl, h.nodup⟩
  handedIn k hk := by
    rw [hfinished] at hk
    rcases List.mem_cons.1 hk with rfl | hk
    · exact ⟨m, _, v, hshift.at_iff.2 (.inl ⟨rfl, rfl, rfl⟩), rfl⟩
    · exact h.handedIn_shift hshift hk
  finished k n t o hat hv := by
    rw [hfinished]
    rcases hshift.at_iff.1 hat with ⟨rfl, -, -⟩ | ⟨-, hat⟩
    · exact List.mem_cons_self
    · exact List.mem_cons_of_mem _ (h.finished k n t o hat hv)

theorem step (h : r.Accounted) (hm : r.Moves a r') : r'.Accounted := by
  cases hm with
  | cancel c => exact ⟨h.nodup, h.handedIn, h.finished⟩
  | skip hat hc => exact h.shift ⟨hat, .skip hc, rfl, rfl⟩ rfl (by simp [Stage.verdict?])
  | queue hat _ => exact h.shift ⟨hat, .queue, rfl, rfl⟩ rfl (by simp [Stage.verdict?])
  | assign hat _ => exact h.shift ⟨hat, .assign, rfl, rfl⟩ rfl (by simp [Stage.verdict?])
  | work hat hs => exact h.shift ⟨hat, .work hs, rfl, rfl⟩ rfl (by simp [Stage.verdict?_of_work? hs])
  | handIn hat => exact h.handIn ⟨hat, .handIn, rfl, rfl⟩ rfl
  | leave hat => exact h.shift ⟨hat, .leave, rfl, rfl⟩ rfl fun o hv => hv

end Accounted

theorem accounted_of_steps? {canceled : Option Interruption} {schedule : List Action}
    (h : (start settings methods canceled).steps? schedule = some r) : r.Accounted :=
  steps?_invariant (fun _ _ _ _ hm hr => hr.step hm) h (accounted_start settings methods canceled)

/-! ## The log and the report have the same outcomes -/

theorem filterMap_getElem?_range {α : Type} (l : List α) : (List.range l.length).filterMap (l[·]?) = l := by
  induction l using List.reverseRecOn with
  | nil => rfl
  | append_singleton l x ih =>
    have hinit : (List.range l.length).filterMap ((l ++ [x])[·]?) = (List.range l.length).filterMap (l[·]?) := by
      apply List.filterMap_congr
      intro i hi
      rw [List.getElem?_append_left (List.mem_range.1 hi)]
    rw [List.length_append, List.length_singleton, List.range_succ, List.filterMap_append, hinit, ih]
    simp

theorem filterMap_range_jobs (r : Run) : (List.range r.jobs.size).filterMap (r.jobs[·]?) = r.jobs.toList := by
  have hrange := filterMap_getElem?_range r.jobs.toList
  simpa only [Array.length_toList, Array.getElem?_toList] using hrange

/-- The outcomes in the log. -/
def outcomes (r : Run) : List Outcome := r.analyses.map (·.2)

theorem observations_eq (r : Run) : r.observations = r.outcomes.flatMap (observe 0) := by
  rw [observations, outcomes, List.flatMap_map]

theorem outcomes_eq (r : Run) :
    r.outcomes = r.finished.reverse.filterMap fun i => r.jobs[i]?.bind Job.outcome? := by
  rw [outcomes, analyses, List.map_filterMap]
  apply List.filterMap_congr
  intro i _
  cases r.jobs[i]? with
  | none => rfl
  | some j =>
    simp only [Option.bind_eq_bind, Option.bind_some, Job.outcome?]
    rcases j.stage.verdict? with _ | c | o <;> rfl

/-- A method that is not in the log has no outcome. -/
theorem Accounted.outcome?_eq_none (h : r.Accounted) (hi : i ∉ r.finished) :
    r.jobs[i]?.bind Job.outcome? = none := by
  cases hj : r.jobs[i]? with
  | none => rfl
  | some j =>
    rw [Option.bind_some, Job.outcome?]
    rcases hv : j.stage.verdict? with _ | c | o
    · rfl
    · rfl
    · exact absurd (h.finished i j.method j.stage o hj hv) hi

theorem Accounted.outcomes_perm (h : r.Accounted) : r.outcomes.Perm (r.jobs.toList.filterMap Job.outcome?) := by
  let outcomeAt? : Nat → Option Outcome := fun i => r.jobs[i]?.bind Job.outcome?
  have hfinished : ((List.range r.jobs.size).filter (· ∈ r.finished)).Perm r.finished.reverse := by
    rw [List.perm_ext_iff_of_nodup (List.nodup_range.filter _) (List.nodup_reverse.2 h.nodup)]
    intro i
    simp only [List.mem_filter, List.mem_range, decide_eq_true_eq, List.mem_reverse, and_iff_right_iff_imp]
    intro hi
    obtain ⟨m, s, v, hat, -⟩ := h.handedIn i hi
    exact hat.lt_size
  have hjobs : r.jobs.toList.filterMap Job.outcome? =
      ((List.range r.jobs.size).filter (· ∈ r.finished)).filterMap outcomeAt? := by
    rw [← filterMap_range_jobs, List.filterMap_filterMap, List.filterMap_filter]
    apply List.filterMap_congr
    intro i _
    by_cases hi : i ∈ r.finished
    · simp [hi, outcomeAt?]
    · simp [hi, h.outcome?_eq_none hi]
  rw [hjobs, outcomes_eq]
  exact (hfinished.filterMap outcomeAt?).symm

/-! ## Methods that are begun -/

/-- The method whose analysis begins with an event. -/
def begins? (r : Run) : Action → Option Nat
  | .work i =>
    match r.jobs[i]?, r.stopped with
    | some ⟨_, .assigned⟩, none => some i
    | _, _ => none
  | _ => none

/-- The methods whose analyses begin in the course of a schedule. -/
def begun (r : Run) : List Action → List Nat
  | [] => []
  | a :: schedule => (r.begins? a).toList ++ ((r.step? a).map (·.begun schedule)).getD []

/-- The methods whose analyses do not begin. -/
def unbegun (r : Run) (schedule : List Action) : List Nat :=
  (List.range r.jobs.size).filter (· ∉ r.begun schedule)

/-- The analysis of a method has begun. -/
def HasBegun (r : Run) (i : Nat) : Prop := ∃ m s, r.At i m s ∧ s.Begun

theorem At.hasBegun_iff (h : r.At i m s) : r.HasBegun i ↔ s.Begun := by
  constructor
  · rintro ⟨n, t, hat, ht⟩
    obtain ⟨-, rfl⟩ := h.unique hat
    exact ht
  · intro hs
    exact ⟨m, s, h, hs⟩

theorem Shift.hasBegun_iff (h : Shift r r' k m s s') :
    r'.HasBegun i ↔ r.HasBegun i ∨ i = k ∧ s = .assigned ∧ r.stopped = none := by
  by_cases hi : i = k
  · subst hi
    have hafter : r'.At i m s' := h.at_iff.2 (.inl ⟨rfl, rfl, rfl⟩)
    rw [hafter.hasBegun_iff, h.before.hasBegun_iff, h.moves.begun_iff]
    simp
  · have hat : ∀ n t, r'.At i n t ↔ r.At i n t := by
      intro n t
      rw [h.at_iff]
      simp [hi]
    simp [HasBegun, hat, hi]

theorem Shift.hasBegun_iff_of_ne (h : Shift r r' k m s s') (hs : s ≠ .assigned) (ha : r.begins? a = none) :
    r'.HasBegun i ↔ r.HasBegun i ∨ r.begins? a = some i := by
  rw [h.hasBegun_iff, ha]
  simp [hs]

theorem At.begins?_work (h : r.At k m s) :
    r.begins? (.work k) = some i ↔ i = k ∧ s = .assigned ∧ r.stopped = none := by
  rw [begins?, h.getElem?]
  cases s <;> cases r.stopped <;> simp [eq_comm]

/-- With an event the analysis that begins is added to those that have begun. -/
theorem Moves.hasBegun_iff (h : r.Moves a r') : r'.HasBegun i ↔ r.HasBegun i ∨ r.begins? a = some i := by
  cases h with
  | cancel c =>
    have hnone : r.begins? (.cancel c) ≠ some i := by simp [begins?]
    exact (or_iff_left hnone).symm
  | skip hat hc => exact Shift.hasBegun_iff_of_ne ⟨hat, .skip hc, rfl, rfl⟩ (by simp) rfl
  | queue hat _ => exact Shift.hasBegun_iff_of_ne ⟨hat, .queue, rfl, rfl⟩ (by simp) rfl
  | assign hat _ => exact Shift.hasBegun_iff_of_ne ⟨hat, .assign, rfl, rfl⟩ (by simp) rfl
  | handIn hat => exact Shift.hasBegun_iff_of_ne ⟨hat, .handIn, rfl, rfl⟩ (by simp) rfl
  | leave hat => exact Shift.hasBegun_iff_of_ne ⟨hat, .leave, rfl, rfl⟩ (by simp) rfl
  | work hat hs =>
    rw [hat.begins?_work]
    exact Shift.hasBegun_iff ⟨hat, .work hs, rfl, rfl⟩

theorem hasBegun_iff_of_steps? {schedule : List Action} (h : r.steps? schedule = some r') :
    r'.HasBegun i ↔ r.HasBegun i ∨ i ∈ r.begun schedule := by
  induction schedule generalizing r with
  | nil =>
    cases h
    simp [begun]
  | cons a schedule ih =>
    obtain ⟨r₁, hr₁, h⟩ := Option.bind_eq_some_iff.1 h
    rw [ih h, (step?_eq_some_iff.1 hr₁).hasBegun_iff, begun, hr₁]
    simp [or_assoc]

theorem hasBegun_start_iff {canceled : Option Interruption} {schedule : List Action}
    (h : (start settings methods canceled).steps? schedule = some r) :
    r.HasBegun i ↔ i ∈ (start settings methods canceled).begun schedule := by
  have hstart : ¬(start settings methods canceled).HasBegun i := by
    rintro ⟨m, s, hat, hs⟩
    obtain ⟨-, rfl⟩ := at_start.1 hat
    cases hs
  rw [hasBegun_iff_of_steps? h, or_iff_right hstart]

/-- A method that has been settled was begun unless it was skipped. -/
theorem At.hasBegun_settled_iff {v : Verdict} (h : r.At i m (.settled v)) :
    r.HasBegun i ↔ (Job.mk m (.settled v)).isSkipped = false := by
  rw [h.hasBegun_iff]
  cases v <;> simp [Stage.Begun, Job.isSkipped, Stage.verdict?]

theorem size_start (settings : Settings) (methods : List Method) (canceled : Option Interruption) :
    (start settings methods canceled).jobs.size = methods.length := by
  simp [start]

theorem Lawful.size_jobs (h : Lawful settings methods r) : r.jobs.size = methods.length := by
  rw [← h.methods_eq, List.length_map, Array.length_toList]

section Over

variable {canceled : Option Interruption} {schedule : List Action}
  (h : (start settings methods canceled).steps? schedule = some r) (hover : r.isOver = true)

include h hover

/-- The methods that are not begun are those that have been skipped. -/
theorem notMem_begun_iff (hat : r.At i m s) :
    i ∉ (start settings methods canceled).begun schedule ↔ (Job.mk m s).isSkipped = true := by
  obtain ⟨v, rfl⟩ := isOver_iff.1 hover i m s hat
  rw [← hasBegun_start_iff h, hat.hasBegun_settled_iff, Bool.not_eq_false]

theorem mem_unbegun_iff (hat : r.At i m s) :
    i ∈ (start settings methods canceled).unbegun schedule ↔ (Job.mk m s).isSkipped = true := by
  have hsize := ((lawful_start settings methods canceled).steps? h).size_jobs
  rw [unbegun, List.mem_filter, List.mem_range, size_start, ← hsize, decide_eq_true_eq,
    notMem_begun_iff h hover hat, and_iff_right hat.lt_size]

theorem countP_isSkipped :
    r.jobs.toList.countP Job.isSkipped = ((start settings methods canceled).unbegun schedule).length := by
  have hlawful := (lawful_start settings methods canceled).steps? h
  rw [← filterMap_range_jobs, List.countP_filterMap, hlawful.size_jobs, unbegun, size_start,
    ← List.countP_eq_length_filter]
  apply List.countP_congr
  intro i hi
  obtain ⟨s, hat⟩ := hlawful.exists_at (List.getElem?_eq_getElem (List.mem_range.1 hi))
  rw [hat.getElem?, decide_eq_true_eq, notMem_begun_iff h hover hat]
  rfl

theorem entry_of_mem_unbegun (hi : i ∈ (start settings methods canceled).unbegun schedule) :
    ∃ m c, methods[i]? = some m ∧ r.stopped = some c ∧ r.entries[i]? = some ⟨m.name, .error (.interrupted c)⟩ := by
  have hlawful := (lawful_start settings methods canceled).steps? h
  have hlt := List.mem_range.1 (List.mem_filter.1 hi).1
  rw [size_start] at hlt
  obtain ⟨m, hm⟩ : ∃ m, methods[i]? = some m := ⟨_, List.getElem?_eq_getElem hlt⟩
  obtain ⟨s, hat⟩ := hlawful.exists_at hm
  obtain ⟨v, rfl, hentry⟩ := hat.getElem?_entries hover
  have hskipped := (mem_unbegun_iff h hover hat).1 hi
  cases v with
  | analyzed o => cases hskipped
  | skipped c =>
    cases hlawful.sound i m _ hat with
    | skipped hc => exact ⟨m, c, hm, hc, hentry⟩

end Over

section Report

variable {runId traceId : String} {milliseconds : Int}

theorem succeeded_report :
    (r.report runId traceId milliseconds).succeeded = (r.report runId traceId milliseconds).analyses.length :=
  countP_ok_entries r.jobs.toList

theorem failed_report {canceled : Option Interruption} {schedule : List Action}
    (h : (start settings methods canceled).steps? schedule = some r) (hover : r.isOver = true) :
    (r.report runId traceId milliseconds).failed =
      (r.outcomes.filterMap (·.failure?)).length + ((start settings methods canceled).unbegun schedule).length := by
  have hperm := ((accounted_of_steps? h).outcomes_perm.filterMap (·.failure?)).length_eq
  have hcount := countP_failure?_entries r.jobs.toList (p := fun _ => true) (b := true) (fun _ _ => rfl) fun _ => rfl
  rw [List.countP_true, if_pos rfl, countP_isSkipped h hover, ← hperm] at hcount
  rw [← hcount, Report.failed]
  apply List.countP_congr
  intro e _
  rw [e.isNone_toOption]
  cases e.failure? <;> simp

theorem Accounted.analyses_report_perm (h : r.Accounted) :
    (r.outcomes.filterMap (·.analysis?)).Perm (r.report runId traceId milliseconds).analyses := by
  have hentries : (r.report runId traceId milliseconds).analyses =
      (r.jobs.toList.filterMap Job.outcome?).filterMap (·.analysis?) := filterMap_analysis?_entries r.jobs.toList
  rw [hentries]
  exact h.outcomes_perm.filterMap _

/-- The instruments of a run agree with its report on how many methods succeeded, on the
figures of their analyses and on how many failed. Only the methods that were not begun,
all of them because the run had been stopped, are failures in the report alone. -/
theorem observations_balance_report (settings : Settings) (methods : List Method) (canceled : Option Interruption)
    (schedule : List Action) (r : Run) (runId traceId : String) (milliseconds : Int)
    (h : (start settings methods canceled).steps? schedule = some r) (hover : r.isOver = true) :
    let report := r.report runId traceId milliseconds
    let unbegun := (start settings methods canceled).unbegun schedule
    r.observations.analysesOf okOutcome = report.succeeded ∧
      r.observations.passesCount = report.succeeded ∧
      report.analyses.length = report.succeeded ∧
      r.observations.edgesTotal = (report.analyses.map fun a => (a.stats.edges : Int)).foldr (· + ·) 0 ∧
      r.observations.passesSum = (report.analyses.map fun a => (a.stats.passes : Int)).foldr (· + ·) 0 ∧
      r.observations.analysesOf errorOutcome = r.observations.allFailures ∧
      r.observations.analysesOf errorOutcome + unbegun.length = report.failed ∧
      ∀ i ∈ unbegun, ∃ m c, methods[i]? = some m ∧ r.stopped = some c ∧
        report.entries[i]? = some ⟨m.name, .error (.interrupted c)⟩ := by
  intro report unbegun
  have hperm : (r.outcomes.filterMap (·.analysis?)).Perm report.analyses :=
    (accounted_of_steps? h).analyses_report_perm
  have hsucceeded : report.succeeded = report.analyses.length := succeeded_report
  rw [hsucceeded, observations_eq]
  refine ⟨?_, ?_, rfl, ?_, ?_, ?_, ?_, ?_⟩
  · rw [analysesOf_ok_observe, hperm.length_eq]
  · rw [Observations.passesCount_eq, passes_observe, List.length_map, hperm.length_eq]
  · rw [Observations.edgesTotal, edges_observe]
    exact (hperm.map _).foldr_eq 0
  · rw [Observations.passesSum, passes_observe]
    exact (hperm.map _).foldr_eq 0
  · rw [analysesOf_error_observe, Observations.allFailures_eq, kinds_observe, List.length_map]
  · rw [analysesOf_error_observe]
    exact (failed_report h hover).symm
  · intro i hi
    exact entry_of_mem_unbegun h hover hi

end Report

/-- Methods that can be analysed, with one without code among them. -/
def fiveMethods : List Method :=
  [⟨"walk", some Outcome.trapAndTwoExits⟩, ⟨"idle", none⟩, ⟨"cut", some Outcome.trapAndTwoExits⟩,
    ⟨"late", some Outcome.trapAndTwoExits⟩, ⟨"left", some Outcome.trapAndTwoExits⟩]

/-- The first method succeeds and the second fails. The run is stopped when the third is under
way and the fourth has its worker, before the fifth is taken up. -/
def everyEnd : List Action :=
  [.submit, .start, .work 0, .work 0, .work 0, .handIn 0, .submit, .start, .work 1, .handIn 1, .leave 1,
    .submit, .leave 0, .start, .submit, .start, .work 2, .cancel .deadlineExceeded, .work 3, .work 2,
    .handIn 2, .submit, .handIn 3, .leave 3, .leave 2]

theorem observations_balance_fiveMethods :
    ∃ r, (start ⟨2, false, {}⟩ fiveMethods none).steps? everyEnd = some r ∧ r.isOver = true ∧
      (start ⟨2, false, {}⟩ fiveMethods none).unbegun everyEnd = [3, 4] ∧
      r.observations.analysesOf okOutcome = 1 ∧ r.observations.passesCount = 1 ∧
      r.observations.analysesOf errorOutcome = 2 ∧ r.observations.allFailures = 2 ∧
      (r.report "" "" 0).failed = 4 := by
  have hrun : ((start ⟨2, false, {}⟩ fiveMethods none).steps? everyEnd).map (fun r =>
      (r.isOver, (r.report "" "" 0).succeeded, (r.report "" "" 0).failed)) = some (true, 1, 4) := by
    decide +kernel
  have hunbegun : (start ⟨2, false, {}⟩ fiveMethods none).unbegun everyEnd = [3, 4] := by decide +kernel
  obtain ⟨r, hr, hfigures⟩ := Option.map_eq_some_iff.1 hrun
  simp only [Prod.mk.injEq] at hfigures
  obtain ⟨hover, hsucceeded, hfailed⟩ := hfigures
  obtain ⟨hok, hpasses, -, -, -, herrors, hsum, -⟩ :=
    observations_balance_report ⟨2, false, {}⟩ fiveMethods none everyEnd r "" "" 0 hr hover
  rw [hunbegun, hfailed] at hsum
  have herror : r.observations.analysesOf errorOutcome = 2 := by simpa using hsum
  exact ⟨r, hr, hover, hunbegun, hok.trans hsucceeded, hpasses.trans hsucceeded, herror,
    herrors.symm.trans herror, hfailed⟩

end Run

end Batch

end ControlDependence
