-- SUMMARY: What the events of a run can do, that they come to an end, and that they go on until the run is over.
import Mathlib.Order.Basic
import ControlDependence.Batch.Report
import ControlDependence.Proofs.Worker

/-!
# Schedules

`Run.Moves` says once what each event does. All events but a stop from outside take one
method from its stage to the next and leave the others where they are (`Run.Shift`), so
figures over the methods change by what the one method contributes. Every event takes
something off `Run.effort`, and while the run is not over there is one that can happen.
Therefore every schedule is finite and can be extended to one that ends the run.
-/
namespace ControlDependence.Batch

/-- How a method gets from one stage to the next. -/
inductive Stage.Moves (opts : Options) (code : Option Code) (stopped : Option Interruption) : Stage → Stage → Prop where
  | skip {c : Interruption} : stopped = some c → Moves opts code stopped .pending (.settled (.skipped c))
  | queue : Moves opts code stopped .pending .queued
  | assign : Moves opts code stopped .queued .assigned
  | work {s s' : Stage} : s.work? opts code stopped = some s' → Moves opts code stopped s s'
  | handIn {v : Verdict} {first : Bool} : Moves opts code stopped (.decided v) (.handedIn v first)
  | leave {v : Verdict} {first : Bool} : Moves opts code stopped (.handedIn v first) (.settled v)

namespace Stage

variable {opts : Options} {code : Option Code} {stopped : Option Interruption} {s s' : Stage}

/-- The method has been given to a worker or skipped. -/
def Taken (s : Stage) : Prop := s ≠ .pending ∧ s ≠ .queued

theorem begin_cases (opts : Options) (code : Option Code) :
    (∃ v, begin opts code = .decided v) ∨ begin opts code = .crashed ∨
    ∃ c, code = some c ∧
      begin opts code = .solving c (.init c.flow (.ofFlow c.flow opts.exitRoots) opts.maxPasses) := by
  cases code with
  | none => exact .inl ⟨_, rfl⟩
  | some c =>
    unfold begin
    split
    · rename_i h
      cases h
    · rename_i h
      cases h
      split
      · exact .inl ⟨_, rfl⟩
      · split
        · exact .inr (.inr ⟨_, rfl, rfl⟩)
        · exact .inr (.inl rfl)

theorem pass_cases (c : Code) (s : Solver) (stopped : Option Interruption) :
    (∃ v, pass c s stopped = .decided v) ∨
      ∃ s', pass c s stopped = .solving c s' ∧ s'.bound = s.bound ∧ s'.passes = s.passes + 1 ∧
        s.passes < s.bound := by
  unfold pass
  split
  · exact .inl ⟨_, rfl⟩
  · rename_i hb
    split
    · exact .inl ⟨_, rfl⟩
    · split
      · exact .inl ⟨_, rfl⟩
      · rename_i s' hpass
        have hs' : s' = s.pass.1 := by rw [hpass]
        exact .inr ⟨s', rfl, by rw [hs']; rfl, by rw [hs']; rfl, Nat.lt_of_not_le hb⟩
      · exact .inl ⟨_, rfl⟩

/-- Work goes on without a verdict, leads to one or crashes. -/
theorem work?_cases (h : s.work? opts code stopped = some s') :
    (s = .assigned ∨ ∃ c solver, s = .solving c solver) ∧
      ((∃ c solver, s' = .solving c solver) ∨ s' = .crashed ∨ ∃ v, s' = .decided v) := by
  cases s with
  | assigned =>
    refine ⟨.inl rfl, ?_⟩
    cases stopped with
    | some c =>
      cases h
      exact .inr (.inr ⟨_, rfl⟩)
    | none =>
      cases h
      rcases begin_cases opts code with ⟨v, hv⟩ | hcrashed | ⟨c, -, hc⟩
      · exact .inr (.inr ⟨v, hv⟩)
      · exact .inr (.inl hcrashed)
      · exact .inl ⟨c, _, hc⟩
  | solving c s =>
    refine ⟨.inr ⟨c, s, rfl⟩, ?_⟩
    cases h
    rcases pass_cases c s stopped with ⟨v, hv⟩ | ⟨s', hs', -⟩
    · exact .inr (.inr ⟨v, hv⟩)
    · exact .inl ⟨c, s', hs'⟩
  | pending | queued | crashed | decided | handedIn | settled => cases h

theorem isBusy_of_work? (h : s.work? opts code stopped = some s') : s.isBusy = true ∧ s'.isBusy = true := by
  obtain ⟨rfl | ⟨c, solver, rfl⟩, ⟨c', solver', rfl⟩ | rfl | ⟨v, rfl⟩⟩ := work?_cases h <;> exact ⟨rfl, rfl⟩

theorem verdict?_of_work? (h : s.work? opts code stopped = some s') : s'.verdict? = none := by
  obtain ⟨-, ⟨c', solver', rfl⟩ | rfl | ⟨v, rfl⟩⟩ := work?_cases h <;> rfl

theorem effort_work?_lt (h : s.work? opts code stopped = some s') : s'.effort opts code < s.effort opts code := by
  cases s with
  | assigned =>
    cases stopped with
    | some c =>
      cases h
      simp only [effort]
      omega
    | none =>
      cases h
      rcases begin_cases opts code with ⟨v, hv⟩ | hcrashed | ⟨c, rfl, hc⟩
      · rw [hv]
        simp only [effort]
        omega
      · rw [hcrashed]
        simp only [effort]
        omega
      · rw [hc]
        simp only [effort, effort.bound, Solver.init]
        omega
  | solving c s =>
    cases h
    rcases pass_cases c s stopped with ⟨v, hv⟩ | ⟨s', hs', hbound, hpasses, hlt⟩
    · rw [hv]
      simp only [effort]
      omega
    · rw [hs']
      simp only [effort]
      omega
  | pending | queued | crashed | decided | handedIn | settled => cases h

theorem Moves.effort_lt (h : s.Moves opts code stopped s') : s'.effort opts code < s.effort opts code := by
  cases h with
  | work hs => exact effort_work?_lt hs
  | skip | queue | assign | handIn | leave =>
    simp only [effort]
    omega

/-- To move on is to keep to the analysis of the method. -/
theorem Sound.moves (h : s.Sound opts stopped code) (hs : s.Moves opts code stopped s') :
    s'.Sound opts stopped code := by
  cases hs with
  | skip hc => exact .skipped hc
  | queue | assign => trivial
  | work hs => exact h.work hs
  | handIn | leave => exact h

theorem Taken.of_isBusy (h : s.isBusy = true) : s.Taken := by
  constructor <;> rintro rfl <;> cases h

theorem taken_settled (v : Verdict) : (settled v).Taken := by
  simp [Taken]

end Stage

namespace Run

variable {r r' : Run} {a : Action} {i k : Nat} {m n : Method} {s s' t : Stage}

/-- The method with a number, and the stage it is at. -/
def At (r : Run) (i : Nat) (m : Method) (s : Stage) : Prop := r.jobs[i]? = some ⟨m, s⟩

theorem At.getElem? (h : r.At i m s) : r.jobs[i]? = some ⟨m, s⟩ := h

theorem At.lt_size (h : r.At i m s) : i < r.jobs.size :=
  (Array.getElem?_eq_some_iff.1 h).1

theorem At.unique (h : r.At i m s) (h' : r.At i n t) : n = m ∧ t = s := by
  cases h.symm.trans h'
  exact ⟨rfl, rfl⟩

theorem exists_at (h : i < r.jobs.size) : ∃ m s, r.At i m s :=
  ⟨r.jobs[i].method, r.jobs[i].stage, Array.getElem?_eq_getElem h⟩

theorem at_put (h : r.At i m s) :
    (r.put i s').At k n t ↔ (k = i ∧ n = m ∧ t = s') ∨ (k ≠ i ∧ r.At k n t) := by
  unfold At at h
  unfold At put
  rw [Array.getElem?_modify]
  by_cases hk : k = i
  · subst hk
    simp [h, eq_comm]
  · simp [hk, Ne.symm hk]

/-! ## One event -/

/-- What an event does, and when it can happen. -/
inductive Moves (r : Run) : Action → Run → Prop where
  | cancel (c : Interruption) : Moves r (.cancel c) (r.cancel c)
  | skip {m : Method} {c : Interruption} : r.At r.next m .pending → r.stopped = some c →
      Moves r .submit { r.put r.next (.settled (.skipped c)) with next := r.next + 1 }
  | queue {m : Method} : r.At r.next m .pending → r.stopped = none →
      Moves r .submit (r.put r.next .queued)
  | assign {m : Method} : r.At r.next m .queued → r.busy < r.settings.workers →
      Moves r .start { r.put r.next .assigned with next := r.next + 1 }
  | work {i : Nat} {m : Method} {s s' : Stage} : r.At i m s →
      s.work? r.settings.options m.code r.stopped = some s' → Moves r (.work i) (r.put i s')
  | handIn {i : Nat} {m : Method} {v : Verdict} : r.At i m (.decided v) →
      Moves r (.handIn i) {
        r.put i (.handedIn v (r.failure? m v).isSome) with
        failure := r.failure.or (r.failure? m v)
        finished := i :: r.finished }
  | leave {i : Nat} {m : Method} {v : Verdict} {first : Bool} : r.At i m (.handedIn v first) →
      Moves r (.leave i) {
        r.put i (.settled v) with
        stopped := if first then r.stopped.or (some .canceled) else r.stopped }

theorem step?_eq_some_iff : r.step? a = some r' ↔ r.Moves a r' := by
  constructor
  · intro h
    cases a with
    | cancel c =>
      cases h
      exact .cancel c
    | submit =>
      simp only [step?, submit] at h
      split at h
      · rename_i m hat
        split at h
        · rename_i c hc
          cases h
          exact .skip hat hc
        · rename_i hc
          cases h
          exact .queue hat hc
      · cases h
    | start =>
      simp only [step?, assign] at h
      split at h
      · rename_i m hat
        split at h
        · rename_i hfree
          cases h
          exact .assign hat hfree
        · cases h
      · cases h
    | work i =>
      simp only [step?, work] at h
      split at h
      · rename_i m s hat
        obtain ⟨s', hs, rfl⟩ := Option.map_eq_some_iff.1 h
        exact .work hat hs
      · cases h
    | handIn i =>
      simp only [step?, handIn] at h
      split at h
      · rename_i m v hat
        cases h
        exact .handIn hat
      · cases h
    | leave i =>
      simp only [step?, leave] at h
      split at h
      · rename_i m v first hat
        cases h
        exact .leave hat
      · cases h
  · intro h
    cases h with
    | cancel c => rfl
    | skip hat hc => simp only [step?, submit, hat.getElem?, hc]
    | queue hat hc => simp only [step?, submit, hat.getElem?, hc]
    | assign hat hfree => simp only [step?, assign, hat.getElem?, hfree, if_true]
    | work hat hs => simp only [step?, work, hat.getElem?, hs, Option.map_some]
    | handIn hat => simp only [step?, handIn, hat.getElem?]
    | leave hat => simp only [step?, leave, hat.getElem?]

/-- One method moves on, and the others stay where they are. -/
structure Shift (r r' : Run) (i : Nat) (m : Method) (s s' : Stage) : Prop where
  before : r.At i m s
  moves : s.Moves r.settings.options m.code r.stopped s'
  settings_eq : r'.settings = r.settings
  jobs_eq : r'.jobs = (r.put i s').jobs

theorem Moves.exists_shift (h : r.Moves a r') (ha : ∀ c, a ≠ .cancel c) :
    ∃ i m s s', Shift r r' i m s s' := by
  cases h with
  | cancel c => exact absurd rfl (ha c)
  | skip hat hc => exact ⟨_, _, _, _, hat, .skip hc, rfl, rfl⟩
  | queue hat _ => exact ⟨_, _, _, _, hat, .queue, rfl, rfl⟩
  | assign hat _ => exact ⟨_, _, _, _, hat, .assign, rfl, rfl⟩
  | work hat hs => exact ⟨_, _, _, _, hat, .work hs, rfl, rfl⟩
  | handIn hat => exact ⟨_, _, _, _, hat, .handIn, rfl, rfl⟩
  | leave hat => exact ⟨_, _, _, _, hat, .leave, rfl, rfl⟩

/-- A run that has been stopped stays so, for the same reason. -/
theorem Moves.exists_stopped_eq (h : r.Moves a r') : ∃ more, r'.stopped = r.stopped.or more := by
  cases h with
  | cancel c => exact ⟨some c, rfl⟩
  | @leave i m v first hat =>
    cases first with
    | true => exact ⟨some .canceled, rfl⟩
    | false => exact ⟨none, (Option.or_none).symm⟩
  | skip | queue | assign | work | handIn => exact ⟨none, (Option.or_none).symm⟩

theorem Shift.at_iff (h : Shift r r' i m s s') :
    r'.At k n t ↔ (k = i ∧ n = m ∧ t = s') ∨ (k ≠ i ∧ r.At k n t) := by
  rw [← at_put h.before, At, At, h.jobs_eq]

/-- A worker is about to stop the run. -/
def Raised (r : Run) : Prop := ∃ i m v, r.At i m (.handedIn v true)

theorem Shift.raised_of_raised (h : Shift r r' i m s s') (hs' : ∀ v, s' ≠ .handedIn v true)
    (hr : r'.Raised) : r.Raised := by
  obtain ⟨k, n, v, hat⟩ := hr
  rcases h.at_iff.1 hat with ⟨-, -, heq⟩ | ⟨-, hat⟩
  · exact absurd heq.symm (hs' v)
  · exact ⟨k, n, v, hat⟩

theorem Shift.raised_iff (h : Shift r r' i m s s') (hs : ∀ v, s ≠ .handedIn v true)
    (hs' : ∀ v, s' ≠ .handedIn v true) : r'.Raised ↔ r.Raised := by
  refine ⟨h.raised_of_raised hs', ?_⟩
  rintro ⟨k, n, v, hat⟩
  refine ⟨k, n, v, h.at_iff.2 (.inr ⟨?_, hat⟩)⟩
  rintro rfl
  exact hs v (h.before.unique hat).2.symm

/-! ## Figures over the methods -/

theorem foldr_modify {figure : Job → Nat} {jobs : List Job} (h : jobs[i]? = some ⟨m, s⟩) :
    (jobs.modify i fun j => { j with stage := s' }).foldr (fun j n => figure j + n) 0 + figure ⟨m, s⟩ =
      jobs.foldr (fun j n => figure j + n) 0 + figure ⟨m, s'⟩ := by
  induction jobs generalizing i with
  | nil => cases h
  | cons j jobs ih =>
    cases i with
    | zero =>
      cases h
      simp only [List.modify_zero_cons, List.foldr_cons]
      omega
    | succ i =>
      have hrest := ih (i := i) h
      simp only [List.modify_succ_cons, List.foldr_cons]
      omega

theorem At.tally_put (h : r.At i m s) (s' : Stage) (figure : Job → Nat) :
    (r.put i s').tally figure + figure ⟨m, s⟩ = r.tally figure + figure ⟨m, s'⟩ := by
  have hat : r.jobs.toList[i]? = some ⟨m, s⟩ := by simpa using h.getElem?
  unfold tally put
  rw [Array.toList_modify]
  exact foldr_modify hat

theorem Shift.tally (h : Shift r r' i m s s') (figure : Job → Nat) :
    r'.tally figure + figure ⟨m, s⟩ = r.tally figure + figure ⟨m, s'⟩ := by
  rw [← h.before.tally_put s' figure]
  unfold Run.tally
  rw [h.jobs_eq]

theorem le_foldr {figure : Job → Nat} {jobs : List Job} {j : Job} (h : j ∈ jobs) :
    figure j ≤ jobs.foldr (fun j n => figure j + n) 0 := by
  induction jobs with
  | nil => cases h
  | cons j' jobs ih =>
    rw [List.foldr_cons]
    rcases List.mem_cons.1 h with rfl | h
    · omega
    · have := ih h
      omega

theorem At.le_tally (h : r.At i m s) (figure : Job → Nat) : figure ⟨m, s⟩ ≤ r.tally figure :=
  le_foldr (Array.mem_toList_iff.2 (Array.mem_of_getElem? h))

theorem foldr_eq_zero {figure : Job → Nat} {jobs : List Job} (h : ∀ j ∈ jobs, figure j = 0) :
    jobs.foldr (fun j n => figure j + n) 0 = 0 := by
  induction jobs with
  | nil => rfl
  | cons j jobs ih =>
    rw [List.foldr_cons, h j List.mem_cons_self, ih fun j' hj' => h j' (List.mem_cons_of_mem _ hj')]

theorem tally_eq_zero {figure : Job → Nat} (h : ∀ i m s, r.At i m s → figure ⟨m, s⟩ = 0) :
    r.tally figure = 0 := by
  apply foldr_eq_zero
  intro j hj
  obtain ⟨i, hi⟩ := List.getElem?_of_mem hj
  exact h i j.method j.stage (by simpa [At] using hi)

/-! ## Schedules come to an end -/

/-- Nothing stops the run from outside. -/
def Undisturbed (schedule : List Action) : Prop := ∀ a ∈ schedule, ∀ c, a ≠ .cancel c

theorem steps?_cons (r : Run) (a : Action) (schedule : List Action) :
    r.steps? (a :: schedule) = (r.step? a).bind (·.steps? schedule) := by
  simp [steps?, List.foldlM_cons]

/-- What every event of a schedule keeps holds after all of them. -/
theorem steps?_invariant {P : Run → Prop} {schedule : List Action}
    (hstep : ∀ r a r', a ∈ schedule → r.Moves a r' → P r → P r') (h : r.steps? schedule = some r') (hr : P r) :
    P r' := by
  induction schedule generalizing r with
  | nil =>
    cases h
    exact hr
  | cons a schedule ih =>
    rw [steps?_cons] at h
    obtain ⟨r₁, hr₁, h⟩ := Option.bind_eq_some_iff.1 h
    apply ih (fun r b r' hb => hstep r b r' (List.mem_cons_of_mem _ hb)) h
    exact hstep r a r₁ List.mem_cons_self (step?_eq_some_iff.1 hr₁) hr

theorem steps?_induction {P : Run → Prop} {schedule : List Action}
    (hstep : ∀ r a r', (∀ c, a ≠ .cancel c) → r.Moves a r' → P r → P r') (hu : Undisturbed schedule)
    (h : r.steps? schedule = some r') (hr : P r) : P r' :=
  steps?_invariant (fun r a r' ha => hstep r a r' (hu a ha)) h hr

theorem Shift.effort_lt (h : Shift r r' i m s s') : r'.effort < r.effort := by
  have hlt := h.moves.effort_lt
  have hsum := h.tally fun j => j.stage.effort r.settings.options j.method.code
  unfold effort
  rw [h.settings_eq]
  dsimp only at hsum
  omega

theorem length_add_effort_le {schedule : List Action} (hu : Undisturbed schedule)
    (h : r.steps? schedule = some r') : schedule.length + r'.effort ≤ r.effort := by
  induction schedule generalizing r with
  | nil =>
    cases h
    simp
  | cons a schedule ih =>
    rw [steps?_cons] at h
    obtain ⟨r₁, hr₁, h⟩ := Option.bind_eq_some_iff.1 h
    obtain ⟨i, m, s, s', hshift⟩ :=
      (step?_eq_some_iff.1 hr₁).exists_shift (hu a List.mem_cons_self)
    have hrest := ih (fun b hb => hu b (List.mem_cons_of_mem _ hb)) h
    have hlt := hshift.effort_lt
    rw [List.length_cons]
    omega

/-! ## What every event keeps -/

/-- Methods are taken in order: those before the next one have been taken, those after it are
untouched. -/
structure Ordered (r : Run) : Prop where
  before : ∀ k n t, r.At k n t → k < r.next → t.Taken
  here : ∀ n t, r.At r.next n t → t = .pending ∨ t = .queued
  after : ∀ k n t, r.At k n t → r.next < k → t = .pending

namespace Ordered

theorem lt_next (h : r.Ordered) (hat : r.At i m s) (hs : s.Taken) : i < r.next := by
  rcases Nat.lt_trichotomy i r.next with hlt | rfl | hlt
  · exact hlt
  · rcases h.here m s hat with rfl | rfl
    · exact absurd rfl hs.1
    · exact absurd rfl hs.2
  · exact absurd (h.after i m s hat hlt) hs.1

/-- The next method is given to a worker or skipped. -/
theorem advance (h : r.Ordered) (hshift : Shift r r' r.next m s s') (hs' : s'.Taken)
    (hnext : r'.next = r.next + 1) : r'.Ordered where
  before k n t hat hk := by
    rcases hshift.at_iff.1 hat with ⟨-, -, rfl⟩ | ⟨hne, hat⟩
    · exact hs'
    · exact h.before k n t hat (by omega)
  here n t hat := by
    rcases hshift.at_iff.1 hat with ⟨hk, -, -⟩ | ⟨-, hat⟩
    · omega
    · exact .inl (h.after _ n t hat (by omega))
  after k n t hat hk := by
    rcases hshift.at_iff.1 hat with ⟨rfl, -, -⟩ | ⟨-, hat⟩
    · omega
    · exact h.after k n t hat (by omega)

/-- A method goes on that has been taken before. -/
theorem goOn (h : r.Ordered) (hshift : Shift r r' i m s s') (hs : s.Taken) (hs' : s'.Taken)
    (hnext : r'.next = r.next) : r'.Ordered where
  before k n t hat hk := by
    rcases hshift.at_iff.1 hat with ⟨-, -, rfl⟩ | ⟨-, hat⟩
    · exact hs'
    · exact h.before k n t hat (by omega)
  here n t hat := by
    have hi := h.lt_next hshift.before hs
    rcases hshift.at_iff.1 hat with ⟨hk, -, -⟩ | ⟨-, hat⟩
    · omega
    · exact h.here n t (hnext ▸ hat)
  after k n t hat hk := by
    have hi := h.lt_next hshift.before hs
    rcases hshift.at_iff.1 hat with ⟨rfl, -, -⟩ | ⟨-, hat⟩
    · omega
    · exact h.after k n t hat (by omega)

theorem step (h : r.Ordered) (hm : r.Moves a r') : r'.Ordered := by
  cases hm with
  | cancel c => exact ⟨h.before, h.here, h.after⟩
  | skip hat hc => exact h.advance ⟨hat, .skip hc, rfl, rfl⟩ (Stage.taken_settled _) rfl
  | assign hat _ => exact h.advance ⟨hat, .assign, rfl, rfl⟩ (.of_isBusy rfl) rfl
  | work hat hs =>
    have hbusy := Stage.isBusy_of_work? hs
    exact h.goOn ⟨hat, .work hs, rfl, rfl⟩ (.of_isBusy hbusy.1) (.of_isBusy hbusy.2) rfl
  | handIn hat => exact h.goOn ⟨hat, .handIn, rfl, rfl⟩ (.of_isBusy rfl) (.of_isBusy rfl) rfl
  | leave hat => exact h.goOn ⟨hat, .leave, rfl, rfl⟩ (.of_isBusy rfl) (Stage.taken_settled _) rfl
  | @queue m hat hc =>
    have hshift : Shift r (r.put r.next .queued) r.next m .pending .queued := ⟨hat, .queue, rfl, rfl⟩
    refine ⟨fun k n t hat' hk => ?_, fun n t hat' => ?_, fun k n t hat' hk => ?_⟩
    · rcases hshift.at_iff.1 hat' with ⟨rfl, -, -⟩ | ⟨-, hat'⟩
      · exact absurd hk (Nat.lt_irrefl _)
      · exact h.before k n t hat' hk
    · rcases hshift.at_iff.1 hat' with ⟨-, -, rfl⟩ | ⟨hne, -⟩
      · exact .inr rfl
      · exact absurd rfl hne
    · rcases hshift.at_iff.1 hat' with ⟨rfl, -, -⟩ | ⟨-, hat'⟩
      · exact absurd hk (Nat.lt_irrefl _)
      · exact h.after k n t hat' hk

end Ordered

/-- What holds of a run over the methods whatever happens. -/
structure Lawful (settings : Settings) (methods : List Method) (r : Run) : Prop where
  settings_eq : r.settings = settings
  methods_eq : r.jobs.toList.map (·.method) = methods
  sound : ∀ i m s, r.At i m s → s.Sound settings.options r.stopped m.code
  ordered : r.Ordered
  busy_le : r.busy ≤ settings.workers

variable {settings : Settings} {methods : List Method}

theorem at_start {canceled : Option Interruption} :
    (start settings methods canceled).At i m s ↔ methods[i]? = some m ∧ s = .pending := by
  simp only [At, start, List.getElem?_toArray, List.getElem?_map, Option.map_eq_some_iff]
  constructor
  · rintro ⟨n, hn, heq⟩
    cases heq
    exact ⟨hn, rfl⟩
  · rintro ⟨hm, rfl⟩
    exact ⟨m, hm, rfl⟩

theorem lawful_start (settings : Settings) (methods : List Method) (canceled : Option Interruption) :
    Lawful settings methods (start settings methods canceled) where
  settings_eq := rfl
  methods_eq := by simp [start, Function.comp_def]
  sound i m s hat := by
    obtain ⟨-, rfl⟩ := at_start.1 hat
    trivial
  ordered := {
    before k n t _ hk := absurd hk (Nat.not_lt_zero k)
    here n t hat := .inl (at_start.1 hat).2
    after k n t hat _ := (at_start.1 hat).2 }
  busy_le := by
    have hbusy : (start settings methods canceled).busy = 0 := by
      apply tally_eq_zero
      intro i m s hat
      obtain ⟨-, rfl⟩ := at_start.1 hat
      rfl
    omega

theorem Shift.methods_eq (h : Shift r r' i m s s') :
    r'.jobs.toList.map (·.method) = r.jobs.toList.map (·.method) := by
  apply List.ext_getElem?
  intro k
  rw [h.jobs_eq, put]
  simp only [List.getElem?_map, Array.getElem?_toList, Array.getElem?_modify]
  split <;> simp [Function.comp_def]

theorem Shift.sound {opts : Options} (h : Shift r r' i m s s') (hopts : r.settings.options = opts)
    (hsound : ∀ k n t, r.At k n t → t.Sound opts r.stopped n.code) :
    ∀ k n t, r'.At k n t → t.Sound opts r.stopped n.code := by
  intro k n t hat
  rcases h.at_iff.1 hat with ⟨-, rfl, rfl⟩ | ⟨-, hat⟩
  · subst hopts
    exact (hsound i n s h.before).moves h.moves
  · exact hsound k n t hat

theorem Shift.busy_le_succ (h : Shift r r' i m s s') : r'.busy ≤ r.busy + 1 := by
  have hsum : r'.busy + _ = r.busy + _ := h.tally _
  have hfigure : ∀ b : Bool, (if b then 1 else 0) ≤ 1 := by decide
  have hs' := hfigure s'.isBusy
  dsimp only at hsum
  omega

theorem Shift.busy_le (h : Shift r r' i m s s') (hs : s'.isBusy = true → s.isBusy = true) :
    r'.busy ≤ r.busy := by
  have hsum : r'.busy + _ = r.busy + _ := h.tally _
  dsimp only at hsum
  cases hbusy : s'.isBusy with
  | false =>
    rw [hbusy, if_neg Bool.false_ne_true] at hsum
    omega
  | true =>
    rw [hbusy, hs hbusy] at hsum
    omega

theorem Moves.busy_le (h : r.Moves a r') (hle : r.busy ≤ r.settings.workers) :
    r'.busy ≤ r.settings.workers := by
  cases h with
  | cancel c => exact hle
  | skip hat hc => exact Nat.le_trans (Shift.busy_le ⟨hat, .skip hc, rfl, rfl⟩ fun h => h) hle
  | queue hat _ => exact Nat.le_trans (Shift.busy_le ⟨hat, .queue, rfl, rfl⟩ fun h => h) hle
  | assign hat hfree => exact Nat.le_trans (Shift.busy_le_succ ⟨hat, .assign, rfl, rfl⟩) hfree
  | work hat hs =>
    exact Nat.le_trans (Shift.busy_le ⟨hat, .work hs, rfl, rfl⟩ fun _ => (Stage.isBusy_of_work? hs).1) hle
  | handIn hat => exact Nat.le_trans (Shift.busy_le ⟨hat, .handIn, rfl, rfl⟩ fun h => h) hle
  | leave hat => exact Nat.le_trans (Shift.busy_le ⟨hat, .leave, rfl, rfl⟩ fun _ => rfl) hle

theorem Lawful.step (h : Lawful settings methods r) (hm : r.Moves a r') : Lawful settings methods r' := by
  obtain ⟨more, hstopped⟩ := hm.exists_stopped_eq
  have hbusy := hm.busy_le (h.settings_eq ▸ h.busy_le)
  have hordered := h.ordered.step hm
  rw [h.settings_eq] at hbusy
  by_cases ha : ∀ c, a ≠ .cancel c
  · obtain ⟨i, m, s, s', hshift⟩ := hm.exists_shift ha
    refine ⟨hshift.settings_eq.trans h.settings_eq, hshift.methods_eq.trans h.methods_eq, ?_, hordered, hbusy⟩
    intro k n t hat
    rw [hstopped]
    exact (hshift.sound (by rw [h.settings_eq]) h.sound k n t hat).or more
  · cases hm with
    | cancel c =>
      refine ⟨h.settings_eq, h.methods_eq, ?_, hordered, hbusy⟩
      intro k n t hat
      exact (h.sound k n t hat).or (some c)
    | skip | queue | assign | work | handIn | leave => exact absurd (by simp) ha

/-! ## Schedules go on until the run is over -/

theorem isOver_iff : r.isOver = true ↔ ∀ i m s, r.At i m s → ∃ v, s = .settled v := by
  unfold isOver
  rw [Array.all_eq_true]
  constructor
  · intro h i m s hat
    obtain ⟨hi, hj⟩ := Array.getElem?_eq_some_iff.1 hat
    have hs := h i hi
    rw [hj] at hs
    cases s with
    | settled v => exact ⟨v, rfl⟩
    | pending | queued | assigned | solving | crashed | decided | handedIn => cases hs
  · intro h i hi
    obtain ⟨v, hv⟩ := h i r.jobs[i].method r.jobs[i].stage (Array.getElem?_eq_getElem hi)
    rw [hv]
    rfl

/-- A worker can go on to its next event. -/
theorem exists_moves_of_event? (hat : r.At i m s) (ha : s.event? i = some a) :
    (∃ r', r.Moves a r') ∧ ∀ c, a ≠ .cancel c := by
  cases s with
  | assigned =>
    cases ha
    refine ⟨?_, by simp⟩
    cases hstop : r.stopped with
    | some c => exact ⟨_, .work hat (by rw [hstop]; rfl)⟩
    | none => exact ⟨_, .work hat (by rw [hstop]; rfl)⟩
  | solving c s =>
    cases ha
    exact ⟨⟨_, .work hat rfl⟩, by simp⟩
  | decided v =>
    cases ha
    exact ⟨⟨_, .handIn hat⟩, by simp⟩
  | handedIn v first =>
    cases ha
    exact ⟨⟨_, .leave hat⟩, by simp⟩
  | pending | queued | crashed | settled => cases ha

theorem Lawful.getElem?_methods (h : Lawful settings methods r) (hat : r.At i m s) : methods[i]? = some m := by
  rw [← h.methods_eq]
  simp [hat.getElem?]

/-- No worker can crash: code is checked, or else it can be read. -/
def Safe (settings : Settings) (methods : List Method) : Prop :=
  settings.options.skipValidation = true → ∀ m ∈ methods, ∀ c, m.code = some c → c.isReadable = true

theorem Lawful.not_crashed (h : Lawful settings methods r) (hsafe : Safe settings methods) (i : Nat) (m : Method) :
    ¬ r.At i m .crashed := by
  intro hat
  obtain ⟨c, hc⟩ := h.sound i m .crashed hat
  obtain ⟨hcode, hskip, hr⟩ := Outcome.of_eq_crashed hc
  rw [hsafe hskip m (List.mem_of_getElem? (h.getElem?_methods hat)) c hcode] at hr
  cases hr

/-- Nothing follows a crash, so the run is never over. -/
theorem At.not_isOver_of_crashed {schedule : List Action} (hat : r.At i m .crashed)
    (h : r.steps? schedule = some r') : r'.isOver = false := by
  have hstays : r'.At i m .crashed := by
    refine steps?_invariant (P := fun r => r.At i m .crashed) ?_ h hat
    intro r a r' _ hm hat
    by_cases ha : ∀ c, a ≠ .cancel c
    · obtain ⟨k, n, s, s', hshift⟩ := hm.exists_shift ha
      refine hshift.at_iff.2 (.inr ⟨?_, hat⟩)
      rintro rfl
      obtain ⟨-, rfl⟩ := hat.unique hshift.before
      cases hshift.moves with
      | work hs => cases hs
    · cases hm with
      | cancel c => exact hat
      | skip | queue | assign | work | handIn | leave => exact absurd (by simp) ha
  rw [← Bool.not_eq_true, isOver_iff]
  intro hover
  obtain ⟨v, hv⟩ := hover i m .crashed hstays
  cases hv

theorem Ordered.exists_next_of_idle (h : r.Ordered) (hover : r.isOver = false) (hup : ∀ i m, ¬ r.At i m .crashed)
    (hidle : ∀ i m s, r.At i m s → s.event? i = none) :
    ∃ m s, r.At r.next m s ∧ (s = .pending ∨ s = .queued) := by
  have hopen : ¬ ∀ i m s, r.At i m s → ∃ v, s = .settled v := by
    rw [← isOver_iff, hover]
    exact Bool.false_ne_true
  simp only [not_forall] at hopen
  obtain ⟨i, m, s, hat, hs⟩ := hopen
  -- The method that is not settled has no worker, so it is the next one or comes after it.
  have hi : ¬ i < r.next := by
    intro hlt
    have htaken := h.before i m s hat hlt
    have hnone := hidle i m s hat
    cases s with
    | pending => exact htaken.1 rfl
    | queued => exact htaken.2 rfl
    | crashed => exact hup i m hat
    | settled v => exact hs ⟨v, rfl⟩
    | assigned | solving | decided | handedIn => cases hnone
  have hsize := hat.lt_size
  obtain ⟨n, t, hat'⟩ := exists_at (r := r) (i := r.next) (by omega)
  exact ⟨n, t, hat', h.here n t hat'⟩

/-- Unless the run is over, its turn can come. -/
theorem Lawful.exists_turn (h : Lawful settings methods r) (hw : 0 < settings.workers) (hsafe : Safe settings methods)
    (hover : r.isOver = false) : ∃ r', r.Moves r.turn r' := by
  unfold turn
  cases hevent : (List.range r.jobs.size).findSome? fun i => r.jobs[i]?.bind (·.stage.event? i) with
  | some a =>
    obtain ⟨i, -, hi⟩ := List.exists_of_findSome?_eq_some hevent
    obtain ⟨j, hj, ha⟩ := Option.bind_eq_some_iff.1 hi
    exact (exists_moves_of_event? hj ha).1
  | none =>
    have hidle : ∀ i m s, r.At i m s → s.event? i = none := by
      intro i m s hat
      have hi := List.findSome?_eq_none_iff.1 hevent i (List.mem_range.2 hat.lt_size)
      rwa [hat.getElem?] at hi
    have hfree : r.busy = 0 := by
      apply tally_eq_zero
      intro i m s hat
      have hnone := hidle i m s hat
      cases s with
      | pending | queued | settled => rfl
      | crashed => exact absurd hat (h.not_crashed hsafe i m)
      | assigned | solving | decided | handedIn => cases hnone
    obtain ⟨m, s, hat, rfl | rfl⟩ := h.ordered.exists_next_of_idle hover (h.not_crashed hsafe) hidle
    · simp only [Option.getD_none, hat.getElem?, Option.any_some, Stage.isQueued, Bool.false_eq_true, if_false]
      cases hstop : r.stopped with
      | some c => exact ⟨_, .skip hat hstop⟩
      | none => exact ⟨_, .queue hat hstop⟩
    · simp only [Option.getD_none, hat.getElem?, Option.any_some, Stage.isQueued, if_true]
      exact ⟨_, .assign hat (by rw [hfree, h.settings_eq]; exact hw)⟩

theorem turn_ne_cancel (r : Run) (c : Interruption) : r.turn ≠ .cancel c := by
  unfold turn
  cases hevent : (List.range r.jobs.size).findSome? fun i => r.jobs[i]?.bind (·.stage.event? i) with
  | some a =>
    obtain ⟨i, -, hi⟩ := List.exists_of_findSome?_eq_some hevent
    obtain ⟨j, hj, ha⟩ := Option.bind_eq_some_iff.1 hi
    exact (exists_moves_of_event? hj ha).2 c
  | none =>
    rw [Option.getD_none]
    split <;> simp

/-- Turn after turn the run comes to its end. -/
theorem Lawful.drive_spec (h : Lawful settings methods r) (hw : 0 < settings.workers) (hsafe : Safe settings methods)
    {n : Nat} (hn : r.effort ≤ n) : (drive n r).isOver = true ∧
      ∃ schedule, Undisturbed schedule ∧ r.steps? schedule = some (drive n r) := by
  induction n generalizing r with
  | zero =>
    refine ⟨?_, [], by simp [Undisturbed], rfl⟩
    by_contra hover
    obtain ⟨r', hr'⟩ := h.exists_turn hw hsafe (Bool.eq_false_iff.2 hover)
    obtain ⟨i, m, s, s', hshift⟩ := hr'.exists_shift r.turn_ne_cancel
    have hlt := hshift.effort_lt
    omega
  | succ n ih =>
    rw [drive]
    cases hstep : r.step? r.turn with
    | none =>
      refine ⟨?_, [], by simp [Undisturbed], rfl⟩
      by_contra hover
      obtain ⟨r', hr'⟩ := h.exists_turn hw hsafe (Bool.eq_false_iff.2 hover)
      rw [step?_eq_some_iff.2 hr'] at hstep
      cases hstep
    | some r' =>
      have hmoves := step?_eq_some_iff.1 hstep
      obtain ⟨i, m, s, s', hshift⟩ := hmoves.exists_shift r.turn_ne_cancel
      have hlt := hshift.effort_lt
      obtain ⟨hover, schedule, hu, hschedule⟩ := ih (h.step hmoves) (by omega)
      refine ⟨hover, r.turn :: schedule, ?_, ?_⟩
      · intro a ha
        rcases List.mem_cons.1 ha with rfl | ha
        · exact r.turn_ne_cancel
        · exact hu a ha
      · rw [steps?_cons, hstep]
        exact hschedule

theorem Lawful.exists_at (h : Lawful settings methods r) (hm : methods[i]? = some m) : ∃ s, r.At i m s := by
  rw [← h.methods_eq, List.getElem?_map, Option.map_eq_some_iff] at hm
  obtain ⟨⟨n, s⟩, hjob, rfl⟩ := hm
  exact ⟨s, by simpa [At] using hjob⟩

theorem Lawful.steps? {schedule : List Action} (h : Lawful settings methods r)
    (hs : r.steps? schedule = some r') : Lawful settings methods r' :=
  steps?_invariant (fun _ _ _ _ hm hr => hr.step hm) hs h

theorem lawful_of_steps? {canceled : Option Interruption} {schedule : List Action} (hu : Undisturbed schedule)
    (h : (start settings methods canceled).steps? schedule = some r) : Lawful settings methods r :=
  steps?_induction (fun _ _ _ _ hm hr => hr.step hm) hu h (lawful_start settings methods canceled)

/-- Whatever happens, the run comes to an end. -/
structure Ends (r : Run) : Prop where
  oneByOne : r.oneByOne.isOver = true ∧
    ∃ schedule, Undisturbed schedule ∧ r.steps? schedule = some r.oneByOne
  bounded : ∀ schedule r', Undisturbed schedule → r.steps? schedule = some r' → schedule.length ≤ r.effort
  goesOn : ∀ schedule r', Undisturbed schedule → r.steps? schedule = some r' → r'.isOver = false →
    ∃ a, (∀ c, a ≠ .cancel c) ∧ ∃ r'', r'.step? a = some r''

theorem ends_start (canceled : Option Interruption) (hw : 0 < settings.workers) (hsafe : Safe settings methods) :
    (start settings methods canceled).Ends where
  oneByOne := (lawful_start settings methods canceled).drive_spec hw hsafe (Nat.le_refl _)
  bounded schedule r hu h := by
    have hlength := length_add_effort_le hu h
    omega
  goesOn schedule r hu h hover := by
    obtain ⟨r', hr'⟩ := (lawful_of_steps? hu h).exists_turn hw hsafe hover
    exact ⟨r.turn, r.turn_ne_cancel, r', step?_eq_some_iff.2 hr'⟩

/-! ## The entries of a run that is over -/

theorem map_some_entries (h : r.isOver = true) : r.entries.map some =
    r.jobs.toList.map fun j => j.stage.verdict?.map (Verdict.entry j.method.name) := by
  unfold entries
  rw [List.map_filterMap_some_eq_filter_map_isSome, List.filter_eq_self]
  intro e he
  obtain ⟨j, hj, rfl⟩ := List.mem_map.1 he
  obtain ⟨i, hi⟩ := List.getElem?_of_mem hj
  obtain ⟨v, hv⟩ := isOver_iff.1 h i j.method j.stage (by simpa [At] using hi)
  rw [hv]
  rfl

theorem length_entries (h : r.isOver = true) : r.entries.length = r.jobs.size := by
  have hlength := congrArg List.length (map_some_entries h)
  simpa using hlength

/-- Every method has an entry with its verdict. -/
theorem At.getElem?_entries (hat : r.At i m s) (h : r.isOver = true) :
    ∃ v, s = .settled v ∧ r.entries[i]? = some (v.entry m.name) := by
  obtain ⟨v, rfl⟩ := isOver_iff.1 h i m s hat
  refine ⟨v, rfl, ?_⟩
  have hi := congrArg (·[i]?) (map_some_entries h)
  simp only [List.getElem?_map, Array.getElem?_toList, hat.getElem?, Option.map_some] at hi
  cases he : r.entries[i]? with
  | none =>
    rw [he] at hi
    cases hi
  | some e =>
    rw [he] at hi
    simpa [Stage.verdict?] using hi

theorem Lawful.length_entries (h : Lawful settings methods r) (hover : r.isOver = true) :
    r.entries.length = methods.length := by
  rw [Run.length_entries hover, ← h.methods_eq]
  simp

/-- Entries are known from the verdicts. -/
theorem Lawful.entries_eq (h : Lawful settings methods r) (hover : r.isOver = true) {es : List Entry}
    (hlength : es.length = methods.length)
    (hes : ∀ i m v, r.At i m (.settled v) → es[i]? = some (v.entry m.name)) : r.entries = es := by
  have hentries := h.length_entries hover
  apply List.ext_getElem?
  intro i
  by_cases hi : i < r.jobs.size
  · obtain ⟨m, s, hat⟩ := Run.exists_at hi
    obtain ⟨v, rfl, hentry⟩ := hat.getElem?_entries hover
    rw [hentry, hes i m v hat]
  · have hsize := Run.length_entries hover
    rw [List.getElem?_eq_none (by omega), List.getElem?_eq_none (by omega)]

end Run

end ControlDependence.Batch
