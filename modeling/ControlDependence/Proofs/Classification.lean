-- SUMMARY: Every failure of a checked analysis has a kind of its own, and all places that classify it agree on it.
import ControlDependence.Proofs.Accounting
import ControlDependence.Proofs.Moments
import ControlDependence.Report.Document

/-!
# Kinds of failure

A failure may hold several sentinels: that of its cause, and for each method that ended a
run one more. The kind is that of the first sentinel in a fixed order that the failure
holds anywhere (`Failure.firstMatch`), and a note or a method adds none that is asked for.
So the instruments, which see the bare failure, the document, which sees it with a note,
and the error of the run, which has a method around that, are of one mind.
-/
namespace ControlDependence

/-- The marks by which failures are told apart. -/
inductive Sentinel where
  | malformed
  | noConvergence
  | invariant
  | nilBody
  | canceled
  | deadlineExceeded
  | methodFailed
  deriving Repr, DecidableEq

def Breakdown.sentinel : Breakdown → Sentinel
  | .noConvergence => .noConvergence
  | .invariant => .invariant

def Interruption.sentinel : Interruption → Sentinel
  | .canceled => .canceled
  | .deadlineExceeded => .deadlineExceeded

/-- The sentinels that decide on a kind, in the order in which they are asked for. -/
def Sentinel.ranking : List (Sentinel × FailureKind) :=
  [(.malformed, .malformed), (.noConvergence, .noConvergence), (.invariant, .invariant), (.nilBody, .nilBody),
    (.canceled, .canceled), (.deadlineExceeded, .canceled)]

theorem FailureKind.name_injective : Function.Injective FailureKind.name := by
  intro k k' h
  cases k <;> cases k' <;> first | rfl | (exact absurd h (by decide))

theorem FailureKind.name_ne_empty (k : FailureKind) : k.name ≠ "" := by
  cases k <;> decide

namespace Failure

variable {f g : Failure} {s : Sentinel}

/-- Whether a failure has a sentinel in it, at any depth. -/
def holds (s : Sentinel) : Failure → Bool
  | .malformed | .graph .. => s = .malformed
  | .breakdown k .. | .broken k => s = k.sentinel
  | .nilBody => s = .nilBody
  | .interrupted c => s = c.sentinel
  | .body _ | .plain _ | .crashed => false
  | .noted _ c => c.holds s
  | .method _ c => s = .methodFailed || c.holds s

/-- The kind of the first sentinel in the ranking that a failure holds. -/
def firstMatch (f : Failure) : FailureKind :=
  ((Sentinel.ranking.find? fun (s, _) => f.holds s).map (·.2)).getD .other

/-- The failure is inside any number of notes and methods. -/
inductive Wraps (f : Failure) : Failure → Prop where
  | self : Wraps f f
  | noted {g : Failure} (note : String) : Wraps f g → Wraps f (.noted note g)
  | method {g : Failure} (name : String) : Wraps f g → Wraps f (.method name g)

theorem Wraps.holds_eq (h : f.Wraps g) (hs : s ≠ .methodFailed) : g.holds s = f.holds s := by
  induction h with
  | self => rfl
  | noted note _ ih => exact ih
  | method name _ ih =>
    rw [holds, ih]
    simp [hs]

theorem Wraps.firstMatch_eq (h : f.Wraps g) : g.firstMatch = f.firstMatch := by
  simp [firstMatch, Sentinel.ranking, List.find?_cons, h.holds_eq]

theorem kind_eq_firstMatch (f : Failure) : f.kind = f.firstMatch := by
  induction f with
  | malformed | graph | nilBody | body | plain | crashed => rfl
  | breakdown k => cases k <;> rfl
  | broken k => cases k <;> rfl
  | interrupted c => cases c <;> rfl
  | noted note f ih => exact ih.trans (Wraps.noted note .self).firstMatch_eq.symm
  | method name f ih => exact ih.trans (Wraps.method name .self).firstMatch_eq.symm

theorem Wraps.kind_eq (h : f.Wraps g) : g.kind = f.kind := by
  rw [kind_eq_firstMatch, kind_eq_firstMatch, h.firstMatch_eq]

end Failure

/-- An analysis with its check fails for the method's own fault, the bound or the cutoff. -/
theorem Outcome.kind_mem {opts : Options} {cut : Option Cutoff} {code : Option Code} {f : Failure}
    (hcheck : opts.skipValidation = false) (h : (Outcome.of opts cut code).result = .error f) :
    f.kind ∈ [.malformed, .noConvergence, .nilBody, .canceled] := by
  cases code with
  | none =>
    cases h
    decide
  | some code =>
    cases hc : code.check with
    | error fault =>
      have hrejected : (if opts.skipValidation then .ok () else code.check) = .error fault := by simp [hcheck, hc]
      rw [of_rejected hrejected] at h
      cases h
      simp [Failure.ofFault, Failure.kind, Failure.root]
    | ok _ =>
      have ho := Numbering.ofFlow_orders (Code.flow_wellFormed hc) opts.exitRoots
      obtain ⟨s, hs⟩ := (result_eq_error_iff hc).1 h
      rcases Solver.failure_of_loop ho (Solver.runs_init ..) hs with rfl | ⟨c, rfl⟩
      · simp [Solver.boundFailure, Failure.kind, Failure.root]
      · simp [Failure.kind, Failure.root]

namespace Report

/-- The kinds of failure in a document by section, empty where there is none. -/
def Document.kinds (d : Document) : List String := (d.sections.getD []).map (·.errorKind)

theorem Document.kinds_of (sources : Sources) (depth : Int) (report : Batch.Report) :
    (Document.of sources depth (some report)).kinds =
      report.entries.map fun e => (e.failure?.map (·.kind.name)).getD "" := by
  rw [kinds, of, Option.getD_some, List.map_map]
  apply List.map_congr_left
  intro e _
  rw [Function.comp_apply, Section.ofEntry, Batch.Entry.failure?]
  rcases e.result with f | _ | a <;> rfl

end Report

open Metrics

namespace Batch.Run

variable {r r' : Run} {a : Action} {i : Nat} {m : Method} {s s' : Stage} {f : Failure} {settings : Settings}
  {methods : List Method}

/-! ## The failure of a run is that of a method -/

/-- What a run failed with is what some method's verdict has. -/
def Blaming (r : Run) : Prop :=
  ∀ f, r.failure = some f → ∃ i m s v g,
    r.At i m s ∧ s.verdict? = some v ∧ v.result m.name = .error g ∧ f = .method m.name g

theorem Blaming.shift (h : r.Blaming) (hshift : Shift r r' i m s s')
    (hnew : ∀ f, r'.failure = some f → r.failure = some f ∨
      ∃ v g, s'.verdict? = some v ∧ v.result m.name = .error g ∧ f = .method m.name g) : r'.Blaming := by
  intro f hf
  rcases hnew f hf with hf | ⟨v, g, hv, hg, rfl⟩
  · obtain ⟨k, n, t, v, g, hat, hv, hg, rfl⟩ := h f hf
    obtain ⟨t', hat', hv'⟩ := hshift.exists_verdict hat hv
    exact ⟨k, n, t', v, g, hat', hv', hg, rfl⟩
  · exact ⟨i, m, s', v, g, hshift.at_iff.2 (.inl ⟨rfl, rfl, rfl⟩), hv, hg, rfl⟩

theorem Blaming.step (h : r.Blaming) (hm : r.Moves a r') : r'.Blaming := by
  cases hm with
  | cancel c => exact h
  | skip hat hc => exact h.shift ⟨hat, .skip hc, rfl, rfl⟩ fun f hf => .inl hf
  | queue hat _ => exact h.shift ⟨hat, .queue, rfl, rfl⟩ fun f hf => .inl hf
  | assign hat _ => exact h.shift ⟨hat, .assign, rfl, rfl⟩ fun f hf => .inl hf
  | work hat hs => exact h.shift ⟨hat, .work hs, rfl, rfl⟩ fun f hf => .inl hf
  | leave hat => exact h.shift ⟨hat, .leave, rfl, rfl⟩ fun f hf => .inl hf
  | @handIn i m v hat =>
    refine h.shift ⟨hat, .handIn, rfl, rfl⟩ ?_
    intro f hf
    rcases Option.or_eq_some_iff.1 hf with hf | ⟨-, hf⟩
    · exact .inl hf
    · obtain ⟨-, -, g, hg, rfl⟩ := failure?_eq_some_iff.1 hf
      exact .inr ⟨v, g, rfl, hg, rfl⟩

theorem blaming_of_steps? {canceled : Option Interruption} {schedule : List Action}
    (h : (start settings methods canceled).steps? schedule = some r) : r.Blaming :=
  steps?_invariant (fun _ _ _ _ hm hr => hr.step hm) h fun f hf => by cases hf

/-! ## The three places -/

/-- The failure of the analysis of the method with a number. -/
def failureAt? (r : Run) (i : Nat) : Option Failure := (r.jobs[i]?.bind Job.outcome?).bind (·.failure?)

theorem failuresOf_eq_countP (h : r.Accounted) (k : FailureKind) :
    r.observations.failuresOf k.name =
      ((r.jobs.toList.filterMap Job.outcome?).filterMap (·.failure?)).countP (·.kind = k) := by
  rw [observations_eq, Observations.failuresOf_eq, kinds_observe, List.count, List.countP_map,
    (h.outcomes_perm.filterMap _).countP_eq]
  apply List.countP_congr
  intro f _
  simp [FailureKind.name_injective.eq_iff]

theorem failureAt?_eq_some_iff : r.failureAt? i = some f ↔
    ∃ m s o, r.At i m s ∧ s.verdict? = some (.analyzed o) ∧ o.result = .error f := by
  have houtcome : ∀ (j : Job) (o : Outcome), j.outcome? = some o ↔ j.stage.verdict? = some (.analyzed o) := by
    intro j o
    rw [Job.outcome?]
    rcases j.stage.verdict? with _ | c | o' <;> simp
  simp only [failureAt?, Option.bind_eq_some_iff, houtcome, Outcome.failure?_eq_some_iff]
  constructor
  · rintro ⟨o, ⟨⟨m, s⟩, hat, hv⟩, hf⟩
    exact ⟨m, s, o, hat, hv, hf⟩
  · rintro ⟨m, s, o, hat, hv, hf⟩
    exact ⟨o, ⟨⟨m, s⟩, hat, hv⟩, hf⟩

/-- What the analysis of a method failed with is counted under its kind. -/
theorem Accounted.failure_mem_observations (h : r.Accounted) (hf : r.failureAt? i = some f) :
    Observation.failure f.kind.name ∈ r.observations := by
  obtain ⟨o, ho, hf⟩ := Option.bind_eq_some_iff.1 hf
  obtain ⟨j, hj, hjo⟩ := Option.bind_eq_some_iff.1 ho
  have hjobs : j ∈ r.jobs.toList := Array.mem_toList_iff.2 (Array.mem_of_getElem? hj)
  have hmem : o ∈ r.outcomes := h.outcomes_perm.mem_iff.2 (List.mem_filterMap.2 ⟨j, hjobs, hjo⟩)
  rw [observations_eq, List.mem_flatMap]
  refine ⟨o, hmem, ?_⟩
  simp [observe, Outcome.failure?_eq_some_iff.1 hf]

/-- What the verdict of a method that was begun has is counted. -/
theorem failure_mem_of_notMem_unbegun {canceled : Option Interruption} {schedule : List Action} {v : Verdict}
    (h : (start settings methods canceled).steps? schedule = some r) (hover : r.isOver = true) (hat : r.At i m s)
    (hv : s.verdict? = some v) (hf : v.result m.name = .error f)
    (hbegun : i ∉ (start settings methods canceled).unbegun schedule) :
    Observation.failure f.kind.name ∈ r.observations := by
  cases v with
  | skipped c =>
    have hskipped : (Job.mk m s).isSkipped = true := by rw [Job.isSkipped, hv]
    exact absurd ((mem_unbegun_iff h hover hat).2 hskipped) hbegun
  | analyzed o =>
    cases ho : o.result with
    | ok a =>
      rw [Verdict.result, ho] at hf
      cases hf
    | error own =>
      rw [Verdict.result, ho] at hf
      cases hf
      rw [(Failure.Wraps.noted m.name .self).kind_eq]
      exact (accounted_of_steps? h).failure_mem_observations (failureAt?_eq_some_iff.2 ⟨m, s, o, hat, hv, ho⟩)

section Document

variable {sources : Report.Sources} {depth : Int} {runId traceId : String} {milliseconds : Int}

/-- The document has the kind of a method's verdict. -/
theorem At.getElem?_kinds {v : Verdict} (hat : r.At i m s) (hv : s.verdict? = some v) (hover : r.isOver = true)
    (hf : v.result m.name = .error f) :
    (Report.Document.of sources depth (some (r.report runId traceId milliseconds))).kinds[i]? = some f.kind.name := by
  obtain ⟨v', rfl, hentry⟩ := hat.getElem?_entries hover
  cases hv
  have hentry : (r.report runId traceId milliseconds).entries[i]? = some (v.entry m.name) := hentry
  rw [Report.Document.kinds_of, List.getElem?_map, hentry]
  simp [Verdict.entry, hf, Entry.failure?, Except.map]

theorem getElem?_kinds_of_failureAt? (hover : r.isOver = true) (hf : r.failureAt? i = some f) :
    (Report.Document.of sources depth (some (r.report runId traceId milliseconds))).kinds[i]? = some f.kind.name := by
  obtain ⟨m, s, o, hat, hv, hf⟩ := failureAt?_eq_some_iff.1 hf
  have hresult : (Verdict.analyzed o).result m.name = .error (.noted m.name f) := by
    rw [Verdict.result, hf]
    rfl
  rw [hat.getElem?_kinds hv hover hresult, (Failure.Wraps.noted m.name .self).kind_eq]

/-- The instruments count the failures that the document shows, but for the methods that were
not begun. -/
theorem count_kinds {canceled : Option Interruption} {schedule : List Action}
    (h : (start settings methods canceled).steps? schedule = some r) (hover : r.isOver = true) (k : FailureKind) :
    (Report.Document.of sources depth (some (r.report runId traceId milliseconds))).kinds.count k.name =
      r.observations.failuresOf k.name +
        if k = .canceled then ((start settings methods canceled).unbegun schedule).length else 0 := by
  have hcount := countP_failure?_entries r.jobs.toList (p := fun f => f.kind = k) (b := k = .canceled)
    (fun _ _ => rfl) (by simp [Failure.kind, Failure.root, eq_comm])
  rw [countP_isSkipped h hover, ← failuresOf_eq_countP (accounted_of_steps? h)] at hcount
  simp only [decide_eq_true_eq] at hcount
  rw [← hcount, Report.Document.kinds_of, List.count, List.countP_map]
  apply List.countP_congr
  intro e _
  cases hf : e.failure? with
  | none => simp [hf, k.name_ne_empty.symm]
  | some f => simp [hf, FailureKind.name_injective.eq_iff]

end Document

/-- A failure with the check made is malformed code, no convergence, missing code or a stop.
Its kind is that of the first sentinel it holds, whatever is put around it. And for every
run the instruments, the document and the failure of the run agree on the kinds. -/
theorem failure_kinds_agree :
    (∀ (opts : Options) (cut : Option Cutoff) (code : Option Code) (f : Failure), opts.skipValidation = false →
      (Outcome.of opts cut code).result = .error f → f.kind ∈ [.malformed, .noConvergence, .nilBody, .canceled]) ∧
    (∀ f g : Failure, f.Wraps g → g.kind = f.kind ∧ g.kind = g.firstMatch) ∧
    ∀ (settings : Settings) (methods : List Method) (canceled : Option Interruption) (schedule : List Action)
      (r : Run) (runId traceId : String) (milliseconds : Int) (sources : Report.Sources) (depth : Int),
      (start settings methods canceled).steps? schedule = some r → r.isOver = true →
      let document := Report.Document.of sources depth (some (r.report runId traceId milliseconds))
      let unbegun := (start settings methods canceled).unbegun schedule
      (∀ k : FailureKind, document.kinds.count k.name =
        r.observations.failuresOf k.name + if k = .canceled then unbegun.length else 0) ∧
      (∀ i f, r.failureAt? i = some f →
        document.kinds[i]? = some f.kind.name ∧ .failure f.kind.name ∈ r.observations) ∧
      ∀ f, r.failure = some f → ∃ i m, methods[i]? = some m ∧ f.method? = some m.name ∧
        document.kinds[i]? = some f.kind.name ∧ (i ∉ unbegun → .failure f.kind.name ∈ r.observations) := by
  refine ⟨fun opts cut code f => Outcome.kind_mem, ?_, ?_⟩
  · intro f g hg
    exact ⟨hg.kind_eq, g.kind_eq_firstMatch⟩
  · intro settings methods canceled schedule r runId traceId milliseconds sources depth h hover document unbegun
    have haccounted := accounted_of_steps? h
    refine ⟨count_kinds h hover, ?_, ?_⟩
    · intro i f hf
      exact ⟨getElem?_kinds_of_failureAt? hover hf, haccounted.failure_mem_observations hf⟩
    · intro f hf
      obtain ⟨i, m, s, v, g, hat, hv, hg, rfl⟩ := blaming_of_steps? h f hf
      have hkind := (Failure.Wraps.method m.name (f := g) .self).kind_eq
      refine ⟨i, m, ((lawful_start settings methods canceled).steps? h).getElem?_methods hat, rfl, ?_, ?_⟩
      · rw [hkind]
        exact hat.getElem?_kinds hv hover hg
      · rw [hkind]
        exact failure_mem_of_notMem_unbegun h hover hat hv hg

/-- A method cut short is counted under the kind that the document has for it, one that was
skipped is not, and the run failed with the kind of the one between them. -/
theorem failure_kinds_threeMethods :
    (∃ f, (Outcome.of {} none (some (.wired ⟨#[none]⟩))).result = .error f ∧
      f.kind ∈ [.malformed, .noConvergence, .nilBody, .canceled]) ∧
    (Failure.method "idle" (.noted "idle" .nilBody)).kind = Failure.nilBody.kind ∧
    ∃ r, (start ⟨2, true, {}⟩ threeMethods none).steps? overtaken = some r ∧ r.isOver = true ∧
      (Report.Document.of (fun _ => none) 0 (some (r.report "" "" 0))).kinds = ["canceled", "nil_body", "canceled"] ∧
      r.observations.failuresOf "canceled" = 1 ∧ r.observations.failuresOf "nil_body" = 1 ∧
      ∃ (f : Failure) (i : Nat) (m : Method), r.failure = some f ∧ threeMethods[i]? = some m ∧
        f.method? = some m.name ∧ ["canceled", "nil_body", "canceled"][i]? = some f.kind.name := by
  obtain ⟨hcomplete, hstable, hagree⟩ := failure_kinds_agree
  have hresult : (Outcome.of {} none (some (.wired ⟨#[none]⟩))).result =
      .error (.noted "validate body" (.ofFault ⟨0, -1, .missingInstruction⟩)) := by
    have hrejected : (if ({} : Options).skipValidation then .ok () else (Code.wired ⟨#[none]⟩).check) =
        .error ⟨0, -1, .missingInstruction⟩ := by decide +kernel
    rw [Outcome.of_rejected hrejected]
    rfl
  have hnested : Failure.nilBody.Wraps (.method "idle" (.noted "idle" .nilBody)) := .method _ (.noted _ .self)
  have hunbegun : (start ⟨2, true, {}⟩ threeMethods none).unbegun overtaken = [2] := by decide +kernel
  have hrun : ((start ⟨2, true, {}⟩ threeMethods none).steps? overtaken).map (fun r =>
      (r.isOver, (Report.Document.of (fun _ => none) 0 (some (r.report "" "" 0))).kinds, r.failure)) =
      some (true, ["canceled", "nil_body", "canceled"], some (.method "idle" (.noted "idle" .nilBody))) := by
    decide +kernel
  obtain ⟨r, hr, hfigures⟩ := Option.map_eq_some_iff.1 hrun
  simp only [Prod.mk.injEq] at hfigures
  obtain ⟨hover, hkinds, hfailure⟩ := hfigures
  obtain ⟨hcount, -, hblamed⟩ :=
    hagree ⟨2, true, {}⟩ threeMethods none overtaken r "" "" 0 (fun _ => none) 0 hr hover
  obtain ⟨i, m, hm, hname, hkind, -⟩ := hblamed _ hfailure
  have hcanceled := hcount .canceled
  have hnilBody := hcount .nilBody
  rw [hkinds] at hcanceled hnilBody hkind
  rw [hunbegun, if_pos rfl] at hcanceled
  exact ⟨⟨_, hresult, hcomplete {} none _ _ rfl hresult⟩, (hstable _ _ hnested).1, r, hr, hover, hkinds,
    (Nat.succ.inj hcanceled).symm, hnilBody.symm, _, i, m, hfailure, hm, hname, hkind⟩

end Batch.Run

end ControlDependence
