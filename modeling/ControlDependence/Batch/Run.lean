-- SUMMARY: A run over many methods as a transition system, and the run that takes them one at a time.
import ControlDependence.Dependence.Analysis

/-!
# Runs over many methods

A run takes up its methods in order and gives each to one of a limited number of
workers. A method that is taken up after the run was stopped is skipped; any other one
waits for a free worker, even if the run is stopped meanwhile.

A worker asks before its analysis and before every pass whether the run has been
stopped. In the end it hands in its verdict. If the run is to fail fast, the first failure
that is handed in becomes the run's own, and its worker stops the run before it leaves.
A run may also be stopped from outside.

A worker that crashes never hands anything in, so the run is never over.

`Run.step?` allows every interleaving of these events, in each of which at most one
worker looks at what the workers share. `Run.oneByOne` is the run in which each worker
leaves before the next method is taken up.
-/
namespace ControlDependence.Batch

structure Method where
  name : String
  code : Option Code

structure Settings where
  workers : Nat
  failFast : Bool
  options : Options

/-- What became of a method. -/
inductive Verdict where
  /-- Never analysed, because the run had been stopped. -/
  | skipped (cause : Interruption)
  | analyzed (outcome : Outcome)

namespace Verdict

/-- The result under the method's name. -/
def result (name : String) : Verdict → Except Failure Analysis
  | .skipped c => .error (.interrupted c)
  | .analyzed o => o.result.mapError (.noted name)

end Verdict

/-- How far a method has got. -/
inductive Stage where
  /-- It has not been taken up. -/
  | pending
  /-- It waits for a worker. -/
  | queued
  /-- Its worker has yet to ask whether to begin. -/
  | assigned
  /-- Its worker is between two passes. -/
  | solving (code : Code) (solver : Solver)
  /-- Its worker has crashed. -/
  | crashed
  /-- Its worker has a verdict to hand in. -/
  | decided (verdict : Verdict)
  /-- Its verdict has been handed in. `first` says whether this is to stop the run. -/
  | handedIn (verdict : Verdict) (first : Bool)
  /-- It has no worker any more. -/
  | settled (verdict : Verdict)

namespace Stage

/-- Whether a worker has the method. -/
def isBusy : Stage → Bool
  | .assigned | .solving .. | .crashed | .decided _ | .handedIn .. => true
  | .pending | .queued | .settled _ => false

def isQueued : Stage → Bool
  | .queued => true
  | _ => false

def isSettled : Stage → Bool
  | .settled _ => true
  | _ => false

/-- The verdict that has been handed in. -/
def verdict? : Stage → Option Verdict
  | .handedIn v _ => some v
  | .settled v => some v
  | _ => none

/-- The beginning of an analysis, up to the first pass. -/
def begin (opts : Options) : Option Code → Stage
  | none => .decided (.analyzed .noBody)
  | some code =>
    match if opts.skipValidation then .ok () else code.check with
    | .error fault => .decided (.analyzed (.rejected code fault))
    | .ok () =>
      if code.isReadable then
        .solving code (.init code.flow (.ofFlow code.flow opts.exitRoots) opts.maxPasses)
      else .crashed

/-- One more pass, if the bound allows it and the run has not been stopped. -/
def pass (code : Code) (s : Solver) (stopped : Option Interruption) : Stage :=
  if s.bound ≤ s.passes then .decided (.analyzed (.unsolved s s.boundFailure))
  else
    match stopped with
    | some c => .decided (.analyzed (.unsolved s (.interrupted c)))
    | none =>
      match s.pass with
      | (s', _, some (i, f)) => .decided (.analyzed (.unsolved s' (s'.walkFailure i f)))
      | (s', true, none) => .solving code s'
      | (s', false, none) => .decided (.analyzed (.solved (.ofSolver code s')))

/-- What a worker does next about its method while it has no verdict. -/
def work? (opts : Options) (code : Option Code) (stopped : Option Interruption) : Stage → Option Stage
  | .assigned =>
    match stopped with
    | some c => some (.decided (.skipped c))
    | none => some (begin opts code)
  | .solving code s => some (pass code s stopped)
  | _ => none

/-- More events than a method at this stage can take part in. -/
def effort (opts : Options) (code : Option Code) : Stage → Nat
  | .pending => bound + 6
  | .queued => bound + 5
  | .assigned => bound + 4
  | .solving _ s => s.bound - s.passes + 3
  | .decided _ => 2
  | .handedIn .. => 1
  | .settled _ | .crashed => 0
where
  /-- The bound on the passes over the code. -/
  bound : Nat :=
    match code with
    | some code => Solver.boundFor (.ofFlow code.flow opts.exitRoots) opts.maxPasses
    | none => 0

end Stage

/-- A method in a run. -/
structure Job where
  method : Method
  stage : Stage

/-- A run under way. -/
structure Run where
  settings : Settings
  jobs : Array Job
  /-- The next method to take up or to give to a worker. -/
  next : Nat
  /-- Why the run was stopped from outside. -/
  canceled : Option Interruption
  /-- Why workers and submission are told to stop. -/
  stopped : Option Interruption
  /-- The failure that stops the run from inside. -/
  failure : Option Failure
  /-- The methods whose verdicts have been handed in by workers, the latest first. -/
  finished : List Nat

/-- An event in a run. -/
inductive Action where
  /-- The run is stopped from outside. -/
  | cancel (cause : Interruption)
  /-- The next method is taken up. -/
  | submit
  /-- The method that waits gets a worker. -/
  | start
  /-- A worker asks whether to stop, and goes on to its next question or its verdict. -/
  | work (method : Nat)
  /-- A worker hands in its verdict. -/
  | handIn (method : Nat)
  /-- A worker leaves. -/
  | leave (method : Nat)
  deriving Repr, DecidableEq

/-- What the worker of a method is to do next, if it has one. -/
def Stage.event? (i : Nat) : Stage → Option Action
  | .assigned | .solving .. => some (.work i)
  | .decided _ => some (.handIn i)
  | .handedIn .. => some (.leave i)
  | .pending | .queued | .crashed | .settled _ => none

namespace Run

def start (settings : Settings) (methods : List Method) (canceled : Option Interruption) : Run where
  settings
  jobs := (methods.map fun method => { method, stage := .pending }).toArray
  next := 0
  canceled
  stopped := canceled
  failure := none
  finished := []

/-- The run with a method at another stage. -/
def put (r : Run) (i : Nat) (stage : Stage) : Run :=
  { r with jobs := r.jobs.modify i fun j => { j with stage } }

/-- The sum of a figure over all methods. -/
def tally (r : Run) (figure : Job → Nat) : Nat := r.jobs.toList.foldr (fun j n => figure j + n) 0

/-- The number of workers that have a method. -/
def busy (r : Run) : Nat := r.tally fun j => if j.stage.isBusy then 1 else 0

/-- More events than can still happen, stops from outside apart. -/
def effort (r : Run) : Nat := r.tally fun j => j.stage.effort r.settings.options j.method.code

def cancel (r : Run) (cause : Interruption) : Run :=
  { r with canceled := r.canceled.or (some cause), stopped := r.stopped.or (some cause) }

def submit (r : Run) : Option Run :=
  match r.jobs[r.next]? with
  | some ⟨_, .pending⟩ =>
    match r.stopped with
    | some c => some { r.put r.next (.settled (.skipped c)) with next := r.next + 1 }
    | none => some (r.put r.next .queued)
  | _ => none

def assign (r : Run) : Option Run :=
  match r.jobs[r.next]? with
  | some ⟨_, .queued⟩ =>
    if r.busy < r.settings.workers then some { r.put r.next .assigned with next := r.next + 1 }
    else none
  | _ => none

def work (r : Run) (i : Nat) : Option Run :=
  match r.jobs[i]? with
  | some ⟨m, s⟩ => (s.work? r.settings.options m.code r.stopped).map (r.put i)
  | none => none

/-- The failure of the run that a verdict brings about, if the run is to fail fast and has
none. -/
def failure? (r : Run) (m : Method) (v : Verdict) : Option Failure :=
  if r.settings.failFast && r.failure.isNone then
    match v.result m.name with
    | .ok _ => none
    | .error f => some (.method m.name f)
  else none

def handIn (r : Run) (i : Nat) : Option Run :=
  match r.jobs[i]? with
  | some ⟨m, .decided v⟩ =>
    some {
      r.put i (.handedIn v (r.failure? m v).isSome) with
      failure := r.failure.or (r.failure? m v)
      finished := i :: r.finished }
  | _ => none

def leave (r : Run) (i : Nat) : Option Run :=
  match r.jobs[i]? with
  | some ⟨_, .handedIn v first⟩ =>
    some {
      r.put i (.settled v) with
      stopped := if first then r.stopped.or (some .canceled) else r.stopped }
  | _ => none

/-- The run after an event that may happen now. -/
def step? (r : Run) : Action → Option Run
  | .cancel c => some (r.cancel c)
  | .submit => r.submit
  | .start => r.assign
  | .work i => r.work i
  | .handIn i => r.handIn i
  | .leave i => r.leave i

/-- The run after events that may happen one after the other. -/
def steps? (r : Run) (schedule : List Action) : Option Run := schedule.foldlM step? r

/-- The next event if a worker that has a method comes before all else. -/
def turn (r : Run) : Action :=
  let event? := (List.range r.jobs.size).findSome? fun i => r.jobs[i]?.bind (·.stage.event? i)
  event?.getD (if r.jobs[r.next]?.any (·.stage.isQueued) then .start else .submit)

/-- So many turns, or as many as can happen. -/
def drive : Nat → Run → Run
  | 0, r => r
  | n + 1, r =>
    match r.step? r.turn with
    | some r' => drive n r'
    | none => r

/-- The run that waits for each worker before it takes up the next method. -/
def oneByOne (r : Run) : Run := drive r.effort r

/-- Whether every method has been settled. -/
def isOver (r : Run) : Bool := r.jobs.all (·.stage.isSettled)

/-- Why the run as a whole failed. -/
def error? (r : Run) : Option Failure := r.failure.or (r.canceled.map .interrupted)

end Run

end ControlDependence.Batch
