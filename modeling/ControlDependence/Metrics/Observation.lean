-- SUMMARY: What analyses report to the metric instruments, and the totals of a log of observations.

/-!
# Observations

Instruments are read off the log of everything that was reported to them. Only a
successful analysis counts towards passes and dependency pairs.
-/
namespace ControlDependence.Metrics

inductive Observation where
  /-- A finished analysis; `outcome` is `ok` when it succeeded. -/
  | analysis (outcome : String) (seconds : Float) (passes edges : Int)
  /-- A failed analysis of some kind. -/
  | failure (kind : String)

/-- The outcome that counts as success. -/
def okOutcome : String := "ok"

def errorOutcome : String := "error"

namespace Observation

def outcome? : Observation → Option String
  | .analysis o .. => some o
  | .failure _ => none

def kind? : Observation → Option String
  | .failure k => some k
  | .analysis .. => none

def seconds? (outcome : String) : Observation → Option Float
  | .analysis o s .. => if o = outcome then some s else none
  | .failure _ => none

def passes? : Observation → Option Int
  | .analysis o _ p _ => if o = okOutcome then some p else none
  | .failure _ => none

def edges? : Observation → Option Int
  | .analysis o _ _ e => if o = okOutcome then some e else none
  | .failure _ => none

end Observation

/-- The different members of a list in ascending order. -/
def distinct (xs : List String) : List String := (xs.mergeSort fun a b => decide (a ≤ b)).eraseReps

/-- How often each member occurs, in ascending order of members. -/
def tally (xs : List String) : List (String × Nat) := (distinct xs).map fun x => (x, xs.count x)

/-- How many values lie in each interval that ascending bounds cut out. A value on a
bound belongs below it, and the last interval has no bound above. -/
def buckets {α : Type} [LE α] [DecidableLE α] (bounds values : List α) : List Nat :=
  match bounds with
  | [] => [values.length]
  | b :: bs =>
    let (low, high) := values.partition fun v => v ≤ b
    low.length :: buckets bs high

/-- The bounds on seconds. -/
def secondsBounds : List Float := [0.0001, 0.0005, 0.001, 0.005, 0.01, 0.05, 0.1, 0.5, 1]

/-- The bounds on passes. -/
def passesBounds : List Int := [1, 2, 3, 4, 6, 8, 16, 32]

/-- The log of a meter. -/
abbrev Observations := List Observation

namespace Observations

/-- Finished analyses by outcome. -/
def analyses (os : Observations) : List (String × Nat) := tally (os.filterMap (·.outcome?))

/-- Failed analyses by kind. -/
def failures (os : Observations) : List (String × Nat) := tally (os.filterMap (·.kind?))

def seconds (os : Observations) (outcome : String) : List Float :=
  os.filterMap (·.seconds? outcome)

def passes (os : Observations) : List Int := os.filterMap (·.passes?)

def edges (os : Observations) : List Int := os.filterMap (·.edges?)

def passesSum (os : Observations) : Int := os.passes.foldr (· + ·) 0

/-- The number of dependency pairs of all successful analyses. -/
def edgesTotal (os : Observations) : Int := os.edges.foldr (· + ·) 0

end Observations

end ControlDependence.Metrics
