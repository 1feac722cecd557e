-- SUMMARY: The context that callers have to give.

/-!
# Contexts

Whoever starts a run or the telemetry says in which context, and there is no default.
-/
namespace ControlDependence

inductive ContextError where
  | missing
  deriving Repr, DecidableEq

def ContextError.message : ContextError → String
  | .missing => "context must not be nil"

end ControlDependence
