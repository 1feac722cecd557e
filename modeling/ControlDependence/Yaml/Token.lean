-- SUMMARY: The tokens of a YAML text.

/-!
# Tokens
-/
namespace ControlDependence.Yaml

inductive TokenKind where
  | versionDirective (major minor : Nat)
  | tagDirective (handle lead : String)
  | documentStart
  | documentEnd
  | streamEnd
  | blockListStart
  | blockMapStart
  | blockEnd
  | flowListStart
  | flowListEnd
  | flowMapStart
  | flowMapEnd
  | blockEntry
  | flowEntry
  | key
  | value
  | alias (name : String)
  | anchor (name : String)
  | tag (handle suffix : String)
  | scalar (text : String) (plain : Bool)
  deriving Repr, DecidableEq

structure Token where
  kind : TokenKind
  /-- The line on which the token starts, the first being line 1. -/
  line : Nat
  deriving Repr, DecidableEq

end ControlDependence.Yaml
