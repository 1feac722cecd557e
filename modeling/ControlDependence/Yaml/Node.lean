-- SUMMARY: The nodes of a YAML document.

/-!
# Nodes
-/
namespace ControlDependence.Yaml

/-- A node, with the line where it starts and its tag. -/
inductive Node where
  | scalar (line : Nat) (tag : String) (text : String)
  | list (line : Nat) (tag : String) (items : List Node)
  | map (line : Nat) (tag : String) (entries : List (Node × Node))
  /-- A reference to an anchored node. Each has a number of its own. -/
  | alias (line : Nat) (name : String) (anchor : Nat) (number : Nat)

namespace Node

def line : Node → Nat
  | .scalar l .. => l
  | .list l .. => l
  | .map l .. => l
  | .alias l .. => l

/-- The text that tells one key from another: that of a scalar, or the name of an alias. -/
def keyText : Node → String
  | .scalar _ _ t => t
  | .alias _ n .. => n
  | _ => ""

/-- Whether two nodes are of one form. -/
def sameForm : Node → Node → Bool
  | .scalar .., .scalar .. => true
  | .list .., .list .. => true
  | .map .., .map .. => true
  | .alias .., .alias .. => true
  | _, _ => false

end Node

/-- A document: its root, if it has one, and the nodes that were anchored. -/
structure Document where
  root : Option Node
  anchors : Array (Option Node)

end ControlDependence.Yaml
