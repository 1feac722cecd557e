-- SUMMARY: Named values attached to log records and trace spans.

/-!
# Attributes
-/
namespace ControlDependence

inductive Value where
  | text (s : String)
  | int (n : Int)
  | float (x : Float)
  | bool (b : Bool)
  | null
  /-- A length of time in nanoseconds. -/
  | duration (nanoseconds : Nat)

structure Attribute where
  key : String
  value : Value

namespace Attribute

def text (key s : String) : Attribute := ⟨key, .text s⟩

def int (key : String) (n : Int) : Attribute := ⟨key, .int n⟩

def bool (key : String) (b : Bool) : Attribute := ⟨key, .bool b⟩

def duration (key : String) (nanoseconds : Nat) : Attribute := ⟨key, .duration nanoseconds⟩

/-- Sets an attribute, replacing one of the same key. -/
def set (attrs : List Attribute) (a : Attribute) : List Attribute :=
  if attrs.any (·.key == a.key) then attrs.map fun b => if b.key == a.key then a else b
  else attrs ++ [a]

def setAll (attrs new : List Attribute) : List Attribute := new.foldl set attrs

end Attribute

end ControlDependence
