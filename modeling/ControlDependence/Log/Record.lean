-- SUMMARY: Log records: a level, a message and attributes in order.
import ControlDependence.Attribute
import ControlDependence.Log.Level

/-!
# Log records
-/
namespace ControlDependence.Log

structure Record where
  level : Level
  message : String
  attrs : List Attribute

namespace Record

/-- The record with attributes in front of its own. -/
def under (attrs : List Attribute) (r : Record) : Record := { r with attrs := attrs ++ r.attrs }

end Record

/-- The key of a value that was given none. -/
def missingKey : String := "!BADKEY"

/-- The attributes that a flat list of keys and values gives. A value where a key is due, and
a key without value, are kept under a key that says so. -/
def attributesOf : List Value → List Attribute
  | .text k :: v :: rest => ⟨k, v⟩ :: attributesOf rest
  | v :: rest => ⟨missingKey, v⟩ :: attributesOf rest
  | [] => []

/-- Attributes and groups that a logger puts around those of each record. A group holds all
that is added after it is opened. -/
structure Scope where
  attrs : List Attribute := []
  groups : List (String × List Attribute) := []

namespace Scope

/-- Appends to the innermost group's attributes. -/
def addLast (new : List Attribute) : List (String × List Attribute) → List (String × List Attribute)
  | [] => []
  | [(g, attrs)] => [(g, attrs ++ new)]
  | g :: rest => g :: addLast new rest

/-- Adds attributes. One with neither key nor value is left out. -/
def add (s : Scope) (new : List Attribute) : Scope :=
  let new := new.filter fun a =>
    match a.value with
    | .null => !a.key.isEmpty
    | _ => true
  if s.groups.isEmpty then { s with attrs := s.attrs ++ new }
  else { s with groups := addLast new s.groups }

/-- Opens a group; one without a name opens nothing. -/
def enter (s : Scope) (name : String) : Scope :=
  if name.isEmpty then s else { s with groups := s.groups ++ [(name, [])] }

end Scope

end ControlDependence.Log
