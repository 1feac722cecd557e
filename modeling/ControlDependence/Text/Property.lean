-- SUMMARY: Sets of characters by the name of a category or script.
import ControlDependence.Text.LowerCase
import ControlDependence.Text.Property.Categories
import ControlDependence.Text.Property.Scripts
import ControlDependence.Text.Ranges

/-!
# Named sets of characters

Names are compared without regard to case, spaces, hyphens and underscores.
-/
namespace ControlDependence.Text

def digit36 (c : Char) : Nat :=
  if c.isDigit then c.toNat - '0'.toNat else c.toNat - 'a'.toNat + 10

def number36 (s : String) : Nat := s.toList.foldl (fun n c => n * 36 + digit36 c) 0

/-- Coded ranges after the last member of the range before. -/
def decodeFrom (last : Nat) : List String → List (Nat × Nat)
  | [] => []
  | r :: rs =>
    let (first, length) :=
      match r.splitOn "-" with
      | [d, n] => (last + number36 d, number36 n)
      | _ => (last + number36 r, 0)
    (first, first + length) :: decodeFrom (first + length) rs

/-- The ranges of a code whose words stand between spaces or line ends. -/
def decode (s : String) : Ranges :=
  (decodeFrom 0 (((s.splitOn "\n").flatMap (·.splitOn " ")).filter (· ≠ ""))).toArray

/-- What is left of a name when it is compared. -/
def nameKey (s : String) : String :=
  String.ofList ((s.toList.filter fun c => c != '_' && c != '-' && c != ' ').map lowerChar)

/-- The sets whose names have a property. -/
def namedSets (p : String → Bool) (table : List (String × String)) : List Ranges :=
  (table.filter fun (names, _) => (names.splitOn ",").any p).map fun (_, r) => decode r

/-- The kinds of categories, which their first letter tells apart, and cased letters. -/
def categoryGroups : List (String × List String) := [
  ("C", ["C", "Other"]), ("L", ["L", "Letter"]), ("M", ["M", "Mark", "Combining_Mark"]),
  ("N", ["N", "Number"]), ("P", ["P", "Punctuation", "Punct"]), ("S", ["S", "Symbol"]),
  ("Z", ["Z", "Separator"])]

/-- The sets that make up a property, if there is one of that name. -/
def property? (name : String) : Option (List Ranges) :=
  let key := nameKey name
  let isKey := fun s => nameKey s == key
  let category := fun p => namedSets p categoryTable
  if key == "any" then some [#[(0, 0x10FFFF)]]
  else if key == "ascii" then some [#[(0, 0x7F)]]
  else if key == "lc" || key == "casedletter" then
    some (category fun n => n == "Ll" || n == "Lt" || n == "Lu")
  else if key == "assigned" then
    some (category fun n => n.length == 2 && n != "Cn")
  else
    match categoryGroups.find? fun (_, names) => names.any isKey with
    | some (letter, _) => some (category fun n => n.length == 2 && n.startsWith letter)
    | none =>
      match category isKey ++ namedSets isKey scriptTable with
      | [] => none
      | sets => some sets

end ControlDependence.Text
