-- SUMMARY: Integers with a sign, a base and digit separators, as arguments give them.

/-!
# Integer arguments

A leading zero announces the base: `0b`, `0o` and `0x`, or octal without a letter. An underscore
may stand between digits and after the base.
-/
namespace ControlDependence.CommandLine

/-- Why a text is not an integer of 64 bits. -/
inductive IntegerError where
  | notNumber
  | outOfRange
  deriving Repr, DecidableEq

def IntegerError.message : IntegerError → String
  | .notNumber => "invalid syntax"
  | .outOfRange => "value out of range"

/-- A digit in bases up to 36. -/
def digitValue? (c : Char) : Option Nat :=
  if c.isDigit then some (c.toNat - '0'.toNat)
  else if 'a' ≤ c && c ≤ 'z' then some (c.toNat - 'a'.toNat + 10)
  else if 'A' ≤ c && c ≤ 'Z' then some (c.toNat - 'A'.toNat + 10)
  else none

/-- The base that leading characters announce, whether they do so with a letter, and the digits
after them. -/
def splitBase : List Char → Nat × Bool × List Char
  | '0' :: 'b' :: d :: ds => (2, true, d :: ds)
  | '0' :: 'B' :: d :: ds => (2, true, d :: ds)
  | '0' :: 'o' :: d :: ds => (8, true, d :: ds)
  | '0' :: 'O' :: d :: ds => (8, true, d :: ds)
  | '0' :: 'x' :: d :: ds => (16, true, d :: ds)
  | '0' :: 'X' :: d :: ds => (16, true, d :: ds)
  | '0' :: ds => (8, true, ds)
  | ds => (10, false, ds)

/-- Whether each underscore stands between digits. `after` says whether one may come now. -/
def separatorsOk (after : Bool) : List Char → Bool
  | [] => true
  | ['_'] => false
  | '_' :: d :: ds => after && d != '_' && separatorsOk true ds
  | _ :: ds => separatorsOk true ds

/-- The value of digits, which must stay below a bound at each of them. -/
def digitsValue (base bound n : Nat) : List Char → Except IntegerError Nat
  | [] => .ok n
  | '_' :: ds => digitsValue base bound n ds
  | c :: ds =>
    match digitValue? c with
    | none => .error .notNumber
    | some d =>
      if base ≤ d then .error .notNumber
      else if bound ≤ n * base + d then .error .outOfRange
      else digitsValue base bound (n * base + d) ds

/-- How many numbers a word of 64 bits tells apart. -/
def wordSize : Nat := 18446744073709551616

/-- A number without sign below 2^64. -/
def readNatural (s : List Char) : Except IntegerError Nat :=
  if s.isEmpty then .error .notNumber
  else
    let (base, announced, ds) := splitBase s
    match digitsValue base wordSize 0 ds with
    | .error e => .error e
    | .ok n => if separatorsOk announced ds then .ok n else .error .notNumber

/-- A number from -2^63 up to 2^63 - 1. -/
def readInteger (s : String) : Except IntegerError Int :=
  match s.toList with
  | '-' :: ds =>
    match readNatural ds with
    | .ok n => if n ≤ wordSize / 2 then .ok (-(n : Int)) else .error .outOfRange
    | .error e => .error e
  | cs =>
    let ds :=
      match cs with
      | '+' :: ds => ds
      | ds => ds
    match readNatural ds with
    | .ok n => if n < wordSize / 2 then .ok n else .error .outOfRange
    | .error e => .error e

/-- A truth value. -/
def readTruth? (s : String) : Option Bool :=
  if ["1", "t", "T", "TRUE", "true", "True"].contains s then some true
  else if ["0", "f", "F", "FALSE", "false", "False"].contains s then some false
  else none

end ControlDependence.CommandLine
