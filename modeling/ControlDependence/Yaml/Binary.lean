-- SUMMARY: Binary scalars, which are written in base 64.

/-!
# Binary scalars

Four digits give three bytes. Padding makes up what is missing of the last four, and line ends count
for nothing.
-/
namespace ControlDependence.Yaml

def digit64? (c : Char) : Option Nat :=
  if c.isUpper then some (c.toNat - 'A'.toNat)
  else if c.isLower then some (c.toNat - 'a'.toNat + 26)
  else if c.isDigit then some (c.toNat - '0'.toNat + 52)
  else if c == '+' then some 62
  else if c == '/' then some 63
  else none

/-- The bytes of digits; bits that are left over at the end are dropped. -/
def bytesOfDigits : List Nat → List UInt8
  | a :: b :: c :: d :: rest =>
    let n := ((a * 64 + b) * 64 + c) * 64 + d
    UInt8.ofNat (n / 65536) :: UInt8.ofNat (n / 256) :: UInt8.ofNat n :: bytesOfDigits rest
  | [a, b, c] =>
    let n := (a * 64 + b) * 64 + c
    [UInt8.ofNat (n / 1024), UInt8.ofNat (n / 4)]
  | [a, b] => [UInt8.ofNat ((a * 64 + b) / 16)]
  | _ => []

/-- The bytes that a text stands for. -/
def bytes64? (s : String) : Option ByteArray := do
  let cs := s.toList.filter fun c => c != '\n' && c != '\r'
  let padding := (cs.reverse.takeWhile (· == '=')).length
  if 2 < padding || cs.length % 4 ≠ 0 then none
  else
    let digits ← (cs.take (cs.length - padding)).mapM digit64?
    return ⟨(bytesOfDigits digits).toArray⟩

/-- The characters of bytes from a place on. A byte that is part of none is replaced. -/
def charactersFrom (bytes : ByteArray) : (fuel place : Nat) → List Char
  | 0, _ => []
  | fuel + 1, i =>
    if bytes.size ≤ i then []
    else
      match bytes.utf8DecodeChar? i with
      | some c => c :: charactersFrom bytes fuel (i + c.utf8Size)
      | none => Char.ofNat 0xFFFD :: charactersFrom bytes fuel (i + 1)

/-- The text that a binary scalar stands for. -/
def binaryText? (s : String) : Option String :=
  (bytes64? s).map fun bytes => String.ofList (charactersFrom bytes bytes.size 0)

end ControlDependence.Yaml
