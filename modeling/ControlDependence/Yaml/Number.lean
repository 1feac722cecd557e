-- SUMMARY: Integers and floating-point numbers as plain scalars spell them.

/-!
# Numbers in plain scalars

Integers have a base given by their first digits: `0x`, `0o`, `0b`, or octal after a
leading zero. They fit 64 bits, with a sign or, unsigned, without one.
-/
namespace ControlDependence.Yaml

def digitValue (c : Char) : Nat :=
  if c.isDigit then c.toNat - '0'.toNat
  else if 'a' ≤ c && c ≤ 'z' then c.toNat - 'a'.toNat + 10
  else if 'A' ≤ c && c ≤ 'Z' then c.toNat - 'A'.toNat + 10
  else 36

/-- The value of digits in a base, unless one is no digit of it. -/
def digits? (base : Nat) (cs : List Char) : Option Nat :=
  if cs.all fun c => digitValue c < base then
    some (cs.foldl (fun n c => n * base + digitValue c) 0)
  else none

/-- A magnitude whose first characters give its base. -/
def magnitude? : List Char → Option Nat
  | [] => none
  | '0' :: p :: d :: ds =>
    match p.toLower with
    | 'b' => digits? 2 (d :: ds)
    | 'o' => digits? 8 (d :: ds)
    | 'x' => digits? 16 (d :: ds)
    | _ => digits? 8 (p :: d :: ds)
  | '0' :: ds => digits? 8 ds
  | ds => digits? 10 ds

def greatestInt : Nat := 9223372036854775807

/-- Gives a sign to a magnitude that fits 64 bits. -/
def signed? (sign : Option Char) (n : Nat) : Option Int :=
  match sign with
  | some '-' => if n ≤ greatestInt + 1 then some (-(n : Int)) else none
  | some _ => if n ≤ greatestInt then some n else none
  | none => if n ≤ 2 * greatestInt + 1 then some n else none

/-- A leading sign and the rest. -/
def splitSign : List Char → Option Char × List Char
  | '+' :: cs => (some '+', cs)
  | '-' :: cs => (some '-', cs)
  | cs => (none, cs)

/-- A magnitude in a given base, with a sign of its own. -/
def signedDigits? (base : Nat) (cs : List Char) : Option Int :=
  let (sign, ds) := splitSign cs
  if ds.isEmpty then none else (digits? base ds).bind (signed? sign)

/-- An integer. After `0b` and `0o` a sign may stand too. -/
def int? (cs : List Char) : Option Int :=
  let (sign, ds) := splitSign cs
  match (magnitude? ds).bind (signed? sign) with
  | some n => some n
  | none =>
    match cs with
    | '0' :: 'b' :: ds => signedDigits? 2 ds
    | '0' :: 'o' :: ds => signedDigits? 8 ds
    | _ => none

/-- The digits of a decimal fraction. -/
structure Decimal where
  negative : Bool
  whole : List Char
  fraction : List Char
  exponent : Int

namespace Decimal

/-- The nearest floating-point number, unless it would be infinite. -/
def float? (d : Decimal) : Option Float :=
  let all := (d.whole ++ d.fraction).dropWhile (· == '0')
  let mantissa := all.foldl (fun n c => n * 10 + digitValue c) 0
  let scale := d.exponent - d.fraction.length
  let x :=
    if all.isEmpty || scale + all.length < -400 then 0
    else if scale + all.length > 400 then 1 / 0
    else if 0 ≤ scale then Float.ofScientific mantissa false scale.toNat
    else Float.ofScientific mantissa true (-scale).toNat
  if x.isInf then none else some (if d.negative then -x else x)

end Decimal

/-- The exponent after the mark `e`, zero when there is none at all. -/
def exponent? : List Char → Option Int
  | [] => some 0
  | c :: cs =>
    if c == 'e' || c == 'E' then
      let (sign, ds) := splitSign cs
      if ds.isEmpty then none
      else (digits? 10 ds).map fun n => if sign = some '-' then -(n : Int) else n
    else none

/-- A decimal fraction: digits before the point or, if none, after it. -/
def decimal? (cs : List Char) : Option Decimal := do
  let (sign, cs) := splitSign cs
  let whole := cs.takeWhile Char.isDigit
  let rest := cs.dropWhile Char.isDigit
  let (fraction, rest) :=
    match rest with
    | '.' :: ds => (ds.takeWhile Char.isDigit, ds.dropWhile Char.isDigit)
    | _ => ([], rest)
  if whole.isEmpty && fraction.isEmpty then none
  else
    let exponent ← exponent? rest
    return { negative := sign = some '-', whole, fraction, exponent }

/-- Whether every underscore stands between two digits. -/
def spacedWell : (before : Option Char) → List Char → Bool
  | _, [] => true
  | before, '_' :: cs =>
    (before.elim false Char.isDigit) && (cs.head?.elim false Char.isDigit) && spacedWell (some '_') cs
  | _, c :: cs => spacedWell (some c) cs

end ControlDependence.Yaml
