-- SUMMARY: Dates and times as plain scalars spell them.

/-!
# Timestamps

A date has a year of four digits, and a month and a day of one or two. A time may
follow it, either after spaces, or after a `T` and then with a zone.
-/
namespace ControlDependence.Yaml

namespace Timestamp

/-- A number of one or two digits and the rest. -/
def number? : List Char → Option (Nat × List Char)
  | a :: b :: cs =>
    if !a.isDigit then none
    else if b.isDigit then some ((a.toNat - 48) * 10 + (b.toNat - 48), cs)
    else some (a.toNat - 48, b :: cs)
  | [a] => if a.isDigit then some (a.toNat - 48, []) else none
  | [] => none

def skip? (c : Char) : List Char → Option (List Char)
  | d :: cs => if c == d then some cs else none
  | [] => none

def isLeap (year : Nat) : Bool := year % 4 = 0 && (year % 100 ≠ 0 || year % 400 = 0)

def daysIn (year month : Nat) : Nat :=
  match month with
  | 2 => if isLeap year then 29 else 28
  | 4 | 6 | 9 | 11 => 30
  | _ => 31

/-- A date and what follows it. -/
def date? (cs : List Char) : Option (List Char) := do
  let year := cs.takeWhile Char.isDigit
  if year.length ≠ 4 then none
  else
    let n := year.foldl (fun n c => n * 10 + (c.toNat - 48)) 0
    let cs ← skip? '-' (cs.drop 4)
    let (month, cs) ← number? cs
    let cs ← skip? '-' cs
    let (day, cs) ← number? cs
    if 1 ≤ month && month ≤ 12 && 1 ≤ day && day ≤ daysIn n month then some cs else none

/-- Hours, minutes and seconds, and what follows them. -/
def clock? (cs : List Char) : Option (List Char) := do
  let (hour, cs) ← number? cs
  let cs ← skip? ':' cs
  let (minute, cs) ← number? cs
  let cs ← skip? ':' cs
  let (second, cs) ← number? cs
  if hour < 24 && minute < 60 && second < 60 then
    match cs with
    | p :: d :: ds =>
      if (p == '.' || p == ',') && d.isDigit then some (ds.dropWhile Char.isDigit) else some cs
    | _ => some cs
  else none

/-- Whether the text is a zone: `Z`, or a signed offset in hours and minutes. -/
def isZone : List Char → Bool
  | ['Z'] => true
  | [s, a, b, ':', c, d] =>
    (s == '+' || s == '-') && a.isDigit && b.isDigit && c.isDigit && d.isDigit
      && (a.toNat - 48) * 10 + (b.toNat - 48) ≤ 24 && (c.toNat - 48) * 10 + (d.toNat - 48) ≤ 60
  | _ => false

end Timestamp

/-- Whether a plain scalar is a date or a time. -/
def isTimestamp (cs : List Char) : Bool :=
  match Timestamp.date? cs with
  | none => false
  | some [] => true
  | some ('T' :: cs) => (Timestamp.clock? cs).elim false Timestamp.isZone
  | some ('t' :: cs) => (Timestamp.clock? cs).elim false Timestamp.isZone
  | some (' ' :: cs) => (Timestamp.clock? (cs.dropWhile (· == ' '))).elim false List.isEmpty
  | _ => false

end ControlDependence.Yaml
