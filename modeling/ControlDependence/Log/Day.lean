-- SUMMARY: Days of the calendar, which log files are named for.

/-!
# Days

The calendar repeats after 400 years, which have 146097 days. Years are counted from March here, so
that a leap day is the last of its year.
-/
namespace ControlDependence.Log

structure Day where
  year : Nat
  month : Nat
  day : Nat
  deriving Repr, DecidableEq

namespace Day

/-- The day that comes so many days after the first of March of the year 0. -/
def ofNumber (n : Nat) : Day :=
  let cycle := n / 146097
  let rest := n % 146097
  let year := (rest - rest / 1460 + rest / 36524 - rest / 146096) / 365
  let dayOfYear := rest - (365 * year + year / 4 - year / 100)
  let month := (5 * dayOfYear + 2) / 153
  { year := cycle * 400 + year + (if month < 10 then 0 else 1)
    month := if month < 10 then month + 3 else month - 9
    day := dayOfYear - (153 * month + 2) / 5 + 1 }

/-- The day at a time in seconds since the start of 1970. -/
def ofSeconds (seconds : Nat) : Day := ofNumber (seconds / 86400 + 719468)

example : ofSeconds 0 = ⟨1970, 1, 1⟩ := by decide

example : ofSeconds 951782400 = ⟨2000, 2, 29⟩ := by decide

def padded (width n : Nat) : String :=
  let digits := toString n
  String.ofList (List.replicate (width - digits.length) '0') ++ digits

/-- Year, month and day with hyphens between them. -/
def name (d : Day) : String := s!"{padded 4 d.year}-{padded 2 d.month}-{padded 2 d.day}"

end Day

end ControlDependence.Log
