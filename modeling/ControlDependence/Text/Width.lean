-- SUMMARY: How many terminal cells a line of text takes.
import ControlDependence.Text.Width.Tables

/-!
# Display width

Most characters take one cell, wide ones two, marks and control characters none.
Pictographs joined into one picture, a pair of flag letters and the letters of one
Hangul syllable count as their first character.
-/
namespace ControlDependence.Text

namespace Width

/-- What the character before leaves open. -/
inductive Lead where
  | none
  /-- A picture of so many cells, with a joiner at its end or not. -/
  | picture (cells : Nat) (joined : Bool)
  | flagLetter
  | syllable

def Lead.cells : Lead → Nat
  | .picture n _ => n
  | _ => 0

def zeroWidthJoiner : Char := Char.ofNat 0x200D

def isFlagLetter (c : Char) : Bool := 0x1F1E6 ≤ c.toNat && c.toNat ≤ 0x1F1FF

def isSyllableStart (c : Char) : Bool :=
  (0x1100 ≤ c.toNat && c.toNat ≤ 0x115F) || (0xA960 ≤ c.toNat && c.toNat ≤ 0xA97C)

def isSyllablePart (c : Char) : Bool :=
  (0x1100 ≤ c.toNat && c.toNat ≤ 0x11FF) || (0xA960 ≤ c.toNat && c.toNat ≤ 0xA97C)
    || (0xAC00 ≤ c.toNat && c.toNat ≤ 0xD7FB)

/-- The cells of a character that starts afresh, and what it leaves open. -/
def startOf (c : Char) : Nat × Lead :=
  if c.toNat < 0x80 then (if c.toNat < 0x20 || c.toNat = 0x7F then 0 else 1, .none)
  else if extenderRanges.contains c || controlRanges.contains c then (0, .none)
  else if isFlagLetter c then (2, .flagLetter)
  else if pictographRanges.contains c then
    (0, .picture (if emojiRanges.contains c then 2 else 1) false)
  else if isSyllableStart c then (2, .syllable)
  else if c.toNat = 0x2E3A then (3, .none)
  else if c.toNat = 0x2E3B then (4, .none)
  else (if wideRanges.contains c then 2 else 1, .none)

/-- What stays open when a character attaches to the one before. -/
def attach? (lead : Lead) (c : Char) : Option Lead :=
  match lead with
  | .none => none
  | .picture cells joined =>
    if extenderRanges.contains c then
      let cells :=
        match c.toNat with
        | 0xFE0E => 1
        | 0xFE0F => 2
        | _ => cells
      some (.picture cells (c == zeroWidthJoiner))
    else if joined && pictographRanges.contains c then some (.picture cells false)
    else none
  | .flagLetter => if isFlagLetter c then some .none else none
  | .syllable => if isSyllablePart c then some .syllable else none

def ofChars (lead : Lead) : List Char → Nat
  | [] => lead.cells
  | c :: cs =>
    match attach? lead c with
    | some lead => ofChars lead cs
    | none =>
      let (cells, next) := startOf c
      lead.cells + cells + ofChars next cs

end Width

/-- The cells that a line takes on a terminal. -/
def width (line : String) : Nat := Width.ofChars .none line.toList

end ControlDependence.Text
