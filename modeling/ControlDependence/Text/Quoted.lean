-- SUMMARY: Text between double quotes, with everything escaped that would not show.
import ControlDependence.Text.Printable

/-!
# Quoted text
-/
namespace ControlDependence.Text

/-- The lower-case hexadecimal digits of a number, padded with zeros to a width. -/
def hex (width n : Nat) : String :=
  let digits := Nat.toDigits 16 n
  String.ofList (List.replicate (width - digits.length) '0' ++ digits)

namespace Quoted

def escape (c : Char) : String :=
  match c with
  | '"' => "\\\""
  | '\\' => "\\\\"
  | '\n' => "\\n"
  | '\t' => "\\t"
  | '\r' => "\\r"
  | c =>
    if isPrintable c then c.toString
    else
      match c.toNat with
      | 0x07 => "\\a"
      | 0x08 => "\\b"
      | 0x0B => "\\v"
      | 0x0C => "\\f"
      | n =>
        if n < 0x80 then "\\x" ++ hex 2 n
        else if n < 0x10000 then "\\u" ++ hex 4 n
        else "\\U" ++ hex 8 n

end Quoted

/-- A text in double quotes. -/
def quoted (s : String) : String := "\"" ++ String.join (s.toList.map Quoted.escape) ++ "\""

end ControlDependence.Text
