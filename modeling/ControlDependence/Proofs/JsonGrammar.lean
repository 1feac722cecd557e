-- SUMMARY: The grammar of JSON with whole numbers, and that the reader reads whatever the grammar spells.
import Mathlib.Data.List.Basic
import ControlDependence.Json.Parse

/-!
# The grammar of JSON

`Written v s` says that `s` spells the value `v` by the rules of the format: blanks may stand
around values and punctuation, a character of a text may stand for itself unless it is a quote,
a backslash or a control, and any character may be given by its code. Numbers are whole. The
reader accepts all that is written so and finds the value that is meant; in particular a text
spells no more than one value.
-/
namespace ControlDependence.Json

def Blanks (cs : List Char) : Prop := ∀ c ∈ cs, isBlank c = true

theorem blanks_nil : Blanks [] := by simp [Blanks]

/-! ## Texts -/

/-- Letters that stand for a character after a backslash. -/
def shortEscapes : List (Char × Char) := [
  ('"', '"'),
  ('\\', '\\'),
  ('/', '/'),
  ('b', Char.ofNat 0x08),
  ('f', Char.ofNat 0x0C),
  ('n', Char.ofNat 0x0A),
  ('r', Char.ofNat 0x0D),
  ('t', Char.ofNat 0x09)]

/-- A hexadecimal digit and its value. -/
def HexDigit (c : Char) (n : Nat) : Prop :=
  "0123456789abcdef".toList[n]? = some c ∨ "0123456789ABCDEF".toList[n]? = some c

/-- Four hexadecimal digits and their value. -/
inductive HexCode : List Char → Nat → Prop where
  | digits {a b c d : Char} {i j k l : Nat} : HexDigit a i → HexDigit b j → HexDigit c k → HexDigit d l →
      HexCode [a, b, c, d] (((i * 16 + j) * 16 + k) * 16 + l)

/-- How characters may be written between quotes. -/
inductive Characters : List Char → List Char → Prop where
  | nil : Characters [] []
  | plain {c : Char} {s cs : List Char} : 0x20 ≤ c.toNat → c ≠ '"' → c ≠ '\\' → Characters s cs →
      Characters (c :: s) (c :: cs)
  | short {x c : Char} {s cs : List Char} : (x, c) ∈ shortEscapes → Characters s cs →
      Characters (c :: s) ('\\' :: x :: cs)
  | code {c : Char} {s hs cs : List Char} : HexCode hs c.toNat → Characters s cs →
      Characters (c :: s) ('\\' :: 'u' :: hs ++ cs)
  /-- A character beyond the first plane has two codes. -/
  | pair {c : Char} {s hs ls cs : List Char} {high low : Nat} : high < 0x400 → low < 0x400 →
      HexCode hs (0xD800 + high) → HexCode ls (0xDC00 + low) → c.toNat = 0x10000 + high * 0x400 + low →
      Characters s cs → Characters (c :: s) ('\\' :: 'u' :: hs ++ '\\' :: 'u' :: ls ++ cs)

/-! ## Values -/

/-- A number in decimal digits. -/
structure Natural (n : Nat) (cs : List Char) : Prop where
  ne_nil : cs ≠ []
  digits : ∀ c ∈ cs, c.isDigit = true
  /-- No further digits come after a zero in front. -/
  zero : cs.head? = some '0' → cs = ['0']
  value : Nat.ofDigitChars 10 cs 0 = n

/-- What a part of a text may spell. -/
inductive Form where
  | value (v : Value)
  /-- A value and blanks around it. -/
  | padded (v : Value)
  | items (vs : List Value)
  | field (f : String × Value)
  | fields (fs : List (String × Value))

/-- The rules of the format. -/
inductive Spells : Form → List Char → Prop where
  | null : Spells (.value .null) ['n', 'u', 'l', 'l']
  | yes : Spells (.value (.bool true)) ['t', 'r', 'u', 'e']
  | no : Spells (.value (.bool false)) ['f', 'a', 'l', 's', 'e']
  | natural {n : Nat} {cs : List Char} : Natural n cs → Spells (.value (.int n)) cs
  | negative {n : Nat} {cs : List Char} : Natural n cs → Spells (.value (.int (-n))) ('-' :: cs)
  | text {s cs : List Char} : Characters s cs → Spells (.value (.text (String.ofList s))) ('"' :: (cs ++ ['"']))
  | emptyList {b : List Char} : Blanks b → Spells (.value (.list [])) ('[' :: (b ++ [']']))
  | list {vs : List Value} {cs : List Char} : Spells (.items vs) cs →
      Spells (.value (.list vs)) ('[' :: (cs ++ [']']))
  | emptyObject {b : List Char} : Blanks b → Spells (.value (.object [])) ('\x7b' :: (b ++ ['\x7d']))
  | object {fs : List (String × Value)} {cs : List Char} : Spells (.fields fs) cs →
      Spells (.value (.object fs)) ('\x7b' :: (cs ++ ['\x7d']))
  | pad {v : Value} {b cs b' : List Char} : Blanks b → Spells (.value v) cs → Blanks b' →
      Spells (.padded v) (b ++ cs ++ b')
  | item {v : Value} {cs : List Char} : Spells (.padded v) cs → Spells (.items [v]) cs
  | items {v : Value} {vs : List Value} {cs ds : List Char} : Spells (.padded v) cs → Spells (.items vs) ds →
      Spells (.items (v :: vs)) (cs ++ ',' :: ds)
  | field {k : List Char} {v : Value} {b ks b' cs : List Char} : Blanks b → Characters k ks → Blanks b' →
      Spells (.padded v) cs → Spells (.field (String.ofList k, v)) (b ++ '"' :: ks ++ '"' :: b' ++ ':' :: cs)
  | lastField {f : String × Value} {cs : List Char} : Spells (.field f) cs → Spells (.fields [f]) cs
  | fields {f : String × Value} {fs : List (String × Value)} {cs ds : List Char} : Spells (.field f) cs →
      Spells (.fields fs) ds → Spells (.fields (f :: fs)) (cs ++ ',' :: ds)

/-- The text is the value, with blanks around it. -/
def Written (v : Value) (s : String) : Prop := Spells (.padded v) s.toList

/-! ## Reading texts -/

theorem hexDigit?_eq {c : Char} {n : Nat} (h : HexDigit c n) : hexDigit? c = some n := by
  have hlower : ∀ n : Fin 16, ("0123456789abcdef".toList[n.val]?).bind hexDigit? = some n.val := by decide
  have hupper : ∀ n : Fin 16, ("0123456789ABCDEF".toList[n.val]?).bind hexDigit? = some n.val := by decide
  rcases h with h | h
  · have hn : n < 16 := (List.getElem?_eq_some_iff.1 h).1
    rw [← hlower ⟨n, hn⟩, h, Option.bind_some]
  · have hn : n < 16 := (List.getElem?_eq_some_iff.1 h).1
    rw [← hupper ⟨n, hn⟩, h, Option.bind_some]

theorem HexCode.exists_hexFour? {hs : List Char} {n : Nat} (h : HexCode hs n) :
    ∃ a b c d, hs = [a, b, c, d] ∧ hexFour? a b c d = some n := by
  cases h with
  | digits ha hb hc hd =>
    refine ⟨_, _, _, _, rfl, ?_⟩
    simp [hexFour?, hexDigit?_eq ha, hexDigit?_eq hb, hexDigit?_eq hc, hexDigit?_eq hd]

theorem escaped?_eq {x c : Char} (h : (x, c) ∈ shortEscapes) : escaped? x = some c ∧ x ≠ 'u' := by
  have hall : ∀ p ∈ shortEscapes, escaped? p.1 = some p.2 ∧ p.1 ≠ 'u' := by decide
  exact hall (x, c) h

theorem exists_hexFour?_of_readText {a b c d : Char} {rest : List Char} {p : List Char × List Char}
    (h : readText ('\\' :: 'u' :: a :: b :: c :: d :: rest) = some p) : ∃ n, hexFour? a b c d = some n := by
  cases hn : hexFour? a b c d with
  | some n => exact ⟨n, rfl⟩
  | none =>
    by_cases hpair : ∃ a' b' c' d' r, rest = '\\' :: 'u' :: a' :: b' :: c' :: d' :: r
    · obtain ⟨a', b', c', d', r, rfl⟩ := hpair
      rw [readText, hn] at h
      cases h
    · rw [readText, hn] at h
      · cases h
      · exact fun a' b' c' d' r hr => hpair ⟨a', b', c', d', r, hr⟩

/-- A code that is not the first of a pair is read by itself. -/
theorem readText_code {a b c d : Char} {n : Nat} {s rest rest' : List Char} (h : hexFour? a b c d = some n)
    (hn : ¬ (0xD800 ≤ n ∧ n < 0xDC00)) (hrest : readText rest = some (s, rest')) :
    readText ('\\' :: 'u' :: a :: b :: c :: d :: rest) = some (Char.ofNat n :: s, rest') := by
  by_cases hpair : ∃ a' b' c' d' r, rest = '\\' :: 'u' :: a' :: b' :: c' :: d' :: r
  · obtain ⟨a', b', c', d', r, rfl⟩ := hpair
    obtain ⟨n', hn'⟩ := exists_hexFour?_of_readText hrest
    have hhigh : ¬ (decide (0xD800 ≤ n) && decide (n < 0xDC00) && decide (0xDC00 ≤ n') && decide (n' < 0xE000)) := by
      simp
      omega
    rw [readText, h, hn']
    dsimp only
    rw [if_neg hhigh, hrest]
    rfl
  · rw [readText, h]
    · dsimp only
      rw [hrest]
      rfl
    · exact fun a' b' c' d' r hr => hpair ⟨a', b', c', d', r, hr⟩

theorem not_isSurrogate (c : Char) : ¬ (0xD800 ≤ c.toNat ∧ c.toNat < 0xDC00) := by
  have hvalid : c.toNat < 0xD800 ∨ 0xDFFF < c.toNat ∧ c.toNat < 0x110000 := c.valid
  omega

theorem readText_characters {s cs : List Char} (h : Characters s cs) (rest : List Char) :
    readText (cs ++ '"' :: rest) = some (s, rest) := by
  induction h with
  | nil => rw [List.nil_append, readText]
  | @plain c s cs hc hquote hslash _ ih =>
    have hplain : ¬ (decide (c.toNat < 0x20) || c == '\\') := by simp [hslash, hc]
    rw [List.cons_append, readText, if_neg hplain, ih]
    · rfl
    · exact hquote
    all_goals
      intros
      contradiction
  | @short x c s cs hx _ ih =>
    obtain ⟨hescaped, hne⟩ := escaped?_eq hx
    rw [List.cons_append, List.cons_append, readText, hescaped]
    · dsimp only
      rw [ih]
      rfl
    all_goals
      intros
      contradiction
  | @code c s hs cs hh _ ih =>
    obtain ⟨a, b, d, e, rfl, hfour⟩ := hh.exists_hexFour?
    have hread := readText_code hfour (not_isSurrogate c) ih
    rwa [Char.ofNat_toNat] at hread
  | @pair c s hs ls cs high low hhigh hlow hh hl hc _ ih =>
    obtain ⟨a, b, d, e, rfl, hfour⟩ := hh.exists_hexFour?
    obtain ⟨a', b', d', e', rfl, hfour'⟩ := hl.exists_hexFour?
    have hpair : decide (0xD800 ≤ 0xD800 + high) && decide (0xD800 + high < 0xDC00)
        && decide (0xDC00 ≤ 0xDC00 + low) && decide (0xDC00 + low < 0xE000) := by
      simp
      omega
    have hcode : 0x10000 + (0xD800 + high - 0xD800) * 0x400 + (0xDC00 + low - 0xDC00) = c.toNat := by
      omega
    simp only [List.cons_append, List.nil_append]
    rw [readText, hfour, hfour']
    dsimp only
    rw [if_pos hpair, hcode, Char.ofNat_toNat, ih]
    rfl

/-! ## Reading values -/

section Blanks

variable {b : List Char} {c d : Char}

theorem skipBlanks_append (hb : Blanks b) (cs : List Char) : skipBlanks (b ++ cs) = skipBlanks cs :=
  List.dropWhile_append_of_pos hb

theorem skipBlanks_cons (hc : isBlank c = false) (cs : List Char) : skipBlanks (c :: cs) = c :: cs :=
  List.dropWhile_cons_of_neg (by simp [hc])

theorem expect?_self (hb : Blanks b) (hc : isBlank c = false) (cs : List Char) :
    expect? c (b ++ c :: cs) = some cs := by
  rw [expect?, skipBlanks_append hb, skipBlanks_cons hc]
  exact if_pos (beq_self_eq_true c)

theorem expect?_ne (hb : Blanks b) (hd : isBlank d = false) (hne : d ≠ c) (cs : List Char) :
    expect? c (b ++ d :: cs) = none := by
  rw [expect?, skipBlanks_append hb, skipBlanks_cons hd]
  exact if_neg (by simpa using hne.symm)

theorem readValue_blanks (hb : Blanks b) (fuel : Nat) (cs : List Char) :
    readValue fuel (b ++ cs) = readValue fuel cs := by
  cases fuel with
  | zero => rw [readValue, readValue]
  | succ fuel => rw [readValue, readValue, skipBlanks_append hb]

end Blanks

/-- What comes next does not go on with a number. -/
def EndsNumber (rest : List Char) : Prop := ∀ c ∈ rest.head?, c.isDigit = false

theorem isDigit_of_isBlank {c : Char} (h : isBlank c = true) : c.isDigit = false := by
  simp only [isBlank, Bool.or_eq_true, beq_iff_eq] at h
  rcases h with ((rfl | rfl) | rfl) | rfl <;> rfl

theorem EndsNumber.blanks {b rest : List Char} (hb : Blanks b) (h : EndsNumber rest) : EndsNumber (b ++ rest) := by
  cases b with
  | nil => exact h
  | cons c b =>
    intro d hd
    cases hd
    exact isDigit_of_isBlank (hb c (List.mem_cons_self ..))

theorem digitsToNat_eq (cs : List Char) : digitsToNat cs = Nat.ofDigitChars 10 cs 0 := by
  rw [digitsToNat, Nat.ofDigitChars_eq_foldl]
  congr 1
  funext n c
  rw [Nat.mul_comm]

theorem readNat_natural {n : Nat} {cs rest : List Char} (h : Natural n cs) (hrest : EndsNumber rest) :
    readNat (cs ++ rest) = some (n, rest) := by
  have htake : (cs ++ rest).takeWhile Char.isDigit = cs := by
    rw [List.takeWhile_append_of_pos h.digits]
    cases rest with
    | nil => simp
    | cons c rest => simp [hrest c rfl]
  have hvalue : digitsToNat cs = n := by rw [digitsToNat_eq, h.value]
  unfold readNat
  rw [htake]
  dsimp only
  split
  · exact absurd rfl h.ne_nil
  · exact absurd (h.zero rfl) (by simp)
  · rw [hvalue, List.drop_left]

theorem Natural.exists_cons {n : Nat} {cs : List Char} (h : Natural n cs) :
    ∃ c tl, cs = c :: tl ∧ c.isDigit = true := by
  obtain ⟨c, tl, rfl⟩ := List.exists_cons_of_ne_nil h.ne_nil
  exact ⟨c, tl, rfl, h.digits c (List.mem_cons_self ..)⟩

theorem ne_of_isDigit {c d : Char} (h : c.isDigit = true) (hd : d.isDigit = false) : c ≠ d := by
  rintro rfl
  simp [hd] at h

theorem isBlank_of_isDigit {c : Char} (h : c.isDigit = true) : isBlank c = false := by
  cases hb : isBlank c with
  | false => rfl
  | true => simp [isDigit_of_isBlank hb] at h

/-- A value does not start with a blank or with the end of a list. -/
theorem Spells.exists_cons {v : Value} {cs : List Char} (h : Spells (.value v) cs) :
    ∃ c tl, cs = c :: tl ∧ isBlank c = false ∧ c ≠ ']' := by
  cases h with
  | natural hn =>
    obtain ⟨c, tl, rfl, hc⟩ := hn.exists_cons
    exact ⟨c, tl, rfl, isBlank_of_isDigit hc, ne_of_isDigit hc rfl⟩
  | null | yes | no | negative | text | emptyList | list | emptyObject | object =>
    exact ⟨_, _, rfl, rfl, by decide⟩

theorem Spells.expect?_padded {v : Value} {cs : List Char} (h : Spells (.padded v) cs) (rest : List Char) :
    expect? ']' (cs ++ rest) = none := by
  cases h with
  | @pad _ b _ b' hb hv _ =>
    obtain ⟨c, tl, rfl, hc, hne⟩ := hv.exists_cons
    simpa using expect?_ne hb hc hne (tl ++ b' ++ rest)

theorem Spells.expect?_items {vs : List Value} {cs : List Char} (h : Spells (.items vs) cs) (rest : List Char) :
    expect? ']' (cs ++ rest) = none := by
  cases h with
  | item hp => exact hp.expect?_padded rest
  | items hp _ =>
    rw [List.append_assoc]
    exact hp.expect?_padded _

theorem Spells.expect?_field {f : String × Value} {cs : List Char} (h : Spells (.field f) cs) (rest : List Char) :
    expect? '\x7d' (cs ++ rest) = none := by
  cases h with
  | @field _ _ b ks b' cs hb _ _ _ =>
    simpa using expect?_ne (c := '\x7d') hb (d := '"') rfl (by decide) (ks ++ '"' :: b' ++ ':' :: cs ++ rest)

theorem Spells.expect?_fields {fs : List (String × Value)} {cs : List Char} (h : Spells (.fields fs) cs)
    (rest : List Char) : expect? '\x7d' (cs ++ rest) = none := by
  cases h with
  | lastField hf => exact hf.expect?_field rest
  | fields hf _ =>
    rw [List.append_assoc]
    exact hf.expect?_field _

theorem readValue_number {c : Char} (hc : c = '-' ∨ c.isDigit = true) (fuel : Nat) (cs : List Char) :
    readValue (fuel + 1) (c :: cs) = (readInt (c :: cs)).map fun p => (.int p.1, p.2) := by
  have hblank : isBlank c = false := by
    rcases hc with rfl | hc
    · rfl
    · exact isBlank_of_isDigit hc
  have hhead : ∀ d r, d.isDigit = false → d ≠ '-' → c :: cs ≠ d :: r := by
    rintro d r hd hne heq
    obtain ⟨rfl, -⟩ := List.cons.inj heq
    rcases hc with hc | hc
    · exact hne hc
    · exact ne_of_isDigit hc hd rfl
  rw [readValue, skipBlanks_cons hblank]
  split
  case h_7 => rfl
  all_goals
    rename_i heq
    exact absurd heq (hhead _ _ rfl (by decide))

/-! ## One step of the reader -/

section Steps

variable {fuel : Nat} {v : Value} {vs : List Value} {k : List Char} {fs : List (String × Value)}
  {b cs ds rest : List Char}

theorem readValue_text (hk : Characters k cs) :
    readValue (fuel + 1) ('"' :: (cs ++ '"' :: rest)) = some (.text (String.ofList k), rest) := by
  rw [readValue, skipBlanks_cons rfl]
  simp [readText_characters hk rest]

theorem readValue_emptyList (hb : Blanks b) :
    readValue (fuel + 1) ('[' :: (b ++ ']' :: rest)) = some (.list [], rest) := by
  rw [readValue, skipBlanks_cons rfl]
  simp [expect?_self (c := ']') hb rfl rest]

theorem readValue_list (hne : expect? ']' cs = none) (h : readItems fuel cs = some (vs, rest)) :
    readValue (fuel + 1) ('[' :: cs) = some (.list vs, rest) := by
  rw [readValue, skipBlanks_cons rfl]
  simp [hne, h]

theorem readValue_emptyObject (hb : Blanks b) :
    readValue (fuel + 1) ('\x7b' :: (b ++ '\x7d' :: rest)) = some (.object [], rest) := by
  rw [readValue, skipBlanks_cons rfl]
  simp [expect?_self (c := '\x7d') hb rfl rest]

theorem readValue_object (hne : expect? '\x7d' cs = none) (h : readFields fuel cs = some (fs, rest)) :
    readValue (fuel + 1) ('\x7b' :: cs) = some (.object fs, rest) := by
  rw [readValue, skipBlanks_cons rfl]
  simp [hne, h]

theorem readItems_last (hb : Blanks b) (h : readValue fuel cs = some (v, b ++ ']' :: rest)) :
    readItems (fuel + 1) cs = some ([v], rest) := by
  rw [readItems, h]
  simp [expect?_ne (c := ',') hb (d := ']') rfl (by decide), expect?_self (c := ']') hb rfl]

theorem readItems_more (hb : Blanks b) (h : readValue fuel cs = some (v, b ++ ',' :: ds))
    (hds : readItems fuel ds = some (vs, rest)) : readItems (fuel + 1) cs = some (v :: vs, rest) := by
  rw [readItems, h]
  simp [expect?_self (c := ',') hb rfl, hds]

section Fields

variable (hk : (expect? '"' cs).bind readText = some (k, ds))

include hk

theorem readFields_last (hb : Blanks b) (h : (expect? ':' ds).bind (readValue fuel) = some (v, b ++ '\x7d' :: rest)) :
    readFields (fuel + 1) cs = some ([(String.ofList k, v)], rest) := by
  rw [readFields, hk]
  simp [h, expect?_ne (c := ',') hb (d := '\x7d') rfl (by decide), expect?_self (c := '\x7d') hb rfl]

theorem readFields_more {es : List Char} (hb : Blanks b)
    (h : (expect? ':' ds).bind (readValue fuel) = some (v, b ++ ',' :: es))
    (hes : readFields fuel es = some (fs, rest)) :
    readFields (fuel + 1) cs = some ((String.ofList k, v) :: fs, rest) := by
  rw [readFields, hk]
  simp [h, expect?_self (c := ',') hb rfl, hes]

end Fields

end Steps

/-- What the reader makes of a part of a text, with fuel in proportion to its length. -/
def Form.Reads : Form → List Char → Prop
  | .value v, cs => ∀ fuel rest, 2 * cs.length ≤ fuel → EndsNumber rest →
      readValue fuel (cs ++ rest) = some (v, rest)
  | .padded v, cs => ∀ fuel rest, 2 * cs.length ≤ fuel → EndsNumber rest →
      ∃ b, Blanks b ∧ readValue fuel (cs ++ rest) = some (v, b ++ rest)
  | .items vs, cs => ∀ fuel rest, 2 * cs.length ≤ fuel →
      readItems (fuel + 1) (cs ++ ']' :: rest) = some (vs, rest)
  | .field (k, v), cs => ∀ fuel rest, 2 * cs.length ≤ fuel → EndsNumber rest →
      ∃ ks r b, (expect? '"' (cs ++ rest)).bind readText = some (ks, r) ∧ String.ofList ks = k ∧
        Blanks b ∧ (expect? ':' r).bind (readValue fuel) = some (v, b ++ rest)
  | .fields fs, cs => ∀ fuel rest, 2 * cs.length ≤ fuel →
      readFields (fuel + 1) (cs ++ '\x7d' :: rest) = some (fs, rest)

/-- A value that is spelled by at least one character leaves fuel for a step. -/
theorem Form.reads_value {v : Value} {c : Char} {cs : List Char}
    (h : ∀ fuel rest, 2 * cs.length ≤ fuel → EndsNumber rest →
      readValue (fuel + 1) (c :: (cs ++ rest)) = some (v, rest)) : (Form.value v).Reads (c :: cs) := by
  intro fuel rest hfuel hrest
  rw [List.length_cons] at hfuel
  obtain ⟨fuel, rfl⟩ : ∃ m, fuel = m + 1 := ⟨fuel - 1, by omega⟩
  exact h fuel rest (by omega) hrest

/-- The reader follows the rules of the format. -/
theorem Spells.reads {f : Form} {cs : List Char} (h : Spells f cs) : f.Reads cs := by
  induction h with
  | null | yes | no =>
    refine Form.reads_value fun fuel rest _ _ => ?_
    rw [readValue, skipBlanks_cons rfl]
    rfl
  | natural hn =>
    obtain ⟨c, tl, rfl, hc⟩ := hn.exists_cons
    refine Form.reads_value fun fuel rest _ hrest => ?_
    rw [readValue_number (.inr hc), readInt, ← List.cons_append, readNat_natural hn hrest]
    · rfl
    · intro r heq
      exact ne_of_isDigit hc rfl (List.cons.inj heq).1
  | negative hn =>
    refine Form.reads_value fun fuel rest _ hrest => ?_
    rw [readValue_number (.inl rfl), readInt, readNat_natural hn hrest]
    rfl
  | text hs =>
    refine Form.reads_value fun fuel rest _ _ => ?_
    rw [List.append_assoc]
    exact readValue_text hs
  | emptyList hb =>
    refine Form.reads_value fun fuel rest _ _ => ?_
    rw [List.append_assoc]
    exact readValue_emptyList hb
  | emptyObject hb =>
    refine Form.reads_value fun fuel rest _ _ => ?_
    rw [List.append_assoc]
    exact readValue_emptyObject hb
  | list hvs ih =>
    refine Form.reads_value fun fuel rest hfuel _ => ?_
    rw [List.length_append, List.length_singleton] at hfuel
    obtain ⟨fuel, rfl⟩ : ∃ m, fuel = m + 1 := ⟨fuel - 1, by omega⟩
    rw [List.append_assoc]
    exact readValue_list (hvs.expect?_items _) (ih fuel rest (by omega))
  | object hfs ih =>
    refine Form.reads_value fun fuel rest hfuel _ => ?_
    rw [List.length_append, List.length_singleton] at hfuel
    obtain ⟨fuel, rfl⟩ : ∃ m, fuel = m + 1 := ⟨fuel - 1, by omega⟩
    rw [List.append_assoc]
    exact readValue_object (hfs.expect?_fields _) (ih fuel rest (by omega))
  | @pad v b cs b' hb _ hb' ih =>
    intro fuel rest hfuel hrest
    simp only [List.length_append] at hfuel
    refine ⟨b', hb', ?_⟩
    rw [List.append_assoc, List.append_assoc, readValue_blanks hb]
    exact ih fuel (b' ++ rest) (by omega) (hrest.blanks hb')
  | item _ ih =>
    intro fuel rest hfuel
    obtain ⟨b, hb, hread⟩ := ih fuel (']' :: rest) hfuel (by simp [EndsNumber])
    exact readItems_last hb hread
  | @items v vs cs ds _ _ ih₁ ih₂ =>
    intro fuel rest hfuel
    simp only [List.length_append, List.length_cons] at hfuel
    obtain ⟨fuel, rfl⟩ : ∃ m, fuel = m + 1 := ⟨fuel - 1, by omega⟩
    obtain ⟨b, hb, hread⟩ := ih₁ (fuel + 1) (',' :: (ds ++ ']' :: rest)) (by omega) (by simp [EndsNumber])
    rw [List.append_assoc]
    exact readItems_more hb hread (ih₂ fuel rest (by omega))
  | @field k v b ks b' cs hb hk hb' _ ih =>
    intro fuel rest hfuel hrest
    simp only [List.length_append, List.length_cons] at hfuel
    obtain ⟨b'', hb'', hread⟩ := ih fuel rest (by omega) hrest
    refine ⟨k, b' ++ ':' :: (cs ++ rest), b'', ?_, rfl, hb'', ?_⟩
    · simp [expect?_self (c := '"') hb rfl, readText_characters hk]
    · simp [expect?_self (c := ':') hb' rfl, hread]
  | @lastField f cs _ ih =>
    obtain ⟨k, v⟩ := f
    intro fuel rest hfuel
    obtain ⟨ks, r, b, hkey, rfl, hb, hvalue⟩ := ih fuel ('\x7d' :: rest) hfuel (by simp [EndsNumber])
    exact readFields_last hkey hb hvalue
  | @fields f fs cs ds _ _ ih₁ ih₂ =>
    obtain ⟨k, v⟩ := f
    intro fuel rest hfuel
    simp only [List.length_append, List.length_cons] at hfuel
    obtain ⟨fuel, rfl⟩ : ∃ m, fuel = m + 1 := ⟨fuel - 1, by omega⟩
    obtain ⟨ks, r, b, hkey, rfl, hb, hvalue⟩ :=
      ih₁ (fuel + 1) (',' :: (ds ++ '\x7d' :: rest)) (by omega) (by simp [EndsNumber])
    rw [List.append_assoc]
    exact readFields_more hkey hb hvalue (ih₂ fuel rest (by omega))

/-- The reader finds the value that is written. -/
theorem Written.parse?_eq {v : Value} {s : String} (h : Written v s) : Value.parse? s = some v := by
  obtain ⟨b, hb, hread⟩ := Spells.reads h (2 * s.toList.length + 1) [] (by omega) (by simp [EndsNumber])
  rw [List.append_nil, List.append_nil] at hread
  have hend : skipBlanks b = [] := by
    simpa [skipBlanks] using skipBlanks_append hb []
  unfold Value.parse?
  simp [hread, hend]

theorem Written.unique {v w : Value} {s : String} (hv : Written v s) (hw : Written w s) : v = w :=
  Option.some.inj (hv.parse?_eq.symm.trans hw.parse?_eq)

end ControlDependence.Json
