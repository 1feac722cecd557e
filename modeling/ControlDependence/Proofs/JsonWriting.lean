-- SUMMARY: What the JSON writer writes is spelled by the rules of the format.
import ControlDependence.Proofs.JsonGrammar

/-!
# Writing JSON

However deep a value stands, the writer's text for it follows the grammar. The characters that a
writer gives by their code have to be of the first plane, since it writes four digits.
-/
namespace ControlDependence.Json

/-! ## Codes -/

theorem hexDigit_digitChar {n : Nat} (h : n < 16) : HexDigit n.digitChar n := by
  have hall : ∀ n : Fin 16, "0123456789abcdef".toList[n.val]? = some n.val.digitChar := by decide
  exact .inl (hall ⟨n, h⟩)

theorem toList_hex_one {n : Nat} (h : n < 16) : (Text.hex 1 n).toList = [n.digitChar] := by
  simp [Text.hex, Nat.toDigits_of_lt_base h]

theorem toList_hex_succ (width n : Nat) :
    (Text.hex (width + 2) n).toList = (Text.hex (width + 1) (n / 16)).toList ++ [(n % 16).digitChar] := by
  rcases Nat.lt_or_ge n 16 with h | h
  · have hzero : n / 16 = 0 := by omega
    have hmod : n % 16 = n := by omega
    simp [Text.hex, Nat.toDigits_of_lt_base h, hzero, hmod, List.replicate_succ']
  · have hlast := Nat.toDigits_of_base_le (b := 16) (by decide) h
    simp [Text.hex, hlast, Nat.succ_sub_succ_eq_sub]

theorem hexCode_hex {n : Nat} (h : n < 0x10000) : HexCode (Text.hex 4 n).toList n := by
  have hdigits : (Text.hex 4 n).toList =
      [(n / 16 / 16 / 16).digitChar, (n / 16 / 16 % 16).digitChar, (n / 16 % 16).digitChar, (n % 16).digitChar] := by
    rw [toList_hex_succ 2, toList_hex_succ 1, toList_hex_succ 0, toList_hex_one (by omega)]
    rfl
  have hvalue : ((n / 16 / 16 / 16 * 16 + n / 16 / 16 % 16) * 16 + n / 16 % 16) * 16 + n % 16 = n := by omega
  have hcode := HexCode.digits (hexDigit_digitChar (n := n / 16 / 16 / 16) (by omega))
    (hexDigit_digitChar (n := n / 16 / 16 % 16) (by omega)) (hexDigit_digitChar (n := n / 16 % 16) (by omega))
    (hexDigit_digitChar (n := n % 16) (by omega))
  rwa [hvalue, ← hdigits] at hcode

/-! ## Numbers -/

theorem toDigits_head {n : Nat} (h : (Nat.toDigits 10 n).head? = some '0') : n = 0 := by
  induction n using Nat.strongRecOn with
  | ind n ih =>
    rcases Nat.lt_or_ge n 10 with hn | hn
    · have hall : ∀ n : Fin 10, n.val.digitChar = '0' → n.val = 0 := by decide
      rw [Nat.toDigits_of_lt_base hn, List.head?_cons, Option.some.injEq] at h
      exact hall ⟨n, hn⟩ h
    · -- The first digit is that of the number without its last digit, which is not zero.
      rw [Nat.toDigits_of_base_le (by decide) hn, List.head?_append_of_ne_nil _ Nat.toDigits_ne_nil] at h
      have hzero := ih (n / 10) (by omega) h
      omega

theorem natural_toDigits (n : Nat) : Natural n (Nat.toDigits 10 n) where
  ne_nil := Nat.toDigits_ne_nil
  digits _ hc := Nat.isDigit_of_mem_toDigits (by decide) (by decide) hc
  zero h := by rw [toDigits_head h]; rfl
  value := Nat.ofDigitChars_ten_toDigits

theorem spells_int (n : Int) : Spells (.value (.int n)) (toString n).toList := by
  rw [Int.toString_eq_repr]
  cases n with
  | ofNat n =>
    have hrepr : (Int.repr n).toList = Nat.toDigits 10 n := by simp [Int.repr, Nat.repr]
    rw [Int.ofNat_eq_natCast, hrepr]
    exact .natural (natural_toDigits n)
  | negSucc n =>
    have hrepr : (Int.repr (.negSucc n)).toList = '-' :: Nat.toDigits 10 (n + 1) := by
      simp [Int.repr, Nat.repr]
    rw [hrepr]
    exact .negative (natural_toDigits (n + 1))

/-! ## Texts -/

theorem blanks_newline (depth : Nat) : Blanks (newline depth).toList := by
  simp +contextual [Blanks, newline, isBlank]

/-- What is written by its code has a code of four digits. -/
def Escapes.FirstPlane (e : Escapes) : Prop := ∀ c ∈ e.extra, c.toNat < 0x10000

section Writer

variable {e : Escapes} (he : e.FirstPlane)

include he

theorem Characters.escape {s cs : List Char} (h : Characters s cs) (c : Char) :
    Characters (c :: s) ((Json.escape e c).toList ++ cs) := by
  unfold Json.escape
  split
  · exact .short (by decide) h
  · exact .short (by decide) h
  · exact .short (by decide) h
  · exact .short (by decide) h
  · exact .short (by decide) h
  · rename_i hquote hbackslash _ _ _
    split
    · rename_i hc
      rw [← Char.ofNat_toNat c, hc]
      exact .short (by decide) h
    · rename_i hc
      rw [← Char.ofNat_toNat c, hc]
      exact .short (by decide) h
    · split
      -- A control, or one of the writer's own characters: four digits are enough for either.
      · rename_i hcode
        have hc : c.toNat < 0x10000 := by
          rcases Bool.or_eq_true_iff.1 hcode with hlow | hextra
          · have hlt := of_decide_eq_true hlow
            omega
          · exact he c (List.contains_iff_mem.1 hextra)
        simpa using Characters.code (hexCode_hex hc) h
      · rename_i hcode
        have hhigh : 0x20 ≤ c.toNat := by
          simp at hcode
          exact hcode.1
        rw [Char.toString_eq_singleton, String.toList_singleton]
        exact .plain hhigh hquote hbackslash h

theorem characters_escapes (s : List Char) : Characters s (s.flatMap fun c => (Json.escape e c).toList) := by
  induction s with
  | nil => exact .nil
  | cons c s ih => exact ih.escape he c

theorem exists_toList_quoted (s : String) :
    ∃ cs, Characters s.toList cs ∧ (quoted e s).toList = '"' :: (cs ++ ['"']) := by
  refine ⟨_, characters_escapes he s.toList, ?_⟩
  simp [quoted, String.toList_join, List.flatMap_map]

theorem spells_quoted (s : String) : Spells (.value (.text s)) (quoted e s).toList := by
  obtain ⟨cs, hcs, hquoted⟩ := exists_toList_quoted he s
  rw [hquoted]
  simpa using Spells.text hcs

theorem spells_field {k : String} {v : Value} {b cs b' : List Char} (hb : Blanks b)
    (hv : Spells (.value v) cs) (hb' : Blanks b') :
    Spells (.field (k, v)) (b ++ (quoted e k).toList ++ ':' :: ' ' :: cs ++ b') := by
  obtain ⟨ks, hks, hquoted⟩ := exists_toList_quoted he k
  have hspace : Blanks [' '] := by simp [Blanks, isBlank]
  rw [hquoted]
  simpa using Spells.field hb hks blanks_nil (.pad hspace hv hb')

end Writer

/-! ## Values -/

section Values

variable {e : Escapes}

mutual

theorem Value.spells_pretty (he : e.FirstPlane) (depth : Nat) :
    ∀ v : Value, Spells (.value v) (v.pretty e depth).toList
  | .null => by
    rw [Value.pretty]
    exact .null
  | .bool true => by
    rw [Value.pretty]
    exact .yes
  | .bool false => by
    rw [Value.pretty]
    exact .no
  | .int n => by
    rw [Value.pretty]
    exact spells_int n
  | .text s => by
    rw [Value.pretty]
    exact spells_quoted he s
  | .list [] => by
    rw [Value.pretty]
    exact .emptyList (b := []) blanks_nil
  | .list (v :: vs) => by
    have hitems := spells_prettyItems he (depth + 1) vs (blanks_newline (depth + 1))
      (v.spells_pretty he (depth + 1)) (blanks_newline depth)
    simpa [Value.pretty] using Spells.list hitems
  | .object [] => by
    rw [Value.pretty]
    exact .emptyObject (b := []) blanks_nil
  | .object ((k, v) :: fs) => by
    have hfields := spells_prettyFields he (depth + 1) fs (k := k) (blanks_newline (depth + 1))
      (v.spells_pretty he (depth + 1)) (blanks_newline depth)
    simpa [Value.pretty] using Spells.object hfields

/-- The members of a list from any one on. -/
theorem Value.spells_prettyItems (he : e.FirstPlane) (depth : Nat) {v : Value} {b cs b' : List Char} :
    ∀ vs : List Value, Blanks b → Spells (.value v) cs → Blanks b' →
      Spells (.items (v :: vs)) (b ++ cs ++ (prettyItems e depth vs).toList ++ b')
  | [], hb, hv, hb' => by
    simpa [prettyItems] using Spells.item (.pad hb hv hb')
  | w :: vs, hb, hv, hb' => by
    have hrest := spells_prettyItems he depth vs (blanks_newline depth) (w.spells_pretty he depth) hb'
    simpa [prettyItems] using Spells.items (.pad hb hv blanks_nil) hrest

/-- The fields of an object from any one on. -/
theorem Value.spells_prettyFields (he : e.FirstPlane) (depth : Nat) {k : String} {v : Value} {b cs b' : List Char} :
    ∀ fs : List (String × Value), Blanks b → Spells (.value v) cs → Blanks b' →
      Spells (.fields ((k, v) :: fs))
        (b ++ (quoted e k).toList ++ ':' :: ' ' :: cs ++ (prettyFields e depth fs).toList ++ b')
  | [], hb, hv, hb' => by
    simpa [prettyFields] using Spells.lastField (spells_field he hb hv hb')
  | (l, w) :: fs, hb, hv, hb' => by
    have hrest := spells_prettyFields he depth (k := l) fs (blanks_newline depth) (w.spells_pretty he depth) hb'
    simpa [prettyFields] using Spells.fields (spells_field he hb hv blanks_nil) hrest

end

/-- A value stands in the text that is written for it, whatever blanks come after. -/
theorem Value.written_pretty (he : e.FirstPlane) (v : Value) (depth : Nat) {s : String} (hs : Blanks s.toList) :
    Written v (v.pretty e depth ++ s) := by
  simpa [Written] using Spells.pad blanks_nil (v.spells_pretty he depth) hs

end Values

end ControlDependence.Json
