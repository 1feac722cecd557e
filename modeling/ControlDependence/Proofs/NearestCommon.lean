-- SUMMARY: Where entries go up in rank, chains meet at the first instruction they share, in any order of meeting.
import ControlDependence.Proofs.EarlyStop

/-!
# Nearest common entries

If every entry is of higher rank than its instruction, following entries leads to the exit,
and all that a chain passes through is a landmark of it. Of two fingers the lower one is then
never ahead of the place where the chains come together, so the walk along two chains ends at
the first instruction that both have, or else at the exit. Ranks need not tell instructions
apart for this. As an operation the walk takes the common part of two chains, which makes it
commutative, associative and idempotent; so it does not matter in which order the successors
of an instruction are met.
-/
namespace ControlDependence.Table

variable {o : Numbering} {t : Table} {a b e e' : PostDominator}

/-! ## Tables that lead up -/

/-- Where a chain can be followed from: the exit, or a ranked instruction that is resolved. -/
def Foothold (o : Numbering) (t : Table) : PostDominator → Prop
  | .unset => False
  | .exit => True
  | .instruction v => o.isRanked v = true ∧ (t.entry v).isResolved = true

/-- The entry of each ranked and resolved instruction is the exit or another of them, which
ranks higher. -/
def Uphill (o : Numbering) (t : Table) : Prop :=
  ∀ v : Int, Foothold o t (.instruction v) → Foothold o t (t.entry v) ∧ Below o v (t.entry v)

theorem exists_position_of_isResolved {v : Int} (h : (t.entry v).isResolved = true) :
    ∃ u : Nat, v = u ∧ u < t.size := by
  have hpos : 0 ≤ v := by
    by_contra hneg
    simp [entry, Int.not_le.1 hneg, PostDominator.isResolved] at h
  obtain ⟨u, rfl⟩ := Int.eq_ofNat_of_zero_le hpos
  refine ⟨u, rfl, ?_⟩
  by_contra hge
  simp [entry_natCast, Nat.not_lt.1 hge, PostDominator.isResolved] at h

/-- It is enough to look at the positions of the table. -/
theorem uphill_iff_forall_lt : Uphill o t ↔ ∀ u < t.size, Foothold o t (.instruction u) →
    Foothold o t (t.entry u) ∧ Below o u (t.entry u) := by
  constructor
  · intro h u _ hu
    exact h u hu
  · intro h v hv
    obtain ⟨u, rfl, hu⟩ := exists_position_of_isResolved hv.2
    exact h u hu hv

instance : DecidablePred (Foothold o t)
  | .unset => inferInstanceAs (Decidable False)
  | .exit => inferInstanceAs (Decidable True)
  | .instruction v => inferInstanceAs (Decidable (o.isRanked v = true ∧ (t.entry v).isResolved = true))

instance (v : Int) : DecidablePred (Below o v)
  | .unset => inferInstanceAs (Decidable False)
  | .exit => inferInstanceAs (Decidable True)
  | .instruction w => inferInstanceAs (Decidable (o.rank v < o.rank w))

instance : Decidable (Uphill o t) := decidable_of_iff' _ uphill_iff_forall_lt

/-- The positions of a table that rank at least as high as an index. -/
def noLower (o : Numbering) (t : Table) (v : Int) : Finset Nat :=
  (Finset.range t.size).filter fun u => o.rank v ≤ o.rank u

theorem noLower_ssubset {u : Nat} {w : Int} (hu : u < t.size) (hlt : o.rank u < o.rank w) :
    noLower o t w ⊂ noLower o t u := by
  refine ⟨fun x hx => ?_, fun hsub => ?_⟩
  · simp only [noLower, Finset.mem_filter] at hx ⊢
    exact ⟨hx.1, by omega⟩
  · have hmem : u ∈ noLower o t u := by simp [noLower, hu]
    have hle : o.rank w ≤ o.rank u := (Finset.mem_filter.1 (hsub hmem)).2
    omega

/-- A chain passes through its landmarks. -/
theorem Climb.exists_iterate (h : Climb o t e a) : ∃ k, t.after^[k] a = e := by
  induction h with
  | here => exact ⟨0, rfl⟩
  | up _ _ ih =>
    obtain ⟨k, hk⟩ := ih
    exact ⟨k + 1, hk⟩

namespace Uphill

theorem tieFree (h : Uphill o t) : TieFree o t := by
  intro i j hi hij hc
  have hres : (t.entry j).isResolved = true := by
    by_contra hn
    rw [eq_unset_of_not_isResolved hn] at hc
    cases hc
  have hlt : Below o j (.instruction i) := (h j ⟨by rwa [Numbering.isRanked, ← hij], hres⟩).2.of_climb hc
  exact absurd hij (Nat.ne_of_gt hlt)

/-- A chain comes through no position twice, since it goes up all the way. -/
theorem ascent (h : Uphill o t) {v : Int} (hv : Foothold o t (.instruction v)) :
    ∃ n ≤ (noLower o t v).card, Ascent o t (.instruction v) n := by
  -- By induction on the number of positions that a chain from here can still come to.
  induction hk : (noLower o t v).card using Nat.strongRecOn generalizing v with
  | ind k ih =>
    obtain ⟨u, rfl, hu⟩ := exists_position_of_isResolved hv.2
    obtain ⟨hfoot, hbelow⟩ := h u hv
    cases he : t.entry u with
    | unset =>
      rw [he] at hfoot
      exact hfoot.elim
    | exit =>
      have hmem : u ∈ noLower o t u := by simp [noLower, hu]
      have hpos := Finset.card_pos.2 ⟨u, hmem⟩
      exact ⟨1, hk ▸ hpos, .up hv.1 (he ▸ .exit)⟩
    | instruction w =>
      rw [he] at hfoot hbelow
      have hlt := Finset.card_lt_card (noLower_ssubset hu hbelow)
      obtain ⟨n, hn, hasc⟩ := ih _ (hk ▸ hlt) hfoot rfl
      exact ⟨n + 1, by omega, .up hv.1 (he ▸ hasc)⟩

theorem ascends (h : Uphill o t) (ha : Foothold o t a) : Ascends o t a := by
  cases a with
  | unset => exact ha.elim
  | exit => exact ⟨0, Nat.zero_le _, .exit⟩
  | instruction v =>
    obtain ⟨n, hn, hasc⟩ := h.ascent ha
    refine ⟨n, hn.trans ?_, hasc⟩
    simpa [noLower] using Finset.card_filter_le (Finset.range t.size) _

/-! ## Chains

All that a chain passes through is a landmark of it. -/

theorem foothold_iterate (h : Uphill o t) (ha : Foothold o t a) (k : Nat) : Foothold o t (t.after^[k] a) := by
  induction k generalizing a with
  | zero => exact ha
  | succ k ih =>
    refine ih ?_
    cases a with
    | unset => exact ha
    | exit => exact ha
    | instruction v => exact (h v ha).1

theorem climb_iterate (h : Uphill o t) (ha : Foothold o t a) (k : Nat) : Climb o t (t.after^[k] a) a := by
  induction k generalizing a with
  | zero => exact .here
  | succ k ih =>
    cases a with
    | unset => exact ha.elim
    | exit => exact ih ha
    | instruction v =>
      obtain ⟨hfoot, hbelow⟩ := h v ha
      exact .up (hbelow.of_climb (ih hfoot)) (ih hfoot)

/-- What comes before an entry on a chain does not come after it as well. -/
theorem not_climb_of_lt (h : Uphill o t) (ha : Foothold o t a) {j k : Nat} (hk : t.after^[k] a = e) (hjk : j < k)
    (hne : t.after^[j] a ≠ e) : ¬ Climb o t (t.after^[j] a) e := by
  intro hc
  have hrest : t.after^[k - j] (t.after^[j] a) = e := by
    rw [← Function.iterate_add_apply, Nat.sub_add_cancel hjk.le, hk]
  have hup : Climb o t e (t.after^[j] a) := hrest ▸ h.climb_iterate (h.foothold_iterate ha j) (k - j)
  exact hne (hc.antisymm hup)

end Uphill

/-- The first instruction that two chains have in common, or the exit if there is none. -/
inductive FirstCommon (t : Table) (a b : PostDominator) : PostDominator → Prop where
  | instruction {v : Int} {k l : Nat} : t.after^[k] a = .instruction v → t.after^[l] b = .instruction v →
      (∀ k' l', k' < k ∨ l' < l → t.after^[k'] a ≠ t.after^[l'] b) → FirstCommon t a b (.instruction v)
  | exit : (∀ k l v, t.after^[k] a = .instruction v → t.after^[l] b ≠ .instruction v) → FirstCommon t a b .exit

theorem FirstCommon.unique (h : FirstCommon t a b e) (h' : FirstCommon t a b e') : e = e' := by
  cases h with
  | @instruction v k l hk hl hfirst =>
    cases h' with
    | @instruction w k' l' hk' hl' hfirst' =>
      have hle : k ≤ k' := by
        by_contra hlt
        exact hfirst k' l' (.inl (Nat.not_le.1 hlt)) (hk'.trans hl'.symm)
      have hge : k' ≤ k := by
        by_contra hlt
        exact hfirst' k l (.inl (Nat.not_le.1 hlt)) (hk.trans hl.symm)
      obtain rfl := Nat.le_antisymm hle hge
      exact hk.symm.trans hk'
    | exit hnone => exact absurd hl (hnone k l v hk)
  | exit hnone =>
    cases h' with
    | @instruction w k l hk hl _ => exact absurd hl (hnone k l w hk)
    | exit => rfl

namespace Uphill

/-- The entry that has the landmarks of both chains is the first that both pass through. -/
theorem firstCommon (h : Uphill o t) (ha : Foothold o t a) (hb : Foothold o t b)
    (he : ∀ z, Climb o t z e ↔ Climb o t z a ∧ Climb o t z b) : FirstCommon t a b e := by
  have hea := ((he e).1 .here).1.exists_iterate
  have heb := ((he e).1 .here).2.exists_iterate
  have hcommon : ∀ k l, t.after^[k] a = t.after^[l] b → Climb o t (t.after^[k] a) e := by
    intro k l hkl
    exact (he _).2 ⟨h.climb_iterate ha k, hkl ▸ h.climb_iterate hb l⟩
  cases e with
  | unset =>
    obtain ⟨k, hk⟩ := hea
    exact (hk ▸ h.foothold_iterate ha k : Foothold o t .unset).elim
  | exit =>
    refine .exit ?_
    intro k l v hk hl
    have hc := hcommon k l (hk.trans hl.symm)
    rw [hk] at hc
    cases hc
  | instruction v =>
    classical
    -- Of the places where the chains pass through `v` take the first; what both have before it
    -- would come after it too.
    refine .instruction (Nat.find_spec hea) (Nat.find_spec heb) ?_
    rintro k' l' (hlt | hlt) hkl
    · exact h.not_climb_of_lt ha (Nat.find_spec hea) hlt (Nat.find_min hea hlt) (hcommon k' l' hkl)
    · refine h.not_climb_of_lt hb (Nat.find_spec heb) hlt (Nat.find_min heb hlt) ?_
      rw [← hkl]
      exact hcommon k' l' hkl

/-! ## Meets as an operation -/

/-- Two chains meet before the walk limit, and what is left is what they share. -/
theorem exists_intersect (h : Uphill o t) (ha : Foothold o t a) (hb : Foothold o t b) :
    ∃ e, (∃ n < t.walkLimit, walk o t n a b = .ok (some e)) ∧ intersect o t a b = .ok (some e) ∧
      ∀ z, Climb o t z e ↔ Climb o t z a ∧ Climb o t z b := by
  obtain ⟨e, he, hasc⟩ := Table.exists_intersect (h.ascends ha) (h.ascends hb)
  obtain ⟨m, hm, hma⟩ := h.ascends ha
  obtain ⟨n, hn, hnb⟩ := h.ascends hb
  -- A walk with just the steps it needs cannot end elsewhere.
  obtain ⟨e', he', -⟩ := exists_walk hma hnb le_rfl
  have heq : e' = e := eq_of_climb_iff fun z hz => by
    rw [climb_of_walk h.tieFree he hz, climb_of_walk h.tieFree he' hz]
  have hlimit : m + n < t.walkLimit := by
    rw [walkLimit]
    omega
  refine ⟨e, ⟨m + n, hlimit, heq ▸ he'⟩, he, fun z => ?_⟩
  by_cases hz : z = .exit
  · subst hz
    exact iff_of_true hasc.climb_exit ⟨hma.climb_exit, hnb.climb_exit⟩
  · exact climb_of_walk h.tieFree he hz

end Uphill

/-- The entries from which a chain can be followed. -/
abbrev Point (o : Numbering) (t : Table) : Type := {e : PostDominator // Foothold o t e}

theorem Uphill.exists_operation (h : Uphill o t) :
    ∃ m : Point o t → Point o t → Point o t, ∀ a b : Point o t,
      intersect o t a b = .ok (some (m a b)) ∧ ∀ z, Climb o t z (m a b) ↔ Climb o t z a ∧ Climb o t z b := by
  have hmeet : ∀ a b : Point o t, ∃ e : Point o t,
      intersect o t a b = .ok (some e) ∧ ∀ z, Climb o t z e ↔ Climb o t z a ∧ Climb o t z b := by
    rintro ⟨a, ha⟩ ⟨b, hb⟩
    obtain ⟨e, -, he, hz⟩ := h.exists_intersect ha hb
    obtain ⟨k, hk⟩ := ((hz e).1 .here).1.exists_iterate
    exact ⟨⟨e, hk ▸ h.foothold_iterate ha k⟩, he, hz⟩
  choose m hm using hmeet
  exact ⟨m, hm⟩

theorem Point.eq_of_climb_iff {p q : Point o t} (h : ∀ z, Climb o t z p ↔ Climb o t z q) : p = q :=
  Subtype.ext (Table.eq_of_climb_iff fun z _ => h z)

/-! ## Meets in any order -/

theorem Foothold.isResolved_after (h : Foothold o t a) : (t.after a).isResolved = true := by
  cases a with
  | unset => exact h.elim
  | exit => rfl
  | instruction v => exact h.2

namespace Uphill

/-- From resolved entries, ranked or not, a walk that does not fail comes to a resolved entry. -/
theorem walk_isResolved (h : Uphill o t) {fuel : Nat} {r : Option PostDominator}
    (ha : (t.after a).isResolved = true) (hb : (t.after b).isResolved = true) (hw : walk o t fuel a b = .ok r) :
    ∃ e, r = some e ∧ (t.after e).isResolved = true := by
  fun_induction walk o t fuel a b with
  | case1 =>
    cases hw
    exact ⟨_, rfl, hb⟩
  | case2 =>
    cases hw
    exact ⟨_, rfl, rfl⟩
  | case3 =>
    cases hw
    exact ⟨_, rfl, rfl⟩
  | case4 => cases ha
  | case5 => cases hb
  | case6 => cases hw
  | case7 => cases hw
  | case8 i j fuel hr hlt hne ih =>
    have hranked : o.isRanked i = true ∧ o.isRanked j = true := by simpa using hr
    exact ih (h i ⟨hranked.1, ha⟩).1.isResolved_after hb hw
  | case9 i j fuel hr hlt hne ih =>
    have hranked : o.isRanked i = true ∧ o.isRanked j = true := by simpa using hr
    exact ih ha (h j ⟨hranked.2, hb⟩).1.isResolved_after hw

theorem meetWith_ne_none (h : Uphill o t) {l : List Nat} {c : PostDominator} (hc : (t.after c).isResolved = true)
    (hl : ∀ s ∈ l, (t.after (.instruction (s : Nat))).isResolved = true) : meetWith o t c l ≠ .ok none := by
  have hne : ∀ {c}, (t.after c).isResolved = true → c ≠ .unset := by
    rintro _ hc rfl
    cases hc
  induction l generalizing c with
  | nil => simp [meetWith_nil (hne hc)]
  | cons s l ih =>
    intro hm
    obtain ⟨hnone, -⟩ | ⟨c', hc', hm⟩ := (meetWith_cons_eq_ok_iff (hne hc)).1 hm
    · obtain ⟨e, he, -⟩ := h.walk_isResolved (hl s (by simp)) hc hnone
      cases he
    · obtain ⟨e, he, hres⟩ := h.walk_isResolved (hl s (by simp)) hc hc'
      cases he
      exact ih hres (fun u hu => hl u (by simp [hu])) hm

/-- A meet that does not fail comes to nothing only where no successor counts. -/
theorem meet_eq_none_iff (h : Uphill o t) {g : Flow} {i : Nat} {r : Option PostDominator}
    (hm : meet g o t i = .ok r) : r = none ↔ ∀ s, ¬ Counts g t i s := by
  constructor
  · rintro rfl s hs
    obtain ⟨j, l, hmem, hmeet⟩ := exists_meet_eq_meetWith (o := o) hs
    have hres : ∀ u ∈ j :: l, (t.after (.instruction (u : Nat))).isResolved = true := fun u hu => ((hmem u).1 hu).2.2
    exact h.meetWith_ne_none (hres j (by simp)) (fun u hu => hres u (by simp [hu])) (hmeet ▸ hm)
  · intro hnone
    rw [meet_of_none hnone] at hm
    cases hm
    rfl

/-- What a meet comes to depends on nothing but which successors count. -/
theorem meet_unique (h : Uphill o t) {g g' : Flow} {i : Nat} (hsame : ∀ s, Counts g t i s ↔ Counts g' t i s)
    {r r' : Option PostDominator} (hm : meet g o t i = .ok r) (hm' : meet g' o t i = .ok r') : r = r' := by
  have hnone : r = none ↔ r' = none := by
    rw [h.meet_eq_none_iff hm, h.meet_eq_none_iff hm']
    exact forall_congr' fun s => not_congr (hsame s)
  cases r with
  | none => exact (hnone.1 rfl).symm
  | some e =>
    cases r' with
    | none => exact hnone.2 rfl
    | some e' =>
      have hclimb : ∀ z ≠ .exit, (Climb o t z e ↔ Climb o t z e') := by
        intro z hz
        rw [climb_of_meet h.tieFree hm hz, climb_of_meet h.tieFree hm' hz]
        exact forall_congr' fun s => imp_congr_left (hsame s)
      rw [eq_of_climb_iff hclimb]

/-- Where the successors that count are ranked, no walk fails. -/
theorem exists_meet (h : Uphill o t) {g : Flow} {i : Nat}
    (hranked : ∀ s : Nat, Counts g t i s → o.isRanked s = true) : ∃ r, meet g o t i = .ok r := by
  by_cases hcount : ∃ s, Counts g t i s
  · obtain ⟨s, hs⟩ := hcount
    obtain ⟨e, he, -⟩ := Table.exists_meet hs fun u hu => h.ascends ⟨hranked u hu, hu.2.2⟩
    exact ⟨some e, he⟩
  · exact ⟨none, meet_of_none (not_exists.1 hcount)⟩

end Uphill

/-- Chains of a table meet at the first instruction they share, in whatever order they are
taken. -/
structure MeetsAtFirst (o : Numbering) (t : Table) : Prop where
  /-- Before the limit is reached two chains meet at the first instruction on both, or at the
  exit if there is none. -/
  first : ∀ a b, Foothold o t a → Foothold o t b → ∃ e, (∃ n < t.walkLimit, walk o t n a b = .ok (some e)) ∧
    intersect o t a b = .ok (some e) ∧ ∀ e', FirstCommon t a b e' ↔ e' = e
  /-- To meet is a commutative, associative and idempotent operation. -/
  operation : ∃ m : Point o t → Point o t → Point o t, (∀ a b : Point o t, intersect o t a b = .ok (some (m a b))) ∧
    (∀ a b, m a b = m b a) ∧ (∀ a b c, m (m a b) c = m a (m b c)) ∧ ∀ a, m a a = a
  /-- The same successors in another order come to the same result, unless a walk fails. -/
  unordered : ∀ (g g' : Flow) (i : Nat), (∀ s, Counts g t i s ↔ Counts g' t i s) →
    ∀ r r', meet g o t i = .ok r → meet g' o t i = .ok r' → r = r'
  /-- None fails if they are ranked, and they come to nothing only if there are none. -/
  met : ∀ (g : Flow) (i : Nat), (∀ s : Nat, Counts g t i s → o.isRanked s = true) →
    ∃ r, meet g o t i = .ok r ∧ (r = none ↔ ∀ s, ¬ Counts g t i s)

/-- Under any numbering, with ties or without, a table whose entries lead up in rank has its
chains meet at the first instruction they share. What is not ranked or not resolved may
have any entry. -/
theorem chains_meet_at_first_common (h : Uphill o t) : MeetsAtFirst o t := by
  refine ⟨fun a b ha hb => ?_, ?_, fun g g' i hsame r r' => h.meet_unique hsame, fun g i hranked => ?_⟩
  · obtain ⟨e, hwalk, he, hz⟩ := h.exists_intersect ha hb
    have hfirst := h.firstCommon ha hb hz
    refine ⟨e, hwalk, he, fun e' => ⟨fun h' => h'.unique hfirst, ?_⟩⟩
    rintro rfl
    exact hfirst
  · obtain ⟨m, hm⟩ := h.exists_operation
    refine ⟨m, fun a b => (hm a b).1, fun a b => ?_, fun a b c => ?_, fun a => ?_⟩
    · exact Point.eq_of_climb_iff fun z => by simp only [(hm _ _).2, and_comm]
    · exact Point.eq_of_climb_iff fun z => by simp only [(hm _ _).2, and_assoc]
    · exact Point.eq_of_climb_iff fun z => by simp only [(hm _ _).2, and_self]
  · obtain ⟨r, hr⟩ := h.exists_meet hranked
    exact ⟨r, hr, h.meet_eq_none_iff hr⟩

/-- Instructions 1 and 2 rank alike, and 6 does not rank at all. -/
def tiedNumbering : Numbering where
  sequence := [4, 3, 2, 1, 0, 5]
  ranks := #[1, 2, 2, 3, 4, 1, 0, 2]

/-- One chain keeps apart from the others; 6 leads to itself, and 7 is unset. -/
def forkedTable : Table :=
  #[.instruction 1, .instruction 3, .instruction 3, .exit, .exit, .instruction 4, .instruction 6, .unset]

theorem chains_meet_forkedTable :
    Uphill tiedNumbering forkedTable ∧ MeetsAtFirst tiedNumbering forkedTable ∧
      intersect tiedNumbering forkedTable (.instruction 0) (.instruction 2) = .ok (some (.instruction 3)) ∧
      intersect tiedNumbering forkedTable (.instruction 0) (.instruction 5) = .ok (some .exit) := by
  have h : Uphill tiedNumbering forkedTable := by decide
  exact ⟨h, chains_meet_at_first_common h, by decide, by decide⟩

/-- A successor without rank does no harm once the exit is reached, and fails a walk before. -/
example :
    meet { links := #[⟨[1, 5, 6], []⟩] } tiedNumbering forkedTable 0 = .ok (some .exit) ∧
      meet { links := #[⟨[6, 1, 5], []⟩] } tiedNumbering forkedTable 0 =
        .error (.unranked (.instruction 1) (.instruction 6)) := by decide

end ControlDependence.Table
