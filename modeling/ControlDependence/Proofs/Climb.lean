-- SUMMARY: What the walk along two chains finds: the entry that every common landmark of both passes through.
import ControlDependence.PostDominance.Table
import ControlDependence.Proofs.Forest

/-!
# Climbing chains

An entry is a landmark of a chain if the chain passes through it and everything before
it on the chain ranks lower. `Climb o t e a` says so of the entry `e` and the chain from
`a`. Where the walk along two chains ends, it ends at the entry whose landmarks are the
landmarks the two chains share, and this determines it; that it ends follows from the length
of the chains. Nothing here asks that ranks rise along a chain; where they do, every entry
of a chain is a landmark of it. Two fingers may even stand at the same rank, as long as
neither is ahead of the other on one chain.
-/
namespace ControlDependence.Table

variable {o : Numbering} {t : Table}

/-- The index ranks below the entry; the exit is above everything. -/
def Below (o : Numbering) (v : Int) : PostDominator → Prop
  | .unset => False
  | .exit => True
  | .instruction w => o.rank v < o.rank w

/-- The chain from an entry passes through `e`, and all before it ranks below `e`. -/
inductive Climb (o : Numbering) (t : Table) (e : PostDominator) : PostDominator → Prop where
  | here : Climb o t e e
  | up {v : Int} : Below o v e → Climb o t e (t.entry v) → Climb o t e (.instruction v)

/-- The chain from an entry reaches the exit after `n` ranked instructions. -/
inductive Ascent (o : Numbering) (t : Table) : PostDominator → Nat → Prop where
  | exit : Ascent o t .exit 0
  | up {v : Int} {n : Nat} : o.isRanked v = true → Ascent o t (t.entry v) n →
      Ascent o t (.instruction v) (n + 1)

theorem Climb.eq_exit {e : PostDominator} (h : Climb o t e .exit) : e = .exit := by
  cases h
  rfl

/-- Past its first instruction a chain keeps the landmarks above that instruction. -/
theorem climb_instruction_iff {e : PostDominator} {v : Int} :
    Climb o t e (.instruction v) ↔ e = .instruction v ∨ Below o v e ∧ Climb o t e (t.entry v) := by
  constructor
  · rintro (_ | ⟨hb, hc⟩)
    · exact .inl rfl
    · exact .inr ⟨hb, hc⟩
  · rintro (rfl | ⟨hb, hc⟩)
    · exact .here
    · exact .up hb hc

theorem Below.of_le {e : PostDominator} {v w : Int} (h : Below o w e) (hle : o.rank v ≤ o.rank w) : Below o v e := by
  cases e with
  | unset => exact h
  | exit => trivial
  | instruction x => exact Nat.lt_of_le_of_lt hle h

/-- What is below the start of a chain is below its landmarks. -/
theorem Below.of_climb {z e : PostDominator} {v : Int} (h : Below o v e) (hc : Climb o t z e) : Below o v z := by
  cases hc with
  | here => exact h
  | up hz _ => exact hz.of_le (Nat.le_of_lt h)

theorem climb_unset_iff {a : PostDominator} : Climb o t .unset a ↔ a = .unset := by
  constructor
  · rintro (_ | ⟨hb, -⟩)
    · rfl
    · exact hb.elim
  · rintro rfl
    exact .here

theorem Climb.antisymm {e e' : PostDominator} (h : Climb o t e e') (h' : Climb o t e' e) : e = e' := by
  cases h with
  | here => rfl
  | @up v hv _ =>
    cases h' with
    | here => rfl
    | @up w hw _ => exact absurd hv (Nat.lt_asymm hw)

/-- An entry is determined by its landmarks, even if the exit is left out of account. -/
theorem eq_of_climb_iff {e e' : PostDominator} (h : ∀ z ≠ .exit, (Climb o t z e ↔ Climb o t z e')) : e = e' := by
  by_cases he : e = .exit
  · by_cases he' : e' = .exit
    · rw [he, he']
    · exact absurd (he ▸ (h e' he').2 .here).eq_exit he'
  · have hup := (h e he).1 .here
    refine hup.antisymm ((h e' ?_).2 .here)
    rintro rfl
    exact he hup.eq_exit

theorem Ascent.climb_exit {a : PostDominator} {n : Nat} (h : Ascent o t a n) : Climb o t .exit a := by
  induction h with
  | exit => exact .here
  | up _ _ ih => exact .up trivial ih

/-! ## Two fingers -/

/-- Past an instruction its chain has no landmark of the same rank. -/
def TieFree (o : Numbering) (t : Table) : Prop :=
  ∀ i j : Int, o.isRanked i = true → o.rank i = o.rank j → Climb o t (.instruction i) (t.entry j) → i = j

theorem tieFree_of_orders {g : Flow} (ho : o.Orders g) : TieFree o t := by
  intro i j hi hij _
  exact ho.rank_injective i j hi hij

/-- The lower of two fingers, or either of two at the same rank, can move up without losing
a common landmark. -/
theorem climb_and_climb_iff (htie : TieFree o t) {z : PostDominator} {i j : Int} (hj : o.isRanked j = true)
    (hne : i ≠ j) (hle : o.rank i ≤ o.rank j) :
    Climb o t z (.instruction i) ∧ Climb o t z (.instruction j) ↔
      Climb o t z (t.entry i) ∧ Climb o t z (.instruction j) := by
  refine and_congr_left fun hzj => ?_
  rw [climb_instruction_iff]
  rcases climb_instruction_iff.1 hzj with rfl | ⟨hb, -⟩
  · -- The landmark is `j` itself, which is not `i`.
    constructor
    · rintro (he | ⟨-, hi⟩)
      · cases he
        exact absurd rfl hne
      · exact hi
    · intro hi
      have hrank : o.rank i ≠ o.rank j := fun heq => hne (htie j i hj heq.symm hi).symm
      exact .inr ⟨Nat.lt_of_le_of_ne hle hrank, hi⟩
  · constructor
    · rintro (rfl | ⟨-, hi⟩)
      · -- The landmark is `i` itself, so `j` would rank below it.
        exact absurd hle (Nat.not_le.2 hb)
      · exact hi
    · exact fun hi => .inr ⟨hb.of_le hle, hi⟩

/-- Where a walk ends, the chains that are left are what both had in common. -/
theorem climb_of_walk (htie : TieFree o t) {fuel : Nat} {a b e : PostDominator}
    (h : walk o t fuel a b = .ok (some e)) {z : PostDominator} (hz : z ≠ .exit) :
    Climb o t z e ↔ Climb o t z a ∧ Climb o t z b := by
  have hexit : ¬ Climb o t z .exit := fun hc => hz hc.eq_exit
  fun_induction walk o t fuel a b with
  | case1 =>
    cases h
    exact and_self_iff.symm
  | case2 =>
    -- A finger at the exit has nothing but the exit in common with the other.
    cases h
    simp [hexit]
  | case3 =>
    cases h
    simp [hexit]
  | case4 => cases h
  | case5 => cases h
  | case6 => cases h
  | case7 => cases h
  | case8 i j fuel hr hlt hne ih =>
    have hranked : o.isRanked i = true ∧ o.isRanked j = true := by simpa using hr
    have hij : i ≠ j := fun heq => hne (congrArg _ heq)
    exact (ih h).trans (climb_and_climb_iff htie hranked.2 hij (Nat.le_of_lt hlt)).symm
  | case9 i j fuel hr hlt hne ih =>
    have hranked : o.isRanked i = true ∧ o.isRanked j = true := by simpa using hr
    have hij : j ≠ i := fun heq => hne (congrArg _ heq.symm)
    refine (ih h).trans ?_
    -- At a tie it is the second finger that moves.
    rw [and_comm, ← climb_and_climb_iff htie hranked.1 hij (Nat.not_lt.1 hlt), and_comm]

/-- Along chains to the exit a walk needs no more steps than there are instructions on both. -/
theorem exists_walk {fuel m n : Nat} {a b : PostDominator} (ha : Ascent o t a m) (hb : Ascent o t b n)
    (hfuel : m + n ≤ fuel) : ∃ e, walk o t fuel a b = .ok (some e) ∧ ∃ k ≤ m, Ascent o t e k := by
  fun_induction walk o t fuel a b generalizing m n with
  | case1 => exact ⟨_, rfl, m, le_rfl, ha⟩
  | case2 => exact ⟨_, rfl, 0, Nat.zero_le m, .exit⟩
  | case3 => exact ⟨_, rfl, 0, Nat.zero_le m, .exit⟩
  | case4 => cases ha
  | case5 => cases hb
  | case6 =>
    cases ha
    omega
  | case7 i j fuel hr =>
    cases ha with
    | up hi _ =>
      cases hb with
      | up hj _ => simp [hi, hj] at hr
  | case8 i j fuel hr hlt hne ih =>
    cases ha with
    | up _ ha =>
      obtain ⟨e, he, k, hk, hek⟩ := ih ha hb (by omega)
      exact ⟨e, he, k, by omega, hek⟩
  | case9 i j fuel hr hlt hne ih =>
    cases hb with
    | up _ hb => exact ih ha hb (by omega)

/-! ## Meeting the chains of several instructions -/

/-- The chain from an entry reaches the exit within the number of positions. -/
def Ascends (o : Numbering) (t : Table) (a : PostDominator) : Prop := ∃ n ≤ t.size, Ascent o t a n

theorem Ascends.climb_exit {a : PostDominator} (h : Ascends o t a) : Climb o t .exit a := by
  obtain ⟨n, -, h⟩ := h
  exact h.climb_exit

theorem Ascends.ne_unset {a : PostDominator} (h : Ascends o t a) : a ≠ .unset := by
  rintro rfl
  obtain ⟨n, -, h⟩ := h
  cases h

theorem exists_intersect {a b : PostDominator} (ha : Ascends o t a) (hb : Ascends o t b) :
    ∃ e, intersect o t a b = .ok (some e) ∧ Ascends o t e := by
  obtain ⟨m, hm, ha⟩ := ha
  obtain ⟨n, hn, hb⟩ := hb
  have hfuel : m + n ≤ t.walkLimit + 1 := by
    simp only [walkLimit]
    omega
  obtain ⟨e, he, k, hk, hek⟩ := exists_walk ha hb hfuel
  exact ⟨e, he, k, hk.trans hm, hek⟩

theorem meetWith_nil {c : PostDominator} (hc : c ≠ .unset) : meetWith o t c [] = .ok (some c) := by
  cases c with
  | unset => exact absurd rfl hc
  | exit => rfl
  | instruction i => rfl

theorem meetWith_cons_eq_ok_iff {c : PostDominator} (hc : c ≠ .unset) {s : Nat} {l : List Nat}
    {r : Option PostDominator} :
    meetWith o t c (s :: l) = .ok r ↔
      (intersect o t (.instruction s) c = .ok none ∧ r = none) ∨
        ∃ c', intersect o t (.instruction s) c = .ok (some c') ∧ meetWith o t c' l = .ok r := by
  rw [meetWith]
  · cases intersect o t (.instruction s) c with
    | error f => simp [bind, Except.bind]
    | ok m => cases m <;> simp [bind, Except.bind, pure, Except.pure, eq_comm]
  · exact hc

theorem exists_meetWith {l : List Nat} {c : PostDominator} (hc : Ascends o t c)
    (hl : ∀ s ∈ l, Ascends o t (.instruction s)) : ∃ e, meetWith o t c l = .ok (some e) ∧ Ascends o t e := by
  induction l generalizing c with
  | nil => exact ⟨c, meetWith_nil hc.ne_unset, hc⟩
  | cons s l ih =>
    obtain ⟨c', hc', hasc⟩ := exists_intersect (hl s (by simp)) hc
    obtain ⟨e, he, hae⟩ := ih hasc fun u hu => hl u (by simp [hu])
    exact ⟨e, (meetWith_cons_eq_ok_iff hc.ne_unset).2 (.inr ⟨c', hc', he⟩), hae⟩

/-- What is met has the landmarks that all have in common. -/
theorem climb_of_meetWith (htie : TieFree o t) {l : List Nat} {c e : PostDominator} (hc : c ≠ .unset)
    (h : meetWith o t c l = .ok (some e)) {z : PostDominator} (hz : z ≠ .exit) :
    Climb o t z e ↔ Climb o t z c ∧ ∀ s ∈ l, Climb o t z (.instruction s) := by
  induction l generalizing c with
  | nil =>
    rw [meetWith_nil hc] at h
    cases h
    simp
  | cons s l ih =>
    obtain ⟨-, hnone⟩ | ⟨c', hc', he⟩ := (meetWith_cons_eq_ok_iff hc).1 h
    · cases hnone
    have hne : c' ≠ .unset := by
      rintro rfl
      have hs := ((climb_of_walk htie hc' (by simp)).1 .here).1
      simp [climb_unset_iff] at hs
    rw [ih hne he, climb_of_walk htie hc' hz, List.forall_mem_cons]
    tauto

/-- The successors that a meet takes into account. -/
def Counts (g : Flow) (t : Table) (i s : Nat) : Prop :=
  s ∈ g.succs i ∧ s ≠ i ∧ (t.entry s).isResolved = true

theorem meet_of_none {g : Flow} {i : Nat} (h : ∀ s, ¬ Counts g t i s) : meet g o t i = .ok none := by
  have hnil : (g.succs i).filter (fun j => j ≠ i && (t.entry j).isResolved) = [] := by
    simp only [List.filter_eq_nil_iff, Bool.and_eq_true, decide_eq_true_eq]
    exact fun s hs hc => h s ⟨hs, hc⟩
  rw [meet, hnil]
  rfl

/-- Where some successor counts, a meet goes through those that do, one after the other. -/
theorem exists_meet_eq_meetWith {g : Flow} {i s : Nat} (hs : Counts g t i s) :
    ∃ j l, (∀ u, u ∈ j :: l ↔ Counts g t i u) ∧ meet g o t i = meetWith o t (.instruction (j : Nat)) l := by
  have hmem : ∀ u, u ∈ (g.succs i).filter (fun j => j ≠ i && (t.entry j).isResolved) ↔ Counts g t i u := by
    simp [Counts]
  rw [meet]
  generalize (g.succs i).filter (fun j => j ≠ i && (t.entry j).isResolved) = l at hmem ⊢
  cases l with
  | nil => exact absurd ((hmem s).2 hs) (by simp)
  | cons j l => exact ⟨j, l, hmem, rfl⟩

theorem exists_meet {g : Flow} {i s : Nat} (hs : Counts g t i s)
    (hl : ∀ s, Counts g t i s → Ascends o t (.instruction s)) :
    ∃ e, meet g o t i = .ok (some e) ∧ Ascends o t e := by
  obtain ⟨j, l, hmem, hmeet⟩ := exists_meet_eq_meetWith (o := o) hs
  rw [hmeet]
  exact exists_meetWith (hl j ((hmem j).1 (by simp))) fun u hu => hl u ((hmem u).1 (by simp [hu]))

/-- A meet has the landmarks shared by all successors that count. -/
theorem climb_of_meet (htie : TieFree o t) {g : Flow} {i : Nat} {e : PostDominator}
    (h : meet g o t i = .ok (some e)) {z : PostDominator} (hz : z ≠ .exit) :
    Climb o t z e ↔ ∀ s, Counts g t i s → Climb o t z (.instruction s) := by
  by_cases hcount : ∃ s, Counts g t i s
  · obtain ⟨s, hs⟩ := hcount
    obtain ⟨j, l, hmem, hmeet⟩ := exists_meet_eq_meetWith (o := o) hs
    rw [climb_of_meetWith htie (by simp) (hmeet ▸ h) hz]
    simp only [← hmem, List.forall_mem_cons]
  · rw [meet_of_none (not_exists.1 hcount)] at h
    cases h

/-- The landmarks of the meet are the landmarks shared by all successors that count. -/
theorem meet_spec (htie : TieFree o t) {g : Flow} {i s : Nat} (hs : Counts g t i s)
    (hl : ∀ s, Counts g t i s → Ascends o t (.instruction s)) :
    ∃ e, meet g o t i = .ok (some e) ∧ Ascends o t e ∧
      ∀ z, Climb o t z e ↔ ∀ s, Counts g t i s → Climb o t z (.instruction s) := by
  obtain ⟨e, he, hasc⟩ := exists_meet hs hl
  refine ⟨e, he, hasc, fun z => ?_⟩
  by_cases hz : z = .exit
  · subst hz
    exact iff_of_true hasc.climb_exit fun s hs => (hl s hs).climb_exit
  · exact climb_of_meet htie he hz

end ControlDependence.Table
