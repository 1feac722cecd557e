-- SUMMARY: The chain of an instruction lists the controllers that a bounded number of steps reaches, the nearest first.
import Mathlib.Logic.Function.Iterate
import Mathlib.Order.Lattice.Nat
import ControlDependence.Proofs.Controllers

/-!
# Chains of controllers

A step of the relation goes from an instruction to one of its controllers. The chain of an
instruction is widened level by level, and the level after `k` rounds holds what `k` steps
reach and no smaller number of steps does, save that the start itself is not held to be
reached before it is met on the way. Since a level without anything new is the last, there
are no more levels than controllers.
-/
namespace ControlDependence

namespace Analysis

variable {a : Analysis} {i x y : Int} {k : Nat}

/-! ## Steps -/

/-- So many steps of the relation lead from an instruction to a controller. -/
inductive Steps (a : Analysis) (i : Int) : Nat → Int → Prop where
  | start : Steps a i 0 i
  | next {k : Nat} {y x : Int} : Steps a i k y → x ∈ a.controllersOf y → Steps a i (k + 1) x

theorem steps_succ : a.Steps i (k + 1) x ↔ ∃ y, a.Steps i k y ∧ x ∈ a.controllersOf y := by
  constructor
  · rintro (_ | ⟨hy, hx⟩)
    exact ⟨_, hy, hx⟩
  · rintro ⟨y, hy, hx⟩
    exact .next hy hx

theorem Steps.exists_mem_controllersOf (h : a.Steps i k x) (hk : 1 ≤ k) : ∃ y, x ∈ a.controllersOf y := by
  obtain ⟨k, rfl⟩ := Nat.exists_eq_add_of_le' hk
  obtain ⟨y, -, hx⟩ := steps_succ.1 h
  exact ⟨y, hx⟩

/-- The least number of steps to a controller, one at least. -/
noncomputable def distance (a : Analysis) (i x : Int) : Nat := sInf {k | 1 ≤ k ∧ a.Steps i k x}

theorem distance_le (hk : 1 ≤ k) (h : a.Steps i k x) : a.distance i x ≤ k := Nat.sInf_le ⟨hk, h⟩

theorem distance_eq (hk : 1 ≤ k) (h : a.Steps i k x) (hleast : ∀ j, 1 ≤ j → j < k → ¬ a.Steps i j x) :
    a.distance i x = k := by
  apply Nat.le_antisymm (distance_le hk h)
  obtain ⟨hpos, hsteps⟩ : a.distance i x ∈ {k | 1 ≤ k ∧ a.Steps i k x} := Nat.sInf_mem ⟨k, hk, h⟩
  apply Nat.le_of_not_lt
  intro hlt
  exact hleast _ hpos hlt hsteps

/-! ## Rounds -/

/-- What is appended to a chain is all that it does not hold, each once, in the order given. -/
theorem exists_extendChain (chain deps : List Int) :
    ∃ fresh, extendChain chain deps = (chain ++ fresh, fresh) ∧ fresh.Nodup ∧ fresh.Sublist deps ∧
      ∀ x, x ∈ fresh ↔ x ∈ deps ∧ x ∉ chain := by
  -- What was appended before has no bearing on what is appended next.
  suffices h : ∀ before, ∃ fresh, deps.foldl (fun (s : List Int × List Int) b =>
      if s.1.contains b then (s.1, s.2) else (s.1 ++ [b], s.2 ++ [b])) (chain, before) =
        (chain ++ fresh, before ++ fresh) ∧ fresh.Nodup ∧ fresh.Sublist deps ∧
        ∀ x, x ∈ fresh ↔ x ∈ deps ∧ x ∉ chain from h []
  induction deps generalizing chain with
  | nil => exact fun before => ⟨[], by simp⟩
  | cons b deps ih =>
    intro before
    by_cases hb : b ∈ chain
    · obtain ⟨fresh, heq, hnodup, hsub, hmem⟩ := ih chain before
      refine ⟨fresh, by simpa [hb] using heq, hnodup, hsub.cons b, ?_⟩
      intro x
      rw [hmem, List.mem_cons]
      constructor
      · exact fun h => ⟨.inr h.1, h.2⟩
      · rintro ⟨rfl | hx, hn⟩
        · exact absurd hb hn
        · exact ⟨hx, hn⟩
    · obtain ⟨fresh, heq, hnodup, hsub, hmem⟩ := ih (chain ++ [b]) (before ++ [b])
      refine ⟨b :: fresh, by simpa [hb] using heq, ?_, hsub.cons_cons b, ?_⟩
      · refine List.nodup_cons.2 ⟨?_, hnodup⟩
        intro hmem'
        exact ((hmem b).1 hmem').2 (by simp)
      · intro x
        rw [List.mem_cons, hmem, List.mem_cons, List.mem_append, List.mem_singleton]
        by_cases hx : x = b
        · subst hx
          simp [hb]
        · simp [hx]

/-- One more level, from the chain so far and the level reached last. -/
def round (a : Analysis) (s : List Int × List Int) : List Int × List Int :=
  extendChain s.1 (s.2.flatMap a.controllersOf)

/-- A round appends the controllers of the last level that the chain does not hold yet. -/
theorem exists_round (a : Analysis) (s : List Int × List Int) :
    ∃ fresh, a.round s = (s.1 ++ fresh, fresh) ∧ fresh.Nodup ∧
      ∀ x, x ∈ fresh ↔ (∃ y ∈ s.2, x ∈ a.controllersOf y) ∧ x ∉ s.1 := by
  obtain ⟨fresh, heq, hnodup, -, hmem⟩ := exists_extendChain s.1 (s.2.flatMap a.controllersOf)
  simp only [List.mem_flatMap] at hmem
  exact ⟨fresh, heq, hnodup, hmem⟩

theorem round_of_nil (chain : List Int) : a.round (chain, []) = (chain, []) := rfl

theorem widen_eq_iterate (d : Nat) (s : List Int × List Int) : a.widen d s.1 s.2 = (a.round^[d] s).1 := by
  induction d generalizing s with
  | zero => rfl
  | succ d ih =>
    obtain ⟨chain, queue⟩ := s
    rw [Function.iterate_succ_apply, ← ih]
    cases queue with
    | nil =>
      -- The round of an empty level is left out, which makes no difference.
      rw [round_of_nil, ih, Function.iterate_fixed (round_of_nil chain)]
      rfl
    | cons x queue => rfl

/-- The chain and its last level after so many rounds. -/
def level (a : Analysis) (i : Int) (k : Nat) : List Int × List Int := a.round^[k] ([], [i])

theorem level_succ (a : Analysis) (i : Int) (k : Nat) : a.level i (k + 1) = a.round (a.level i k) :=
  Function.iterate_succ_apply' ..

theorem chain_eq_level (a : Analysis) (i d : Int) : a.chain i d = (a.level i d.toNat).1 :=
  widen_eq_iterate d.toNat ([], [i])

theorem level_succ_fst (a : Analysis) (i : Int) (k : Nat) :
    (a.level i (k + 1)).1 = (a.level i k).1 ++ (a.level i (k + 1)).2 := by
  rw [level_succ]
  obtain ⟨fresh, heq, -⟩ := a.exists_round (a.level i k)
  rw [heq]

/-- After `k` rounds the chain holds what at most `k` steps reach, ordered by their
least number, and the last level what `k` steps reach and fewer do not. -/
structure Levelled (a : Analysis) (i : Int) (k : Nat) (s : List Int × List Int) : Prop where
  nodup : s.1.Nodup
  mem_chain : ∀ x, x ∈ s.1 ↔ ∃ j, 1 ≤ j ∧ j ≤ k ∧ a.Steps i j x
  mem_queue : ∀ x, x ∈ s.2 ↔ a.Steps i k x ∧ ∀ j, 1 ≤ j → j < k → ¬ a.Steps i j x
  ordered : s.1.Pairwise fun x y => a.distance i x ≤ a.distance i y

theorem levelled_zero (a : Analysis) (i : Int) : a.Levelled i 0 ([], [i]) where
  nodup := .nil
  mem_chain x := by
    constructor
    · intro hx
      cases hx
    · rintro ⟨j, hpos, hle, -⟩
      omega
  mem_queue x := by
    rw [List.mem_singleton]
    constructor
    · rintro rfl
      exact ⟨.start, by omega⟩
    · rintro ⟨hsteps, -⟩
      cases hsteps
      rfl
  ordered := .nil

namespace Levelled

variable {s : List Int × List Int}

theorem notMem_chain (h : a.Levelled i k s) : x ∉ s.1 ↔ ∀ j, 1 ≤ j → j < k + 1 → ¬ a.Steps i j x := by
  rw [h.mem_chain]
  push Not
  exact forall_congr' fun j => forall_congr' fun _ => imp_congr_left Nat.lt_succ_iff.symm

/-- What is new in a round is reached by one step more than the level before. -/
theorem fresh_iff (h : a.Levelled i k s) :
    (∃ y ∈ s.2, x ∈ a.controllersOf y) ∧ x ∉ s.1 ↔
      a.Steps i (k + 1) x ∧ ∀ j, 1 ≤ j → j < k + 1 → ¬ a.Steps i j x := by
  rw [h.notMem_chain, steps_succ]
  refine and_congr_left fun hleast => ?_
  constructor
  · rintro ⟨y, hy, hx⟩
    exact ⟨y, ((h.mem_queue y).1 hy).1, hx⟩
  · rintro ⟨y, hy, hx⟩
    -- A shorter way to `y` would be a shorter way to `x`.
    refine ⟨y, (h.mem_queue y).2 ⟨hy, ?_⟩, hx⟩
    intro j hpos hlt hj
    exact hleast (j + 1) (by omega) (by omega) (.next hj hx)

theorem round (h : a.Levelled i k s) : a.Levelled i (k + 1) (a.round s) := by
  obtain ⟨fresh, heq, hnodup, hmem⟩ := a.exists_round s
  rw [heq]
  have hfresh : ∀ x, x ∈ fresh ↔ a.Steps i (k + 1) x ∧ ∀ j, 1 ≤ j → j < k + 1 → ¬ a.Steps i j x :=
    fun x => (hmem x).trans h.fresh_iff
  have hdistance : ∀ x ∈ fresh, a.distance i x = k + 1 := by
    intro x hx
    obtain ⟨hsteps, hleast⟩ := (hfresh x).1 hx
    exact distance_eq (Nat.succ_pos k) hsteps hleast
  constructor
  · refine List.nodup_append.2 ⟨h.nodup, hnodup, ?_⟩
    rintro x hx y hy rfl
    exact ((hmem x).1 hy).2 hx
  · intro x
    rw [List.mem_append, h.mem_chain, hfresh]
    constructor
    · rintro (⟨j, hpos, hle, hj⟩ | ⟨hsteps, -⟩)
      · exact ⟨j, hpos, Nat.le_succ_of_le hle, hj⟩
      · exact ⟨k + 1, Nat.succ_pos k, le_rfl, hsteps⟩
    · rintro ⟨j, hpos, hle, hj⟩
      by_cases hx : x ∈ s.1
      · exact .inl ((h.mem_chain x).1 hx)
      · have hleast := h.notMem_chain.1 hx
        obtain rfl : j = k + 1 := by
          by_contra hne
          exact hleast j hpos (by omega) hj
        exact .inr ⟨hj, hleast⟩
  · exact hfresh
  · refine List.pairwise_append.2 ⟨h.ordered, ?_, ?_⟩
    · refine hnodup.imp_of_mem ?_
      intro x y hx hy _
      rw [hdistance x hx, hdistance y hy]
    · intro x hx y hy
      obtain ⟨j, hpos, hle, hj⟩ := (h.mem_chain x).1 hx
      rw [hdistance y hy]
      exact (distance_le hpos hj).trans (Nat.le_succ_of_le hle)

end Levelled

theorem levelled_level (a : Analysis) (i : Int) (k : Nat) : a.Levelled i k (a.level i k) := by
  induction k with
  | zero => exact a.levelled_zero i
  | succ k ih =>
    rw [level_succ]
    exact ih.round

/-! ## Chains -/

theorem mem_chain_iff (a : Analysis) (i d x : Int) :
    x ∈ a.chain i d ↔ ∃ k : Nat, 1 ≤ k ∧ k ≤ d ∧ a.Steps i k x := by
  rw [chain_eq_level, (a.levelled_level i d.toNat).mem_chain]
  refine exists_congr fun k => and_congr_right fun hk => and_congr_left fun _ => ?_
  omega

theorem nodup_chain (a : Analysis) (i d : Int) : (a.chain i d).Nodup := by
  rw [chain_eq_level]
  exact (a.levelled_level i d.toNat).nodup

theorem ordered_chain (a : Analysis) (i d : Int) :
    (a.chain i d).Pairwise fun x y => a.distance i x ≤ a.distance i y := by
  rw [chain_eq_level]
  exact (a.levelled_level i d.toNat).ordered

theorem level_prefix {j : Nat} (hjk : j ≤ k) : (a.level i j).1 <+: (a.level i k).1 := by
  induction hjk with
  | refl => exact List.prefix_rfl
  | @step k _ ih =>
    rw [level_succ_fst]
    exact ih.trans (List.prefix_append _ _)

theorem chain_prefix {d e : Int} (hde : d ≤ e) : a.chain i d <+: a.chain i e := by
  rw [chain_eq_level, chain_eq_level]
  exact level_prefix (Int.toNat_le_toNat hde)

/-- The first level is the list of direct controllers, which repeats nothing. -/
theorem Indexed.level_one (h : a.Indexed) (i : Int) : (a.level i 1).1 = a.controllersOf i := by
  have hnodup : (a.controllersOf i).Nodup := (h.tidy.ascending i).imp fun hlt => hlt.ne
  obtain ⟨fresh, heq, hfresh, hsub, hmem⟩ := exists_extendChain [] (a.controllersOf i)
  have hperm : fresh.Perm (a.controllersOf i) := by
    refine (List.perm_ext_iff_of_nodup hfresh hnodup).2 ?_
    intro x
    simp [hmem]
  have hround : a.level i 1 = extendChain [] (a.controllersOf i) := by simp [level, round]
  rw [hround, heq]
  exact hsub.eq_of_length hperm.length_eq

theorem Indexed.controllersOf_prefix (h : a.Indexed) {d : Int} (hd : 1 ≤ d) : a.controllersOf i <+: a.chain i d := by
  rw [← h.level_one i, chain_eq_level]
  exact level_prefix (by omega)

/-- A level that is not empty comes after levels that are not empty either. -/
theorem le_length_of_level_ne_nil (h : (a.level i k).2 ≠ []) : k ≤ (a.level i k).1.length := by
  induction k with
  | zero => exact Nat.zero_le _
  | succ k ih =>
    have hbefore : (a.level i k).2 ≠ [] := by
      intro hnil
      obtain ⟨x, hx⟩ := List.exists_mem_of_ne_nil _ h
      rw [level_succ] at hx
      obtain ⟨fresh, heq, -, hmem⟩ := a.exists_round (a.level i k)
      rw [heq, hmem, hnil] at hx
      simp at hx
    have hpos := List.length_pos_iff.2 h
    have hle := ih hbefore
    rw [level_succ_fst, List.length_append]
    omega

/-- No chain is longer than there are controllers. -/
theorem Indexed.length_level_le (h : a.Indexed) (i : Int) (k : Nat) : (a.level i k).1.length ≤ a.dependents.size := by
  have hlevel := a.levelled_level i k
  have hsub : (a.level i k).1 ⊆ a.dependents.keys := by
    intro x hx
    obtain ⟨j, hpos, -, hj⟩ := (hlevel.mem_chain x).1 hx
    obtain ⟨y, hy⟩ := hj.exists_mem_controllersOf hpos
    rw [Std.TreeMap.mem_keys, h.tidy_dependents.mem_iff]
    exact List.ne_nil_of_mem (h.mem_dependentsOf.2 hy)
  rw [← Std.TreeMap.length_keys]
  exact (hlevel.nodup.subperm hsub).length_le

theorem Indexed.level_eq (h : a.Indexed) {j : Nat} (hj : a.dependents.size ≤ j) (hjk : j ≤ k) :
    (a.level i k).1 = (a.level i j).1 := by
  induction hjk with
  | refl => rfl
  | @step k hjk ih =>
    have hnil : (a.level i (k + 1)).2 = [] := by
      by_contra hne
      have hlow := le_length_of_level_ne_nil hne
      have hhigh := h.length_level_le i (k + 1)
      have hle : j ≤ k := hjk
      omega
    rw [level_succ_fst, hnil, List.append_nil, ih]

theorem Indexed.chain_eq (h : a.Indexed) {d e : Int} (hd : a.stats.controllers ≤ d) (hde : d ≤ e) :
    a.chain i e = a.chain i d := by
  rw [chain_eq_level, chain_eq_level]
  have hsize : (a.dependents.size : Int) ≤ d := hd
  exact h.level_eq (by omega) (by omega)

end Analysis

namespace Outcome

variable {opts : Options} {cut : Option Cutoff} {code : Code} {a : Analysis}

/-- In every analysis the chain of an instruction to a positive depth lists, each once,
the branches to which so many steps of the relation lead or fewer, one at least, by the
least number of steps. It begins with the controllers of the instruction, a greater depth
appends to it, and from the number of controllers on nothing is left to append. -/
theorem chain_is_breadth_first_closure (h : (Outcome.of opts cut (some code)).result = .ok a) (i : Int) {d : Int}
    (hd : 1 ≤ d) :
    (a.chain i d).Nodup ∧
      (∀ x, x ∈ a.chain i d ↔ ∃ k : Nat, 1 ≤ k ∧ k ≤ d ∧ a.Steps i k x) ∧
      (∀ x ∈ a.chain i d, code.IsBranch x) ∧
      (a.chain i d).Pairwise (fun x y => a.distance i x ≤ a.distance i y) ∧
      a.controllersOf i <+: a.chain i d ∧
      a.chain i d <+: a.chain i (d + 1) ∧
      (a.stats.controllers ≤ d → ∀ e, d ≤ e → a.chain i e = a.chain i d) := by
  have hindexed := indexed_of_result h
  refine ⟨a.nodup_chain i d, a.mem_chain_iff i d, ?_, a.ordered_chain i d, hindexed.controllersOf_prefix hd, ?_, ?_⟩
  · intro x hx
    obtain ⟨k, hk, -, hsteps⟩ := (a.mem_chain_iff i d x).1 hx
    obtain ⟨y, hy⟩ := hsteps.exists_mem_controllersOf hk
    exact isBranch_of_mem_controllersOf h hy
  · exact Analysis.chain_prefix (Int.le_add_one le_rfl)
  · intro hcontrollers e hde
    exact hindexed.chain_eq hcontrollers hde

theorem chain_trapInLastPlace :
    ∃ a, (Outcome.of {} none (some trapInLastPlace)).result = .ok a ∧ a.chain 3 1 = [0] ∧ a.chain 3 2 = [0, 1] ∧
      (a.chain 3 2).Nodup ∧
      (∀ x, x ∈ a.chain 3 2 ↔ ∃ k : Nat, 1 ≤ k ∧ (k : Int) ≤ 2 ∧ a.Steps 3 k x) ∧
      (∀ x ∈ a.chain 3 2, trapInLastPlace.IsBranch x) ∧
      (a.chain 3 2).Pairwise (fun x y => a.distance 3 x ≤ a.distance 3 y) ∧
      a.controllersOf 3 <+: a.chain 3 2 ∧
      a.chain 3 2 <+: a.chain 3 (2 + 1) ∧
      ∀ e, 2 ≤ e → a.chain 3 e = a.chain 3 2 := by
  have hc : trapInLastPlace.check = .ok () := by decide +kernel
  have hmax : ({} : Options).maxPasses ≤ 0 := Int.le_refl 0
  obtain ⟨a, ha, -⟩ := exists_result hc hmax
  have hvalues : (Outcome.of {} none (some trapInLastPlace)).result.toOption.map
      (fun a => (a.chain 3 1, a.chain 3 2, a.stats.controllers)) = some ([0], [0, 1], 2) := by decide +kernel
  rw [ha] at hvalues
  obtain ⟨hone, hvalues⟩ := Prod.mk.inj (Option.some.inj hvalues)
  obtain ⟨htwo, hcontrollers⟩ := Prod.mk.inj hvalues
  obtain ⟨hnodup, hmem, hbranch, hordered, hdirect, hprefix, hstable⟩ :=
    chain_is_breadth_first_closure ha 3 (d := 2) (by decide)
  exact ⟨a, ha, hone, htwo, hnodup, hmem, hbranch, hordered, hdirect, hprefix, hstable hcontrollers.le⟩

end Outcome

end ControlDependence
