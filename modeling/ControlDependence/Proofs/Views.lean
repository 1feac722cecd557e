-- SUMMARY: All views of the relation tell the same pairs, and the figures of an analysis are those of its lists.
import Mathlib.Algebra.BigOperators.Group.Finset.Sigma
import Mathlib.Data.Int.ConditionallyCompleteOrder
import Mathlib.Data.Int.Interval
import ControlDependence.Proofs.Gathering
import ControlDependence.Proofs.PathDefinition
import ControlDependence.Proofs.Worker

/-!
# Views of the relation

An analysis can be asked for the controllers of an instruction, for the dependents of a
branch, for a single pair, which a binary search looks up, and for all lists at once. The
figures come from yet other places: the pairs were counted as they were recorded, and the
greatest lengths are read off the maps. They agree because the lists are ascending, and
because each pair was counted once. Gathering the pairs in sets and sorting them afterwards
gives no other analysis, whatever order the sets are gone through in.
-/
namespace ControlDependence

namespace Analysis

/-! ## Binary search -/

/-- The search ends at the first position that is not below what it looks for. -/
theorem lowerBound_spec {xs : Array Int} (x : Int) {fuel lo hi : Nat}
    (hxs : ∀ i j, i < j → j < xs.size → xs.getD i 0 < xs.getD j 0) (hfuel : hi ≤ lo + fuel) (hle : lo ≤ hi)
    (hhi : hi ≤ xs.size) (hbelow : ∀ j < lo, xs.getD j 0 < x)
    (habove : ∀ j, hi ≤ j → j < xs.size → x ≤ xs.getD j 0) :
    (∀ j < lowerBound xs x fuel lo hi, xs.getD j 0 < x) ∧
      ∀ j, lowerBound xs x fuel lo hi ≤ j → j < xs.size → x ≤ xs.getD j 0 := by
  induction fuel generalizing lo hi with
  | zero =>
    obtain rfl : lo = hi := by omega
    exact ⟨hbelow, habove⟩
  | succ fuel ih =>
    unfold lowerBound
    by_cases hlt : lo < hi
    · rw [if_pos hlt]
      dsimp only
      by_cases hmid : xs.getD ((lo + hi) / 2) 0 < x
      · rw [if_pos hmid]
        apply ih (by omega) (by omega) hhi _ habove
        intro j hj
        rcases Nat.lt_or_eq_of_le (Nat.le_of_lt_succ hj) with hj | rfl
        · exact (hxs j _ hj (by omega)).trans hmid
        · exact hmid
      · rw [if_neg hmid]
        apply ih (by omega) (by omega) (by omega) hbelow
        intro j hj hsize
        rcases Nat.lt_or_eq_of_le hj with hj | rfl
        · exact (Int.not_lt.1 hmid).trans (hxs _ j hj hsize).le
        · exact Int.not_lt.1 hmid
    · rw [if_neg hlt]
      obtain rfl : lo = hi := by omega
      exact ⟨hbelow, habove⟩

theorem isDependent_iff {a : Analysis} {y : Int} (h : (a.controllersOf y).Pairwise (· < ·)) (x : Int) :
    a.isDependent y x = true ↔ x ∈ a.controllersOf y := by
  unfold isDependent
  simp only [decide_eq_true_eq]
  generalize hxs : (a.controllersOf y).toArray = xs
  have hmem : x ∈ a.controllersOf y ↔ x ∈ xs := by simp [← hxs]
  have hsorted : ∀ i j, i < j → j < xs.size → xs.getD i 0 < xs.getD j 0 := by
    intro i j hij hj
    subst hxs
    have hj' : j < (a.controllersOf y).length := by simpa using hj
    have hi' := hij.trans hj'
    simpa [hi', hj'] using List.pairwise_iff_getElem.1 h i j hi' hj' hij
  obtain ⟨hbelow, habove⟩ := lowerBound_spec x hsorted (Nat.le_of_eq (Nat.zero_add _).symm) (Nat.zero_le _)
    le_rfl (by simp) (by omega)
  rw [hmem]
  constructor
  · exact Array.mem_of_getElem?
  · intro hx
    obtain ⟨j, hj, rfl⟩ := Array.getElem_of_mem hx
    have hget : xs.getD j 0 = xs[j] := by simp [hj]
    rcases Nat.lt_trichotomy j (lowerBound xs xs[j] xs.size 0 xs.size) with hlt | heq | hgt
    · have hless := hbelow j hlt
      omega
    · rw [← heq]
      exact Array.getElem?_eq_getElem hj
    · have hreached := habove _ le_rfl (hgt.trans hj)
      have hless := hsorted _ j hgt hj
      omega

/-! ## Analyses -/

/-- The lists of controllers are in order, and those of dependents are made from them. -/
structure Indexed (a : Analysis) : Prop where
  tidy : Tidy a.relation.controllers
  dependents_eq : a.dependents = a.relation.dependents

/-- All views of the relation tell the same pairs, in ascending lists. -/
structure Agrees (a : Analysis) : Prop where
  mem_dependents : ∀ y x, y ∈ a.dependentsOf x ↔ x ∈ a.controllersOf y
  isDependent_iff : ∀ y x, a.isDependent y x = true ↔ x ∈ a.controllersOf y
  mem_listed : ∀ y x, (∃ l, (y, l) ∈ a.relation.toList ∧ x ∈ l) ↔ x ∈ a.controllersOf y
  ascending_controllers : ∀ y, (a.controllersOf y).Pairwise (· < ·)
  ascending_dependents : ∀ x, (a.dependentsOf x).Pairwise (· < ·)
  ascending_listed : ∀ y l, (y, l) ∈ a.relation.toList → l.Pairwise (· < ·)
  ascending_keys : a.relation.toList.Pairwise fun e e' => e.1 < e'.1
  listed_ne_nil : ∀ y l, (y, l) ∈ a.relation.toList → l ≠ []

/-- The figures of an analysis are those of its lists, over the instructions in `I`. -/
structure Tallied (a : Analysis) (I : Finset Int) : Prop where
  edges_eq_dependencies : a.stats.edges = (∑ y ∈ I, (a.controllersOf y).length : Nat)
  edges_eq_dependents : a.stats.edges = (∑ x ∈ I, (a.dependentsOf x).length : Nat)
  nodesWithDependencies : a.stats.nodesWithDependencies = (I.filter fun y => a.controllersOf y ≠ []).card
  controllers : a.stats.controllers = (I.filter fun x => a.dependentsOf x ≠ []).card
  maxDependencies : a.stats.maxDependencies = I.sup fun y => (a.controllersOf y).length
  maxDependents : a.stats.maxDependents = I.sup fun x => (a.dependentsOf x).length
  ranked : a.stats.ranked = (I.filter fun i => (a.rank? i).isSome).card

/-- Pairs gathered in sets come to the lists and the figures of an analysis, whatever order
the sets, their elements and the finished lists are gone through in. -/
structure Orderless (a : Analysis) : Prop where
  dependencies : ∀ es, (Gathering.ofTable a.code.flow a.table).Lists es →
    (Index.ofEntries es).dependencies.toList = a.relation.toList
  dependents : ∀ es, (Gathering.ofTable a.code.flow a.table).Lists es →
    (Index.ofEntries es).dependents.toList = a.dependents.toList
  edges : (Gathering.ofTable a.code.flow a.table).pairs = a.stats.edges
  branches : (Gathering.ofTable a.code.flow a.table).branches = a.stats.branches
  maxDependencies : ∀ es, es.Perm a.relation.toList → longest es = a.stats.maxDependencies
  maxDependents : ∀ es, es.Perm a.dependents.toList → longest es = a.stats.maxDependents

theorem orderless_ofSolver {code : Code} {s : Solver} (hflow : s.flow = code.flow) : (ofSolver code s).Orderless := by
  have hmatches : (Gathering.ofTable code.flow s.table).Matches (.ofTable s.flow s.table) := by
    rw [hflow]
    exact .ofTable code.flow s.table
  have htidy := Relation.tidy_ofTable s.flow s.table
  constructor
  · intro es hes
    exact hmatches.toList_dependencies htidy hes
  · intro es hes
    exact hmatches.toList_dependents htidy hes
  · exact congrArg Int.ofNat hmatches.pairs_eq
  · exact congrArg Int.ofNat hmatches.branches_eq
  · intro es hes
    exact congrArg Int.ofNat (longest_eq_of_perm hes)
  · intro es hes
    exact congrArg Int.ofNat (longest_eq_of_perm hes)

namespace Indexed

variable {a : Analysis}

theorem tidy_dependents (h : a.Indexed) : Tidy a.dependents := by
  rw [h.dependents_eq]
  exact Relation.tidy_dependents h.tidy

theorem mem_dependentsOf (h : a.Indexed) {y x : Int} : y ∈ a.dependentsOf x ↔ x ∈ a.controllersOf y := by
  unfold dependentsOf
  rw [h.dependents_eq]
  exact Relation.mem_dependents_iff h.tidy

theorem agrees (h : a.Indexed) : a.Agrees where
  mem_dependents _ _ := h.mem_dependentsOf
  isDependent_iff y x := isDependent_iff (h.tidy.ascending y) x
  mem_listed y x := by
    simp only [Relation.mem_toList_iff h.tidy]
    constructor
    · rintro ⟨l, ⟨-, rfl⟩, hx⟩
      exact hx
    · intro hx
      exact ⟨_, ⟨List.ne_nil_of_mem hx, rfl⟩, hx⟩
  ascending_controllers := h.tidy.ascending
  ascending_dependents := h.tidy_dependents.ascending
  ascending_listed y l hl := by
    obtain ⟨-, rfl⟩ := (Relation.mem_toList_iff h.tidy).1 hl
    exact h.tidy.ascending y
  ascending_keys := a.relation.pairwise_toList
  listed_ne_nil y l hl := ((Relation.mem_toList_iff h.tidy).1 hl).1

end Indexed

end Analysis

/-! ## Figures -/

theorem Relation.Counted.pairs_eq {r : Relation} {I : Finset Int} (h : r.Counted)
    (hI : ∀ y x, x ∈ r.controllersOf y → y ∈ I ∧ x ∈ I) :
    r.pairs = ((I ×ˢ I).filter fun p => p.2 ∈ r.controllersOf p.1).card := by
  have hset : r.recorded = ((I ×ˢ I).filter fun p => p.2 ∈ r.controllersOf p.1 : Finset (Int × Int)) := by
    ext ⟨y, x⟩
    simp only [recorded, Set.mem_ofPred_eq, ← mem_controllersOf, Finset.coe_filter, Finset.mem_product]
    exact ⟨fun hx => ⟨hI y x hx, hx⟩, And.right⟩
  unfold Counted at h
  rw [hset, Set.encard_coe_eq_coe_finsetCard] at h
  exact_mod_cast h.symm

theorem Numbering.Orders.length_sequence {g : Flow} {o : Numbering} (h : o.Orders g) :
    o.sequence.length = ((Finset.Ico 0 (g.size : Int)).filter fun i => o.isRanked i).card := by
  have hnodup : (o.sequence.map fun v : Nat => (v : Int)).Nodup := by
    refine List.pairwise_map.2 (h.descending.imp ?_)
    intro u v hlt heq
    rw [heq] at hlt
    exact Nat.lt_irrefl _ hlt
  rw [← List.length_map fun v : Nat => (v : Int)]
  refine (card_filter_eq_length hnodup ?_).symm
  intro i
  rw [List.mem_map, Finset.mem_Ico]
  constructor
  · rintro ⟨v, hv, rfl⟩
    obtain ⟨hlt, hr⟩ := h.of_mem v hv
    exact ⟨⟨Int.natCast_nonneg v, Int.ofNat_lt.2 hlt⟩, decide_eq_true hr⟩
  · rintro ⟨⟨hi, -⟩, hr⟩
    obtain ⟨v, rfl⟩ := Int.eq_ofNat_of_zero_le hi
    exact ⟨v, (h.mem_sequence v).2 (of_decide_eq_true hr), rfl⟩

namespace Analysis.Indexed

variable {a : Analysis} {I : Finset Int}

/-- Pairs that are counted once are as many as the lists of either side have elements. -/
theorem pairs_eq_sum (h : a.Indexed) (hcounted : a.relation.Counted)
    (hI : ∀ y x, x ∈ a.controllersOf y → y ∈ I ∧ x ∈ I) :
    a.relation.pairs = ∑ y ∈ I, (a.controllersOf y).length ∧
      a.relation.pairs = ∑ x ∈ I, (a.dependentsOf x).length := by
  rw [hcounted.pairs_eq hI, Finset.card_filter]
  constructor
  · rw [Finset.sum_product]
    refine Finset.sum_congr rfl fun y _ => ?_
    rw [← Finset.card_filter]
    refine card_filter_eq_length ((h.tidy.ascending y).imp fun hlt => hlt.ne) fun x => ?_
    exact ⟨fun hx => ⟨(hI y x hx).2, hx⟩, And.right⟩
  · rw [Finset.sum_product_right]
    refine Finset.sum_congr rfl fun x _ => ?_
    rw [← Finset.card_filter]
    refine card_filter_eq_length ((h.tidy_dependents.ascending x).imp fun hlt => hlt.ne) fun y => ?_
    refine h.mem_dependentsOf.trans ?_
    exact ⟨fun hx => ⟨(hI y x hx).1, hx⟩, And.right⟩

theorem tallied (h : a.Indexed) (hcounted : a.relation.Counted)
    (hI : ∀ y x, x ∈ a.controllersOf y → y ∈ I ∧ x ∈ I)
    (hranked : a.numbering.sequence.length = (I.filter fun i => a.numbering.isRanked i).card) : a.Tallied I := by
  obtain ⟨hdependencies, hdependents⟩ := h.pairs_eq_sum hcounted hI
  have hkeys : ∀ y, a.controllersOf y ≠ [] → y ∈ I := by
    intro y hy
    obtain ⟨x, hx⟩ := List.exists_mem_of_ne_nil _ hy
    exact (hI y x hx).1
  have hbranches : ∀ x, a.dependentsOf x ≠ [] → x ∈ I := by
    intro x hx
    obtain ⟨y, hy⟩ := List.exists_mem_of_ne_nil _ hx
    exact (hI y x (h.mem_dependentsOf.1 hy)).2
  have hrank : ∀ i, (a.rank? i).isSome = a.numbering.isRanked i := by
    intro i
    unfold rank?
    split <;> simp_all
  constructor
  · exact congrArg Int.ofNat hdependencies
  · exact congrArg Int.ofNat hdependents
  · exact congrArg Int.ofNat (h.tidy.size_eq hkeys)
  · exact congrArg Int.ofNat (h.tidy_dependents.size_eq hbranches)
  · exact congrArg Int.ofNat (h.tidy.greatestLength_eq hkeys)
  · exact congrArg Int.ofNat (h.tidy_dependents.greatestLength_eq hbranches)
  · simp only [hrank]
    exact congrArg Int.ofNat hranked

end Analysis.Indexed

/-! ## Results -/

theorem Trail.inRange {t : Table} {stop e : PostDominator} {n : Nat} {y : Int}
    (ht : ∀ i, (t.entry i).InRange n) (he : e.InRange n) (h : Trail t stop e y) : 0 ≤ y ∧ y < n := by
  induction h with
  | here => exact he
  | next _ _ ih => exact ih (ht _)

namespace Solver

theorem flow_loop (cut : Option Cutoff) (fuel asked : Nat) (s : Solver) : (loop cut fuel asked s).1.flow = s.flow := by
  induction fuel generalizing asked s with
  | zero => rfl
  | succ fuel ih =>
    cases hcut : Cutoff.answer cut asked with
    | some c => simp only [loop, hcut]
    | none =>
      rcases hrun : Pass.run s.flow s.numbering s.table with ⟨t, changed, fault⟩
      simp only [loop, hcut, pass, hrun]
      cases fault with
      | some walk => rfl
      | none =>
        cases changed with
        | false => rfl
        | true => exact ih (asked + 1) _

theorem flow_solve (cut : Option Cutoff) (s : Solver) : (s.solve cut).1.flow = s.flow :=
  flow_loop cut _ 0 s

end Solver

namespace Outcome

variable {opts : Options} {cut : Option Cutoff} {code : Code} {a : Analysis}

/-- Every analysis is read off the table of a solver for the graph of its code. -/
theorem exists_solver {body : Option Code} (h : (Outcome.of opts cut body).result = .ok a) :
    ∃ code s, body = some code ∧ s.flow = code.flow ∧ a = .ofSolver code s := by
  cases body with
  | none => cases h
  | some code =>
    rcases of_cases opts code with ⟨fault, heq⟩ | ⟨-, -, heq⟩ | heq
    · rw [heq] at h
      cases h
    · rw [heq] at h
      cases h
    · rw [heq] at h
      have hflow := (Solver.init code.flow (.ofFlow code.flow opts.exitRoots) opts.maxPasses).flow_solve cut
      rcases hs : (Solver.init code.flow (.ofFlow code.flow opts.exitRoots) opts.maxPasses).solve cut with ⟨s, f⟩
      rw [hs] at h hflow
      cases f with
      | some f => cases h
      | none =>
        cases h
        exact ⟨code, s, rfl, hflow, rfl⟩

theorem indexed_of_result {body : Option Code} (h : (Outcome.of opts cut body).result = .ok a) : a.Indexed := by
  obtain ⟨code, s, -, -, rfl⟩ := exists_solver h
  exact ⟨Relation.tidy_ofTable s.flow s.table, rfl⟩

theorem orderless_of_result {body : Option Code} (h : (Outcome.of opts cut body).result = .ok a) :
    a.Orderless := by
  obtain ⟨code, s, -, hflow, rfl⟩ := exists_solver h
  exact Analysis.orderless_ofSolver hflow

/-- Both sides of a pair are instructions of the code. -/
theorem mem_indices_of_mem_controllersOf (hc : code.check = .ok ())
    (h : (Outcome.of opts cut (some code)).result = .ok a) {y x : Int} (hx : x ∈ a.controllersOf y) :
    y ∈ Finset.Ico 0 (code.size : Int) ∧ x ∈ Finset.Ico 0 (code.size : Int) := by
  obtain ⟨-, hsolved, -⟩ := solved_of_result hc h
  obtain ⟨n, -, rfl, s, hs, ht⟩ := (mem_controllersOf_iff_exists hc h).1 hx
  have hs' : PostDominator.InRange code.size (.instruction s) :=
    ⟨Int.natCast_nonneg s, Int.ofNat_lt.2 ((Code.flow_wellFormed hc).succs_lt n s hs)⟩
  have hn : n < code.size := Flow.lt_of_mem_succs hs
  exact ⟨Finset.mem_Ico.2 (ht.inRange hsolved.inRange hs'), by simpa using hn⟩

theorem tallied_of_result (hc : code.check = .ok ()) (h : (Outcome.of opts cut (some code)).result = .ok a) :
    a.Tallied (Finset.Ico 0 (code.size : Int)) := by
  obtain ⟨hnum, -, hrel⟩ := solved_of_result hc h
  have hcounted : a.relation.Counted := by
    rw [hrel]
    exact Relation.counted_empty.foldl_addBranch _
  apply (indexed_of_result h).tallied hcounted
  · intro y x hx
    exact mem_indices_of_mem_controllersOf hc h hx
  · rw [hnum]
    exact (Numbering.ofFlow_orders (Code.flow_wellFormed hc) opts.exitRoots).length_sequence

/-- In every analysis of accepted code, asking for the controllers of an instruction, for
the dependents of a branch, for a single pair or for all lists gives the same pairs, in
ascending lists without an empty one among them, and the figures are the sums, numbers and
maxima of these lists over the instructions of the code. All of it is what pairs gathered in
sets come to, in whatever order the sets are gone through. -/
theorem all_views_agree (hc : code.check = .ok ()) (h : (Outcome.of opts cut (some code)).result = .ok a) :
    a.Agrees ∧ a.Tallied (Finset.Ico 0 (code.size : Int)) ∧ a.Orderless :=
  ⟨(indexed_of_result h).agrees, tallied_of_result hc h, orderless_of_result h⟩

theorem all_views_agree_twoEntryLoop : twoEntryLoop.check = .ok () ∧
    ∃ a, (Outcome.of {} none (some twoEntryLoop)).result = .ok a ∧ a.stats.edges = 4 ∧ a.Agrees ∧
      a.Tallied (Finset.Ico 0 (twoEntryLoop.size : Int)) ∧ a.Orderless ∧
      (Gathering.ofTable a.code.flow a.table).Lists (Gathering.ofTable a.code.flow a.table).descending := by
  have hc : twoEntryLoop.check = .ok () := by decide +kernel
  have hmax : ({} : Options).maxPasses ≤ 0 := Int.le_refl 0
  obtain ⟨a, ha, -⟩ := exists_result hc hmax
  have hedges : (Outcome.of {} none (some twoEntryLoop)).result.toOption.map (·.stats.edges) = some 4 := by
    decide +kernel
  rw [ha] at hedges
  obtain ⟨hagrees, htallied, horderless⟩ := all_views_agree hc ha
  exact ⟨hc, a, ha, Option.some.inj hedges, hagrees, htallied, horderless, Gathering.lists_descending _⟩

end Outcome

end ControlDependence
