-- SUMMARY: What controls anything is a branch, and every branch controls something.
import ControlDependence.Proofs.Unresolved
import ControlDependence.Proofs.Views

/-!
# Controllers

Only branches are gone through, so only they control. That each of them does is owed to
the contract: the successors of an instruction are distinct, so one of two or more is not
the entry at which the walks of the branch stop, and the walk from it records at least
where it starts. Whether that entry is unset, the exit or an instruction makes no
difference, nor does a branch that is a successor of its own.
-/
namespace ControlDependence

/-- The index of an instruction that has a choice to make. -/
def Code.IsBranch (c : Code) (i : Int) : Prop := ∃ n : Nat, i = n ∧ 2 ≤ (c.flow.succs n).length

theorem Flow.mem_branches {g : Flow} {n : Nat} : n ∈ g.branches ↔ 2 ≤ (g.succs n).length := by
  simp only [branches, isBranch, List.mem_filter, List.mem_range, decide_eq_true_eq]
  constructor
  · exact And.right
  · intro h
    obtain ⟨s, hs⟩ := List.exists_mem_of_length_pos (Nat.lt_of_lt_of_le Nat.zero_lt_two h)
    exact ⟨lt_of_mem_succs hs, h⟩

namespace Code

variable {c : Code} {i : Int}

/-- The indices of the branches. -/
def branches (c : Code) : Finset Int := (c.flow.branches.map fun n : Nat => (n : Int)).toFinset

theorem mem_branches : i ∈ c.branches ↔ c.IsBranch i := by
  unfold branches IsBranch
  simp only [← Flow.mem_branches, List.mem_toFinset, List.mem_map, and_comm, eq_comm]

theorem card_branches (c : Code) : c.branches.card = c.flow.branches.length := by
  have hnodup : (c.flow.branches.map fun n : Nat => (n : Int)).Nodup :=
    (List.nodup_range.filter _).map Nat.cast_injective
  unfold branches
  rw [List.toFinset_card_of_nodup hnodup, List.length_map]

end Code

namespace Relation

variable {g : Flow} {t : Table}

/-- Whatever the table, pairs are recorded for branches only. -/
theorem exists_branch_of_contains {i b : Int} (h : (ofTable g t).contains i b = true) :
    ∃ n : Nat, b = n ∧ n ∈ g.branches := by
  revert i b
  unfold ofTable
  apply foldl_addBranch_induction
    (P := fun r => ∀ {i b : Int}, r.contains i b = true → ∃ n : Nat, b = n ∧ n ∈ g.branches)
  · intro r i x hx hr i' b h
    rcases contains_add.1 h with ⟨-, rfl⟩ | h
    · exact ⟨x, rfl, hx⟩
    · exact hr h
  · intro r n hr
    exact hr
  · intro i b h
    rw [contains_empty] at h
    cases h

theorem branches_addBranch (r : Relation) (x : Nat) : (addBranch g t r x).branches = r.branches + 1 := by
  unfold addBranch
  apply List.foldlRecOn (motive := fun r' : Relation => r'.branches = r.branches + 1) (g.succs x) _ rfl
  intro r' hr s _
  apply walk_induction (P := fun r' => r'.branches = r.branches + 1) _ hr
  intro r' i hr
  unfold add
  split
  · exact hr
  · exact hr

theorem branches_ofTable (g : Flow) (t : Table) : (ofTable g t).branches = g.branches.length := by
  have hfold : ∀ (l : List Nat) (r : Relation), (l.foldl (addBranch g t) r).branches = r.branches + l.length := by
    intro l
    induction l with
    | nil => exact fun r => rfl
    | cons x l ih =>
      intro r
      rw [List.foldl_cons, ih, branches_addBranch, List.length_cons]
      omega
  rw [ofTable, hfold]
  exact Nat.zero_add _

/-- One of the successors of a branch is not where its walks stop. -/
theorem exists_contributes {x : Nat} (hnodup : (g.succs x).Nodup) (hx : 2 ≤ (g.succs x).length) (t : Table) :
    ∃ y, Contributes g t x y := by
  obtain ⟨s, hs, hne⟩ : ∃ s ∈ g.succs x, t.entry x ≠ .instruction (s : Nat) := by
    match hsuccs : g.succs x, hx with
    | u :: v :: _, _ =>
      have huv : u ≠ v := by
        rw [hsuccs] at hnodup
        exact (List.pairwise_cons.1 hnodup).1 v (by simp)
      by_cases hu : t.entry x = .instruction (u : Nat)
      · refine ⟨v, by simp, ?_⟩
        rw [hu]
        intro heq
        cases heq
        exact huv rfl
      · exact ⟨u, by simp, hu⟩
  exact ⟨s, s, hs, .here hne⟩

end Relation

namespace Outcome

variable {opts : Options} {cut : Option Cutoff} {code : Code} {a : Analysis}

/-- Of any code, accepted or not, only branches control anything. -/
theorem isBranch_of_mem_controllersOf (h : (Outcome.of opts cut (some code)).result = .ok a) {y x : Int}
    (hx : x ∈ a.controllersOf y) : code.IsBranch x := by
  obtain ⟨code', s, hcode, hflow, rfl⟩ := exists_solver h
  cases hcode
  obtain ⟨n, rfl, hn⟩ := Relation.exists_branch_of_contains (Relation.mem_controllersOf.1 hx)
  rw [hflow, Flow.mem_branches] at hn
  exact ⟨n, rfl, hn⟩

theorem dependentsOf_ne_nil_iff (hc : code.check = .ok ()) (h : (Outcome.of opts cut (some code)).result = .ok a)
    (i : Int) : a.dependentsOf i ≠ [] ↔ code.IsBranch i := by
  have hindexed := indexed_of_result h
  constructor
  · intro hne
    obtain ⟨y, hy⟩ := List.exists_mem_of_ne_nil _ hne
    exact isBranch_of_mem_controllersOf h (hindexed.mem_dependentsOf.1 hy)
  · rintro ⟨n, rfl, hn⟩
    obtain ⟨y, hy⟩ := Relation.exists_contributes ((Code.flow_wellFormed hc).succs_nodup n) hn a.table
    have hmem := (mem_controllersOf_iff_exists hc h).2 ⟨n, hn, rfl, hy⟩
    exact List.ne_nil_of_mem (hindexed.mem_dependentsOf.2 hmem)

theorem size_dependents (hc : code.check = .ok ()) (h : (Outcome.of opts cut (some code)).result = .ok a) :
    a.dependents.size = a.relation.branches := by
  obtain ⟨-, -, hrel⟩ := solved_of_result hc h
  have hiff : ∀ i, a.dependentsOf i ≠ [] ↔ i ∈ code.branches := by
    intro i
    rw [dependentsOf_ne_nil_iff hc h, Code.mem_branches]
  have hsize : a.dependents.size = (code.branches.filter fun i => a.dependentsOf i ≠ []).card :=
    (indexed_of_result h).tidy_dependents.size_eq fun i => (hiff i).1
  rw [hsize, Finset.filter_true_of_mem fun i => (hiff i).2, Code.card_branches, hrel, Relation.branches_ofTable]

/-- In every analysis of accepted code, under all options, an instruction controls
something if and only if it has two or more successors. So whatever is recorded as a
controller is a branch, and there are as many controllers as branches. -/
theorem controllers_are_branches (hc : code.check = .ok ()) (h : (Outcome.of opts cut (some code)).result = .ok a) :
    (∀ i : Int, a.isController i = true ↔ code.IsBranch i) ∧
      (∀ y : Int, ∀ x ∈ a.controllersOf y, code.IsBranch x) ∧
      a.stats.controllers = a.stats.branches := by
  refine ⟨?_, ?_, ?_⟩
  · intro i
    rw [← dependentsOf_ne_nil_iff hc h]
    simp [Analysis.isController]
  · intro y x hx
    exact isBranch_of_mem_controllersOf h hx
  · exact congrArg Int.ofNat (size_dependents hc h)

theorem controllers_are_branches_trapInLastPlace : trapInLastPlace.check = .ok () ∧
    ∃ a, (Outcome.of {} none (some trapInLastPlace)).result = .ok a ∧ a.immediatePostDominator 3 = .unset ∧
      (∀ i : Int, a.isController i = true ↔ trapInLastPlace.IsBranch i) ∧
      (∀ y : Int, ∀ x ∈ a.controllersOf y, trapInLastPlace.IsBranch x) ∧
      a.stats.controllers = a.stats.branches := by
  have hc : trapInLastPlace.check = .ok () := by decide +kernel
  have hmax : ({} : Options).maxPasses ≤ 0 := Int.le_refl 0
  obtain ⟨a, ha, -⟩ := exists_result hc hmax
  have hentry : (Outcome.of {} none (some trapInLastPlace)).result.toOption.map (·.immediatePostDominator 3) =
      some .unset := by decide +kernel
  rw [ha] at hentry
  exact ⟨hc, a, ha, Option.some.inj hentry, controllers_are_branches hc ha⟩

end Outcome

end ControlDependence
