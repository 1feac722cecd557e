-- SUMMARY: What the relation records: the instructions on trails along the table, each stopped at the branch's entry.
import Mathlib.Algebra.Order.BigOperators.Group.Finset
import ControlDependence.Dependence.Relation
import ControlDependence.Proofs.Contract

/-!
# Trails

The trail from an instruction follows table entries up to the entry of the branch, the
exit or an unset entry. The relation has a pair for each branch and each instruction on
the trail from one of its successors. A walk ends early at a pair already recorded.
That is harmless because what follows a recorded instruction on its trail has been
recorded too, except while a walk is under way at the instruction it stands at. It holds
of tables with cycles as well.
-/
namespace ControlDependence

variable {g : Flow} {t : Table} {r : Relation} {stop runner : PostDominator} {b : Int}

/-- `y` is on the trail from an entry. -/
inductive Trail (t : Table) (stop : PostDominator) : PostDominator → Int → Prop where
  | here {i : Int} : stop ≠ .instruction i → Trail t stop (.instruction i) i
  | next {i y : Int} : stop ≠ .instruction i → Trail t stop (t.entry i) y →
      Trail t stop (.instruction i) y

theorem trail_instruction_iff {i y : Int} :
    Trail t stop (.instruction i) y ↔
      stop ≠ .instruction i ∧ (y = i ∨ Trail t stop (t.entry i) y) := by
  constructor
  · rintro (hne | ⟨hne, h⟩)
    · exact ⟨hne, .inl rfl⟩
    · exact ⟨hne, .inr h⟩
  · rintro ⟨hne, rfl | h⟩
    · exact .here hne
    · exact .next hne h

/-- An entry names nothing outside the graph. -/
def PostDominator.InRange (n : Nat) : PostDominator → Prop
  | .instruction i => 0 ≤ i ∧ i < n
  | _ => True

namespace Relation

theorem mem_insertAscending {x y : Int} {l : List Int} : y ∈ insertAscending x l ↔ y = x ∨ y ∈ l := by
  induction l with
  | nil => simp [insertAscending]
  | cons z l ih =>
    rw [insertAscending]
    split
    · simp
    · split
      · subst x
        simp
      · simp only [List.mem_cons, ih]
        tauto

theorem mem_controllersOf {i : Int} : b ∈ r.controllersOf i ↔ r.contains i b = true := by
  simp [contains]

theorem contains_empty {i : Int} : empty.contains i b = false := by
  simp [contains, controllersOf, empty]

theorem contains_add {i i' b' : Int} :
    (r.add i b).contains i' b' = true ↔ (i' = i ∧ b' = b) ∨ r.contains i' b' = true := by
  rw [add]
  split
  · rename_i h
    constructor
    · exact .inr
    · rintro (⟨rfl, rfl⟩ | h')
      · exact h
      · exact h'
  · simp only [← mem_controllersOf]
    have hget : controllersOf { r with
          controllers := r.controllers.insert i (insertAscending b (r.controllersOf i))
          pairs := r.pairs + 1 } i' =
        if i = i' then insertAscending b (r.controllersOf i) else r.controllersOf i' := by
      simp [controllersOf, Std.TreeMap.getD_insert]
    rw [hget]
    by_cases hi : i = i'
    · subst hi
      simp [mem_insertAscending]
    · simp [hi, Ne.symm hi]

/-! ## One walk -/

/-- What follows an instruction recorded for the branch on its trail is recorded, or is
what the walk comes to next. -/
def ClosedBut (t : Table) (b : Int) (stop runner : PostDominator) (r : Relation) : Prop :=
  ∀ i j : Int, r.contains i b = true → t.entry i = .instruction j → stop ≠ .instruction j →
    r.contains j b = true ∨ runner = .instruction j

/-- What follows an instruction recorded for the branch on its trail is recorded. -/
def Closed (t : Table) (b : Int) (stop : PostDominator) (r : Relation) : Prop :=
  ∀ i j : Int, r.contains i b = true → t.entry i = .instruction j → stop ≠ .instruction j →
    r.contains j b = true

/-- The instructions of a graph that are not recorded for the branch. -/
def unrecorded (n : Nat) (b : Int) (r : Relation) : Finset Nat :=
  (Finset.range n).filter fun i => r.contains i b = false

theorem unrecorded_add {n i : Nat} (hi : i < n) (hn : r.contains i b = false) :
    (unrecorded n b (r.add i b)).card < (unrecorded n b r).card := by
  refine Finset.card_lt_card ⟨fun u hu => ?_, fun hsub => ?_⟩
  · simp only [unrecorded, Finset.mem_filter, ← Bool.not_eq_true, contains_add, not_or] at hu ⊢
    exact ⟨hu.1, hu.2.2⟩
  · have hmem : i ∈ unrecorded n b r := by simp [unrecorded, hi, hn]
    simpa [unrecorded, ← Bool.not_eq_true, contains_add] using hsub hmem

/-- No graph has more instructions left to record than it has instructions. -/
theorem card_unrecorded_lt (n : Nat) (b : Int) (r : Relation) : (unrecorded n b r).card < n + 1 := by
  apply Nat.lt_succ_of_le
  simpa [unrecorded] using Finset.card_filter_le (Finset.range n) _

theorem Closed.of_trail (h : Closed t b stop r) {i y : Int} (hi : r.contains i b = true)
    (ht : Trail t stop (.instruction i) y) : r.contains y b = true := by
  generalize he : PostDominator.instruction i = e at ht
  induction ht generalizing i with
  | here =>
    cases he
    exact hi
  | @next k y _ ht ih =>
    cases he
    cases hj : t.entry k with
    | unset => rw [hj] at ht; cases ht
    | exit => rw [hj] at ht; cases ht
    | instruction j =>
      rw [hj] at ht
      exact ih (h k j hi hj (trail_instruction_iff.1 ht).1) hj.symm

/-- Where the trail is over a walk may stop. -/
theorem spec_of_not_trail (hclosed : ClosedBut t b stop runner r) (hover : ∀ y, ¬ Trail t stop runner y) :
    (∀ y b' : Int, r.contains y b' = true ↔ r.contains y b' = true ∨ b' = b ∧ Trail t stop runner y) ∧
    Closed t b stop r := by
  refine ⟨fun y b' => ⟨.inl, fun h => h.elim id fun ⟨_, h⟩ => absurd h (hover y)⟩, fun i j hi hj hs => ?_⟩
  refine (hclosed i j hi hj hs).resolve_right ?_
  rintro rfl
  exact hover j (.here hs)

/-- A walk records exactly the trail from where it starts. -/
theorem walk_spec {n fuel : Nat} (ht : ∀ i, (t.entry i).InRange n) (hr : runner.InRange n)
    (hclosed : ClosedBut t b stop runner r) (hfuel : (unrecorded n b r).card < fuel) :
    (∀ y b' : Int, (walk t b stop fuel runner r).contains y b' = true ↔
      r.contains y b' = true ∨ b' = b ∧ Trail t stop runner y) ∧
    Closed t b stop (walk t b stop fuel runner r) := by
  induction fuel generalizing runner r with
  | zero => omega
  | succ fuel ih =>
    cases runner with
    | unset => exact spec_of_not_trail hclosed fun _ h => nomatch h
    | exit => exact spec_of_not_trail hclosed fun _ h => nomatch h
    | instruction i =>
      rw [walk]
      by_cases hstop : stop = .instruction i
      · rw [if_pos hstop]
        exact spec_of_not_trail hclosed fun _ h => (trail_instruction_iff.1 h).1 hstop
      · rw [if_neg hstop]
        by_cases hi : r.contains i b = true
        · -- Recorded before: the rest of the trail was recorded with it.
          rw [if_pos hi]
          have hcl : Closed t b stop r := fun k j hk hj hs => by
            rcases hclosed k j hk hj hs with h | h
            · exact h
            · cases h
              exact hi
          refine ⟨fun y b' => ⟨.inl, fun h => h.elim id fun ⟨hb, h⟩ => ?_⟩, hcl⟩
          exact hb ▸ hcl.of_trail hi h
        · rw [if_neg hi]
          obtain ⟨u, rfl⟩ : ∃ u : Nat, i = u := Int.eq_ofNat_of_zero_le hr.1
          have hlt := unrecorded_add (r := r) (b := b) (n := n) (i := u) (by exact_mod_cast hr.2) (by simpa using hi)
          obtain ⟨hspec, hcl⟩ := ih (r := r.add u b) (ht u) (fun k j hk hj hs => by
            rcases contains_add.1 hk with ⟨rfl, -⟩ | hk
            · exact .inr hj
            · rcases hclosed k j hk hj hs with h | h
              · exact .inl (contains_add.2 (.inr h))
              · cases h
                exact .inl (contains_add.2 (.inl ⟨rfl, rfl⟩))) (by omega)
          refine ⟨fun y b' => ?_, hcl⟩
          rw [hspec, contains_add, trail_instruction_iff]
          tauto

/-! ## All walks -/

theorem foldl_walk_spec {n : Nat} (ht : ∀ i, (t.entry i).InRange n) {l : List Nat} (hl : ∀ s ∈ l, s < n)
    (hclosed : Closed t b stop r) :
    (∀ y b' : Int, (l.foldl (fun r (s : Nat) => walk t b stop (n + 1) (.instruction s) r) r).contains y b' = true ↔
      r.contains y b' = true ∨ b' = b ∧ ∃ s ∈ l, Trail t stop (.instruction (s : Nat)) y) ∧
    Closed t b stop (l.foldl (fun r (s : Nat) => walk t b stop (n + 1) (.instruction s) r) r) := by
  induction l generalizing r with
  | nil => exact ⟨by simp, hclosed⟩
  | cons s l ih =>
    have hs : PostDominator.InRange n (.instruction s) := by
      have := hl s (by simp)
      exact ⟨by omega, by omega⟩
    obtain ⟨hspec₁, hclosed₁⟩ := walk_spec ht hs (fun i j hi hj hn => .inl (hclosed i j hi hj hn))
      (card_unrecorded_lt n b r)
    obtain ⟨hspec, hcl⟩ := ih (fun u hu => hl u (by simp [hu])) hclosed₁
    refine ⟨fun y b' => ?_, hcl⟩
    rw [List.foldl_cons, hspec, hspec₁]
    simp only [List.mem_cons, exists_eq_or_imp]
    tauto

/-- The pairs that a branch contributes. -/
def Contributes (g : Flow) (t : Table) (x : Nat) (y : Int) : Prop :=
  ∃ s ∈ g.succs x, Trail t (t.entry x) (.instruction (s : Nat)) y

theorem foldl_addBranch_spec (hg : ∀ u v, v ∈ g.succs u → v < g.size)
    (ht : ∀ i, (t.entry i).InRange g.size) {l : List Nat}
    (hclosed : ∀ x : Nat, Closed t x (t.entry x) r) (y b : Int) :
    (l.foldl (addBranch g t) r).contains y b = true ↔
      r.contains y b = true ∨ ∃ x : Nat, x ∈ l ∧ b = x ∧ Contributes g t x y := by
  induction l generalizing r with
  | nil => simp
  | cons x l ih =>
    obtain ⟨hspec, hclx⟩ := foldl_walk_spec (r := { r with branches := r.branches + 1 }) ht
      (fun s hs => hg x s hs) (hclosed x)
    have hclosed' : ∀ u : Nat, Closed t u (t.entry u) (addBranch g t r x) := by
      intro u
      by_cases hu : u = x
      · subst hu
        exact hclx
      · -- Pairs of other branches are as before.
        have hsame : ∀ i : Int, (addBranch g t r x).contains i u = true ↔ r.contains i u = true := by
          intro i
          refine (hspec i u).trans ⟨fun h => h.elim id fun ⟨he, _⟩ => ?_, .inl⟩
          exact absurd (Int.natCast_inj.1 he) hu
        intro i j hi hj hs
        exact (hsame j).2 (hclosed u i j ((hsame i).1 hi) hj hs)
    rw [List.foldl_cons, ih hclosed', addBranch, hspec]
    simp only [List.mem_cons, or_and_right, exists_or, exists_eq_left, Contributes]
    exact or_assoc

/-- On any table, the relation pairs each branch with the trails from its successors. -/
theorem contains_ofTable (hg : ∀ u v, v ∈ g.succs u → v < g.size)
    (ht : ∀ i, (t.entry i).InRange g.size) {y b : Int} :
    (ofTable g t).contains y b = true ↔
      ∃ x : Nat, 2 ≤ (g.succs x).length ∧ b = x ∧ Contributes g t x y := by
  have hempty : ∀ x : Nat, Closed t x (t.entry x) empty := fun x i j hi => by
    simp [contains_empty] at hi
  rw [ofTable, foldl_addBranch_spec hg ht hempty, contains_empty]
  simp only [Bool.false_eq_true, false_or]
  refine exists_congr fun x => and_congr_left fun hx => ?_
  obtain ⟨-, s, hs, -⟩ := hx
  simp only [Flow.branches, Flow.isBranch, List.mem_filter, List.mem_range, decide_eq_true_eq]
  exact ⟨And.right, fun h => ⟨Flow.lt_of_mem_succs hs, h⟩⟩

end Relation

end ControlDependence
