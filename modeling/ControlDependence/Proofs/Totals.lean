-- SUMMARY: What the instruments read off a log adds up to what was reported.
import Mathlib.Algebra.BigOperators.Group.List.Lemmas
import Mathlib.Data.List.Perm.Basic
import ControlDependence.Metrics.Observation

/-!
# Totals of a log

A counter with labels has one figure for each label that occurs, and a histogram one for
each interval between its bounds. Both spread a list over places without loss: the figure
of a label is the number of its occurrences, and all figures together are the length of
the list.
-/
namespace ControlDependence.Metrics

/-! ## Figures by label -/

/-- In an ascending list repetitions stand together, so all of them go. -/
theorem eraseRepsBy_loop_spec {x : String} {xs : List String} (acc : List String)
    (h : (x :: xs).Pairwise (· ≤ ·)) :
    ∃ ys, List.eraseRepsBy.loop (· == ·) x xs acc = acc.reverse ++ ys ∧ ys.Nodup ∧
      ∀ y, y ∈ ys ↔ y ∈ x :: xs := by
  induction xs generalizing x acc with
  | nil => exact ⟨[x], by simp [List.eraseRepsBy.loop], by simp, by simp⟩
  | cons x' xs ih =>
    obtain ⟨hle, hrest⟩ := List.pairwise_cons.1 h
    by_cases heq : x = x'
    · subst heq
      obtain ⟨ys, hys, hnd, hmem⟩ := ih acc hrest
      exact ⟨ys, by simpa [List.eraseRepsBy.loop] using hys, hnd, fun y => by simp [hmem]⟩
    · have hbeq : (x == x') = false := beq_eq_false_iff_ne.2 heq
      obtain ⟨ys, hys, hnd, hmem⟩ := ih (x :: acc) hrest
      refine ⟨x :: ys, by simpa [List.eraseRepsBy.loop, hbeq] using hys, ?_, fun y => by simp [hmem]⟩
      refine List.nodup_cons.2 ⟨?_, hnd⟩
      -- Whatever comes after `x'` is no less than `x'`, and `x` is less.
      intro hx
      rcases List.mem_cons.1 ((hmem x).1 hx) with hx | hx
      · exact heq hx
      · have hge := (List.pairwise_cons.1 hrest).1 x hx
        exact heq (String.le_antisymm (hle x' List.mem_cons_self) hge)

theorem distinct_spec (xs : List String) : (distinct xs).Nodup ∧ ∀ x, x ∈ distinct xs ↔ x ∈ xs := by
  have hsorted : (xs.mergeSort fun a b => decide (a ≤ b)).Pairwise (· ≤ ·) := by
    have hpairwise : (xs.mergeSort fun a b => decide (a ≤ b)).Pairwise fun a b => decide (a ≤ b) = true :=
      List.pairwise_mergeSort (by simpa using fun a b c => String.le_trans) (by simpa using String.le_total) xs
    simpa using hpairwise
  have hmem : ∀ x, x ∈ (xs.mergeSort fun a b => decide (a ≤ b)) ↔ x ∈ xs := fun x => List.mem_mergeSort
  unfold distinct List.eraseReps
  cases hl : xs.mergeSort fun a b => decide (a ≤ b) with
  | nil =>
    rw [hl] at hmem
    exact ⟨List.nodup_nil, hmem⟩
  | cons y ys =>
    rw [hl] at hsorted hmem
    obtain ⟨zs, hzs, hnd, hmem'⟩ := eraseRepsBy_loop_spec [] hsorted
    have heq : List.eraseRepsBy (· == ·) (y :: ys) = zs := by simpa [List.eraseRepsBy] using hzs
    rw [heq]
    exact ⟨hnd, fun x => (hmem' x).trans (hmem x)⟩

/-- The figure of a label is the number of its occurrences. -/
theorem lookup_tally (xs : List String) (x : String) : ((tally xs).lookup x).getD 0 = xs.count x := by
  have hlookup : ∀ l : List String, ((l.map fun y => (y, xs.count y)).lookup x).getD 0 =
      if x ∈ l then xs.count x else 0 := by
    intro l
    induction l with
    | nil => rfl
    | cons y l ih =>
      by_cases hxy : x = y
      · subst hxy
        simp
      · have hbeq : (x == y) = false := beq_eq_false_iff_ne.2 hxy
        simp [List.lookup_cons, hbeq, hxy, ih]
  rw [tally, hlookup]
  split
  · rfl
  · rename_i hx
    rw [(distinct_spec xs).2] at hx
    exact (List.count_eq_zero.2 hx).symm

/-- The figures of all labels together are all occurrences. -/
theorem foldr_tally (xs : List String) : ((tally xs).map (·.2)).foldr (· + ·) 0 = xs.length := by
  obtain ⟨hnd, hmem⟩ := distinct_spec xs
  have hperm : (distinct xs).Perm xs.dedup :=
    (List.perm_ext_iff_of_nodup hnd xs.nodup_dedup).2 fun x => by rw [hmem, List.mem_dedup]
  calc ((tally xs).map (·.2)).foldr (· + ·) 0
    _ = ((distinct xs).map fun x => xs.count x).foldr (· + ·) 0 := by simp [tally, Function.comp_def]
    _ = (xs.dedup.map fun x => xs.count x).foldr (· + ·) 0 := (hperm.map _).foldr_eq 0
    _ = xs.length := List.sum_map_count_dedup_eq_length xs

/-! ## Figures by interval -/

/-- Every value is in one interval. -/
theorem foldr_buckets {α : Type} [LE α] [DecidableLE α] (bounds values : List α) :
    (buckets bounds values).foldr (· + ·) 0 = values.length := by
  induction bounds generalizing values with
  | nil => rfl
  | cons b bounds ih =>
    rw [buckets, List.partition_eq_filter_filter]
    dsimp only
    rw [List.foldr_cons, ih]
    exact (List.length_eq_length_filter_add _).symm

/-! ## The instruments -/

namespace Observations

/-- The figure of the counter of analyses for an outcome. -/
def analysesOf (os : Observations) (outcome : String) : Nat := (os.analyses.lookup outcome).getD 0

/-- The figure of the counter of failures for a kind. -/
def failuresOf (os : Observations) (kind : String) : Nat := (os.failures.lookup kind).getD 0

/-- The counter of failures over all kinds. -/
def allFailures (os : Observations) : Nat := (os.failures.map (·.2)).foldr (· + ·) 0

/-- The number of values in the histogram of passes. -/
def passesCount (os : Observations) : Nat := (buckets passesBounds os.passes).foldr (· + ·) 0

variable {os : Observations}

theorem analysesOf_eq (outcome : String) : os.analysesOf outcome = (os.filterMap (·.outcome?)).count outcome :=
  lookup_tally _ _

theorem failuresOf_eq (kind : String) : os.failuresOf kind = (os.filterMap (·.kind?)).count kind :=
  lookup_tally _ _

theorem allFailures_eq : os.allFailures = (os.filterMap (·.kind?)).length := foldr_tally _

theorem passesCount_eq : os.passesCount = os.passes.length := foldr_buckets _ _

end Observations

end ControlDependence.Metrics
