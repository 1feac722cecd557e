-- SUMMARY: Gathering the pairs in sets and sorting them afterwards gives the same lists, whatever order the sets are gone through in.
import ControlDependence.Proofs.Inverse

/-!
# Gathering and sorting

The relation keeps its lists ascending while it is built. The same pairs can be gathered
in sets, without any order, and turned into the lists of controllers and of dependents at
the end: each set is written out in whatever order its elements come, each instruction is
entered into the lists of its branches in whatever order the instructions come, and all
lists are sorted. Where an analysis is made that way, nothing in it tells the order.
-/
namespace ControlDependence

/-! ## Gathering -/

/-- The pairs gathered so far: the set of branches of each instruction that has any. -/
structure Gathering where
  sets : Std.TreeMap Int (Std.TreeSet Int)
  /-- The number of pairs. -/
  pairs : Nat
  /-- The number of branches gone through. -/
  branches : Nat

namespace Gathering

def empty : Gathering := { sets := ∅, pairs := 0, branches := 0 }

def setOf (k : Gathering) (inst : Int) : Std.TreeSet Int := k.sets.getD inst ∅

/-- Puts a pair in, and tells whether it was new. -/
def add (k : Gathering) (inst branch : Int) : Bool × Gathering :=
  if branch ∈ k.setOf inst then (false, k)
  else
    (true, {
      k with
      sets := k.sets.insert inst ((k.setOf inst).insert branch)
      pairs := k.pairs + 1 })

/-- Walks a chain from `runner`, up to the stop or the first pair that is not new. -/
def walk (t : Table) (branch : Int) (stop : PostDominator) :
    Nat → PostDominator → Gathering → Gathering
  | fuel + 1, .instruction i, k =>
    if stop = .instruction i then k
    else if (k.add i branch).1 then walk t branch stop fuel (t.entry i) (k.add i branch).2
    else (k.add i branch).2
  | _, _, k => k

def addBranch (g : Flow) (t : Table) (k : Gathering) (branch : Nat) : Gathering :=
  (g.succs branch).foldl
    (fun k (s : Nat) => walk t branch (t.entry branch) (g.size + 1) (.instruction s) k)
    { k with branches := k.branches + 1 }

def ofTable (g : Flow) (t : Table) : Gathering := g.branches.foldl (addBranch g t) empty

/-- The sets are written out as lists, in whatever order they and their elements come. -/
structure Lists (k : Gathering) (es : List (Int × List Int)) : Prop where
  instructions : (es.map (·.1)).Perm k.sets.keys
  branches : ∀ e ∈ es, e.2.Perm (k.setOf e.1).toList

/-- The sets written out backwards. -/
def descending (k : Gathering) : List (Int × List Int) :=
  k.sets.keys.reverse.map fun i => (i, (k.setOf i).toList.reverse)

theorem lists_descending (k : Gathering) : k.Lists k.descending where
  instructions := by simp [descending, Function.comp_def, List.reverse_perm]
  branches e he := by
    obtain ⟨i, -, rfl⟩ := List.mem_map.1 he
    exact List.reverse_perm _

end Gathering

/-! ## Sorting -/

def sortAscending (l : List Int) : List Int := l.mergeSort

/-- The lists of controllers and of dependents, by instruction. -/
structure Index where
  dependencies : Std.TreeMap Int (List Int)
  dependents : Std.TreeMap Int (List Int)

namespace Index

/-- Enters an instruction with its branches. -/
def enter (x : Index) (e : Int × List Int) : Index where
  dependencies := x.dependencies.insert e.1 (sortAscending e.2)
  dependents := e.2.foldl (fun m b => m.insert b (m.getD b [] ++ [e.1])) x.dependents

/-- Enters instructions as they come, and sorts the lists of dependents at the end. -/
def ofEntries (es : List (Int × List Int)) : Index :=
  let x := es.foldl enter { dependencies := ∅, dependents := ∅ }
  { x with dependents := x.dependents.map fun _ l => sortAscending l }

end Index

/-- The greatest length among lists that come in some order. -/
def longest (es : List (Int × List Int)) : Nat := es.foldl (fun most e => max most e.2.length) 0

theorem sortAscending_eq_of_perm {l l' : List Int} (h : l.Perm l') (hl : l'.Pairwise (· < ·)) :
    sortAscending l = l' := by
  have hsorted : (sortAscending l).Pairwise (· ≤ ·) := by
    have hpairwise : (sortAscending l).Pairwise fun a b => decide (a ≤ b) = true :=
      List.pairwise_mergeSort (by simpa using fun a b c => Int.le_trans) (by simpa using Int.le_total) l
    simpa using hpairwise
  refine List.Perm.eq_of_pairwise ?_ hsorted (hl.imp Int.le_of_lt) ((List.mergeSort_perm l _).trans h)
  intro a b _ _
  exact Int.le_antisymm

theorem longest_eq_of_perm {es es' : List (Int × List Int)} (h : es.Perm es') : longest es = longest es' := by
  have : RightCommutative fun (most : Nat) (e : Int × List Int) => max most e.2.length :=
    ⟨fun most e e' => by omega⟩
  exact h.foldl_eq 0

/-! ## The same pairs -/

theorem toList_insert_eq (s : Std.TreeSet Int) (b : Int) : (s.insert b).toList = insertAscending b s.toList := by
  have hpairwise : ∀ s : Std.TreeSet Int, s.toList.Pairwise (· < ·) :=
    fun s => Std.TreeSet.ordered_toList.imp fun h => compare_lt_iff_lt.1 h
  apply (hpairwise _).eq_of_mem_iff (pairwise_insertAscending (hpairwise s))
  intro x
  rw [Relation.mem_insertAscending, Std.TreeSet.mem_toList, Std.TreeSet.mem_toList, Std.TreeSet.mem_insert,
    Std.LawfulEqCmp.compare_eq_iff_eq, eq_comm]

namespace Gathering

variable {k : Gathering} {r : Relation}

/-- The sets of a gathering have the elements of the lists of a relation. -/
structure Matches (k : Gathering) (r : Relation) : Prop where
  toList_setOf : ∀ i, (k.setOf i).toList = r.controllersOf i
  mem_sets : ∀ i, i ∈ k.sets ↔ i ∈ r.controllers
  pairs_eq : k.pairs = r.pairs
  branches_eq : k.branches = r.branches

namespace Matches

theorem empty : Gathering.empty.Matches Relation.empty where
  toList_setOf _ := rfl
  mem_sets i := by simp [Gathering.empty, Relation.empty]
  pairs_eq := rfl
  branches_eq := rfl

theorem mem_setOf (h : k.Matches r) (i b : Int) : b ∈ k.setOf i ↔ r.contains i b = true := by
  rw [← Std.TreeSet.mem_toList, h.toList_setOf, Relation.mem_controllersOf]

/-- A pair is new to both or to neither. -/
theorem add (h : k.Matches r) (i b : Int) :
    ((k.add i b).1 = true ↔ r.contains i b = false) ∧ (k.add i b).2.Matches (r.add i b) := by
  unfold Gathering.add Relation.add
  by_cases hb : r.contains i b = true
  · rw [if_pos ((h.mem_setOf i b).2 hb), if_pos hb]
    exact ⟨by simp [hb], h⟩
  · rw [if_neg (hb ∘ (h.mem_setOf i b).1), if_neg hb]
    refine ⟨by simp [hb], ⟨fun j => ?_, fun j => ?_, ?_, h.branches_eq⟩⟩
    · have hj := h.toList_setOf j
      have hi := h.toList_setOf i
      simp only [setOf, Relation.controllersOf, Std.TreeMap.getD_insert] at hi hj ⊢
      split
      · rw [toList_insert_eq, hi]
      · exact hj
    · simp only [Std.TreeMap.mem_insert, h.mem_sets]
    · exact congrArg (· + 1) h.pairs_eq

theorem walk (h : k.Matches r) (t : Table) (b : Int) (stop : PostDominator) (fuel : Nat) (e : PostDominator) :
    (Gathering.walk t b stop fuel e k).Matches (Relation.walk t b stop fuel e r) := by
  induction fuel generalizing e k r with
  | zero => cases e <;> exact h
  | succ fuel ih =>
    cases e with
    | unset => exact h
    | exit => exact h
    | instruction i =>
      obtain ⟨hnew, hadd⟩ := h.add i b
      unfold Gathering.walk Relation.walk
      by_cases hstop : stop = .instruction i
      · rw [if_pos hstop, if_pos hstop]
        exact h
      · rw [if_neg hstop, if_neg hstop]
        by_cases hb : r.contains i b = true
        · have hold : (k.add i b).1 ≠ true := by simp [hnew, hb]
          rw [if_neg hold, if_pos hb]
          unfold Relation.add at hadd
          rwa [if_pos hb] at hadd
        · rw [if_pos (hnew.2 (by simpa using hb)), if_neg hb]
          exact ih hadd _

theorem addBranch (h : k.Matches r) (g : Flow) (t : Table) (x : Nat) :
    (k.addBranch g t x).Matches (r.addBranch g t x) := by
  apply List.foldl_rel
  · exact ⟨h.toList_setOf, h.mem_sets, h.pairs_eq, congrArg (· + 1) h.branches_eq⟩
  · intro s _ k r hk
    exact hk.walk t x (t.entry x) _ _

theorem ofTable (g : Flow) (t : Table) : (Gathering.ofTable g t).Matches (.ofTable g t) := by
  apply List.foldl_rel .empty
  intro x _ k r hk
  exact hk.addBranch g t x

end Matches

end Gathering

/-! ## The same lists -/

/-- Tidy maps with the same lists are listed alike. -/
theorem Tidy.toList_eq {m m' : Std.TreeMap Int (List Int)} (h : Tidy m) (h' : Tidy m')
    (hget : ∀ i, m.getD i [] = m'.getD i []) : m.toList = m'.toList := by
  apply Std.TreeMap.Equiv.toList_eq
  apply Std.TreeMap.Equiv.of_forall_constGet?_eq
  intro i
  have hmem : i ∈ m ↔ i ∈ m' := by rw [h.mem_iff, h'.mem_iff, hget]
  by_cases hi : i ∈ m
  · rw [Std.TreeMap.getElem?_eq_some_getD hi, Std.TreeMap.getElem?_eq_some_getD (hmem.1 hi), hget]
  · rw [Std.TreeMap.getElem?_eq_none hi, Std.TreeMap.getElem?_eq_none (hi ∘ hmem.2)]

namespace Index

/-- The pairs of instructions with their branches, the other way round. -/
def turned (es : List (Int × List Int)) : List (Int × Int) := es.flatMap fun e => e.2.map fun b => (b, e.1)

theorem foldl_enter (es : List (Int × List Int)) (x : Index) :
    es.foldl enter x =
      { dependencies := es.foldl (fun m e => m.insert e.1 (sortAscending e.2)) x.dependencies
        dependents := (turned es).foldl Relation.enlist x.dependents } := by
  unfold turned
  induction es generalizing x with
  | nil => rfl
  | cons e es ih =>
    rw [List.foldl_cons, ih, List.flatMap_cons, List.foldl_append, List.foldl_map, List.foldl_cons]
    rfl

/-- The list of an instruction is the one entered with it, if all that are entered with it
are the same. -/
theorem getElem?_foldl_insert {f : Int → List Int} {es : List (Int × List Int)} (m : Std.TreeMap Int (List Int))
    (hes : ∀ e ∈ es, sortAscending e.2 = f e.1) (i : Int) :
    (es.foldl (fun m e => m.insert e.1 (sortAscending e.2)) m)[i]? =
      if i ∈ es.map (·.1) then some (f i) else m[i]? := by
  induction es generalizing m with
  | nil => simp
  | cons e es ih =>
    rw [List.foldl_cons, ih _ fun e' he' => hes e' (List.mem_cons_of_mem e he'), hes e List.mem_cons_self]
    by_cases hi : i ∈ es.map (·.1)
    · simp only [List.map_cons, List.mem_cons, hi, or_true, if_true]
    · by_cases he : e.1 = i
      · subst he
        simp [hi]
      · simp only [List.map_cons, List.mem_cons, hi, Ne.symm he, or_self, if_false, Std.TreeMap.getElem?_insert,
          Std.LawfulEqCmp.compare_eq_iff_eq, he]

end Index

namespace Gathering

variable {k : Gathering} {r : Relation} {es : List (Int × List Int)}

namespace Matches

theorem perm_keys (h : k.Matches r) (hes : k.Lists es) : (es.map (·.1)).Perm r.controllers.keys := by
  refine hes.instructions.trans ((List.perm_ext_iff_of_nodup Std.TreeMap.nodup_keys Std.TreeMap.nodup_keys).2 ?_)
  intro i
  rw [Std.TreeMap.mem_keys, Std.TreeMap.mem_keys, h.mem_sets]

theorem sortAscending_branches (h : k.Matches r) (ht : Tidy r.controllers) (hes : k.Lists es) :
    ∀ e ∈ es, sortAscending e.2 = r.controllersOf e.1 := by
  intro e he
  apply sortAscending_eq_of_perm _ (ht.ascending e.1)
  rw [← Relation.controllersOf, ← h.toList_setOf]
  exact hes.branches e he

/-- Whatever order they come in, the pairs are those of the relation. -/
theorem perm_reversed (h : k.Matches r) (ht : Tidy r.controllers) (hes : k.Lists es) :
    (Index.turned es).Perm r.reversed := by
  have hlisted : r.toList = r.controllers.keys.map fun i => (i, r.controllersOf i) := by
    rw [← Std.TreeMap.map_fst_toList_eq_keys, List.map_map]
    refine (List.map_id _).symm.trans (List.map_congr_left ?_)
    rintro ⟨i, l⟩ hl
    obtain ⟨-, rfl⟩ := (Relation.mem_toList_iff ht).1 hl
    rfl
  have hbranches : (Index.turned es).Perm
      (es.flatMap fun e => (r.controllersOf e.1).map fun b => (b, e.1)) := by
    apply List.Perm.flatMap_left
    intro e he
    rw [← h.toList_setOf]
    exact (hes.branches e he).map _
  have hkeys := (h.perm_keys hes).flatMap_right fun i => (r.controllersOf i).map fun b => (b, i)
  rw [List.flatMap_map] at hkeys
  rw [Relation.reversed, hlisted, List.flatMap_map]
  exact hbranches.trans hkeys

theorem toList_dependencies (h : k.Matches r) (ht : Tidy r.controllers) (hes : k.Lists es) :
    (Index.ofEntries es).dependencies.toList = r.toList := by
  apply Std.TreeMap.Equiv.toList_eq
  apply Std.TreeMap.Equiv.of_forall_constGet?_eq
  intro i
  simp only [Index.ofEntries, Index.foldl_enter]
  rw [Index.getElem?_foldl_insert ∅ (h.sortAscending_branches ht hes)]
  have hmem : i ∈ es.map (·.1) ↔ i ∈ r.controllers := by rw [(h.perm_keys hes).mem_iff, Std.TreeMap.mem_keys]
  by_cases hi : i ∈ r.controllers
  · rw [if_pos (hmem.2 hi), Relation.controllersOf, Std.TreeMap.getElem?_eq_some_getD hi]
  · rw [if_neg (hi ∘ hmem.1), Std.TreeMap.getElem?_eq_none hi, Std.TreeMap.getElem?_emptyc]

theorem toList_dependents (h : k.Matches r) (ht : Tidy r.controllers) (hes : k.Lists es) :
    (Index.ofEntries es).dependents.toList = r.dependents.toList := by
  have htidy := Relation.tidy_dependents ht
  -- Before the sorting each list has its elements already, in some order.
  have hperm : ∀ i, (((Index.turned es).foldl Relation.enlist ∅).getD i []).Perm (r.dependents.getD i []) := by
    intro i
    rw [Relation.dependents_eq_foldl, Relation.getD_foldl_enlist, Relation.getD_foldl_enlist]
    exact (((h.perm_reversed ht hes).filter _).map _).append_left _
  have hget : ∀ i, (Index.ofEntries es).dependents.getD i [] = r.dependents.getD i [] := by
    intro i
    simp only [Index.ofEntries, Index.foldl_enter]
    rw [← sortAscending_eq_of_perm (hperm i) (htidy.ascending i), Std.TreeMap.getD_map,
      Std.TreeMap.getD_eq_getD_getElem?]
    cases ((Index.turned es).foldl Relation.enlist ∅)[i]? with
    | none => exact List.mergeSort_nil.symm
    | some l => rfl
  refine Tidy.toList_eq ⟨?_, ?_⟩ htidy hget
  · intro i hi hnil
    simp only [Index.ofEntries, Index.foldl_enter, Std.TreeMap.mem_map] at hi
    rw [hget] at hnil
    have hempty := hperm i
    rw [hnil] at hempty
    exact Relation.foldl_enlist_ne_nil _ (by simp) i hi hempty.eq_nil
  · intro i
    rw [hget]
    exact htidy.ascending i

end Matches

end Gathering

/-- Keys that were collected in any order are those of the listed entries once they are sorted. -/
theorem Relation.sortAscending_keys (r : Relation) {is : List Int} (h : is.Perm r.controllers.keys) :
    sortAscending is = r.toList.map (·.1) := by
  rw [← Std.TreeMap.map_fst_toList_eq_keys] at h
  exact sortAscending_eq_of_perm h (List.pairwise_map.2 r.pairwise_toList)

end ControlDependence
