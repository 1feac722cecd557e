-- SUMMARY: The lists of controllers and their inverse, the lists of dependents, are ascending and hold the same pairs.
import Mathlib.Order.Lattice.Nat
import ControlDependence.Proofs.EarlyStop

/-!
# The relation and its inverse

A relation keeps its pairs as one list for each instruction, and the inverse is built from
these as one list for each branch. Both are tidy: lists are ascending, and a key without a
list does not occur. What is said here of tidy maps holds of either of them, and of a
relation built from any graph and any table.
-/
namespace ControlDependence

/-! ## Tidy maps -/

theorem pairwise_insertAscending {x : Int} {l : List Int} (h : l.Pairwise (· < ·)) :
    (insertAscending x l).Pairwise (· < ·) := by
  induction l with
  | nil => simp [insertAscending]
  | cons y l ih =>
    obtain ⟨hy, hl⟩ := List.pairwise_cons.1 h
    unfold insertAscending
    split
    · rename_i hlt
      refine List.pairwise_cons.2 ⟨?_, h⟩
      intro z hz
      rcases List.mem_cons.1 hz with rfl | hz
      · exact hlt
      · exact hlt.trans (hy z hz)
    · split
      · exact h
      · refine List.pairwise_cons.2 ⟨?_, ih hl⟩
        intro z hz
        rcases Relation.mem_insertAscending.1 hz with rfl | hz
        · omega
        · exact hy z hz

/-- A list that has the elements of a filter, each once, is as long as that has elements. -/
theorem card_filter_eq_length {α : Type} [DecidableEq α] {S : Finset α} {p : α → Prop} [DecidablePred p] {l : List α}
    (hnodup : l.Nodup) (hmem : ∀ x, x ∈ l ↔ x ∈ S ∧ p x) : (S.filter p).card = l.length := by
  have hset : S.filter p = l.toFinset := by
    ext x
    rw [Finset.mem_filter, List.mem_toFinset, hmem]
  rw [hset, List.toFinset_card_of_nodup hnodup]

theorem foldl_max_le_iff {α : Type} (f : α → Nat) (l : List α) (k n : Nat) :
    l.foldl (fun most e => max most (f e)) k ≤ n ↔ k ≤ n ∧ ∀ e ∈ l, f e ≤ n := by
  induction l generalizing k with
  | nil => simp
  | cons e l ih => simp [ih, and_assoc]

/-- A map whose lists are ascending and not empty. -/
structure Tidy (m : Std.TreeMap Int (List Int)) : Prop where
  ne_nil : ∀ i ∈ m, m.getD i [] ≠ []
  ascending : ∀ i, (m.getD i []).Pairwise (· < ·)

namespace Tidy

variable {m : Std.TreeMap Int (List Int)} {S : Finset Int}

theorem mem_iff (h : Tidy m) (i : Int) : i ∈ m ↔ m.getD i [] ≠ [] := by
  constructor
  · exact h.ne_nil i
  · intro hne
    by_contra hi
    exact hne (Std.TreeMap.getD_eq_fallback hi)

theorem mem_toList_iff (h : Tidy m) (i : Int) (l : List Int) :
    (i, l) ∈ m.toList ↔ l ≠ [] ∧ l = m.getD i [] := by
  rw [Std.TreeMap.mem_toList_iff_getElem?_eq_some]
  constructor
  · intro hl
    have hget : m.getD i [] = l := by rw [Std.TreeMap.getD_eq_getD_getElem?, hl, Option.getD_some]
    have hmem : i ∈ m := by simp [← Std.TreeMap.isSome_getElem?_iff_mem, hl]
    exact ⟨hget ▸ h.ne_nil i hmem, hget.symm⟩
  · rintro ⟨hne, rfl⟩
    have hmem := (h.mem_iff i).2 hne
    rw [← Std.TreeMap.isSome_getElem?_iff_mem, Option.isSome_iff_exists] at hmem
    obtain ⟨l, hl⟩ := hmem
    rw [Std.TreeMap.getD_eq_getD_getElem?, hl, Option.getD_some]

theorem size_eq (h : Tidy m) (hS : ∀ i, m.getD i [] ≠ [] → i ∈ S) :
    m.size = (S.filter fun i => m.getD i [] ≠ []).card := by
  rw [← Std.TreeMap.length_keys]
  refine (card_filter_eq_length Std.TreeMap.nodup_keys ?_).symm
  intro i
  rw [Std.TreeMap.mem_keys, h.mem_iff]
  exact ⟨fun hi => ⟨hS i hi, hi⟩, And.right⟩

theorem greatestLength_eq (h : Tidy m) (hS : ∀ i, m.getD i [] ≠ [] → i ∈ S) :
    greatestLength m = S.sup fun i => (m.getD i []).length := by
  apply eq_of_forall_ge_iff
  intro n
  unfold greatestLength
  rw [foldl_max_le_iff, Finset.sup_le_iff]
  constructor
  · rintro ⟨-, hall⟩ i -
    by_cases hi : m.getD i [] = []
    · simp [hi]
    · exact hall _ ((h.mem_toList_iff i _).2 ⟨hi, rfl⟩)
  · intro hall
    refine ⟨Nat.zero_le n, ?_⟩
    rintro ⟨i, l⟩ he
    obtain ⟨hne, rfl⟩ := (h.mem_toList_iff i l).1 he
    exact hall i (hS i hne)

end Tidy

namespace Relation

variable {r : Relation} {x y : Int}

/-! ## The lists of a relation -/

theorem tidy_empty : Tidy empty.controllers := by
  constructor
  · intro i hi
    simp [empty] at hi
  · intro i
    simp [empty]

theorem tidy_add (h : Tidy r.controllers) (i b : Int) : Tidy (r.add i b).controllers := by
  unfold add
  split
  · exact h
  · have hget : ∀ j, (r.controllers.insert i (insertAscending b (r.controllersOf i))).getD j [] =
        if i = j then insertAscending b (r.controllersOf i) else r.controllers.getD j [] := by
      intro j
      simp [Std.TreeMap.getD_insert]
    constructor
    · intro j hj
      rw [hget]
      split
      · exact List.ne_nil_of_mem (mem_insertAscending.2 (.inl rfl))
      · rename_i hij
        apply h.ne_nil
        simpa [Std.TreeMap.mem_insert, hij] using hj
    · intro j
      rw [hget]
      split
      · exact pairwise_insertAscending (h.ascending i)
      · exact h.ascending j

theorem tidy_ofTable (g : Flow) (t : Table) : Tidy (ofTable g t).controllers := by
  unfold ofTable
  apply foldl_addBranch_induction (P := fun r => Tidy r.controllers)
  · intro r i x _ hr
    exact tidy_add hr i x
  · intro r n hr
    exact hr
  · exact tidy_empty

/-! ## The lists of its inverse -/

/-- The pairs the other way round, in the order of the instructions. -/
def reversed (r : Relation) : List (Int × Int) := r.toList.flatMap fun e => e.2.map fun b => (b, e.1)

/-- Puts a value at the end of the list of its key. -/
def enlist (m : Std.TreeMap Int (List Int)) (p : Int × Int) : Std.TreeMap Int (List Int) :=
  m.insert p.1 (m.getD p.1 [] ++ [p.2])

theorem dependents_eq_foldl (r : Relation) : r.dependents = r.reversed.foldl enlist ∅ := by
  simp only [dependents, reversed, List.foldl_flatMap, List.foldl_map]
  rfl

theorem getD_foldl_enlist (ps : List (Int × Int)) (m : Std.TreeMap Int (List Int)) (x : Int) :
    (ps.foldl enlist m).getD x [] = m.getD x [] ++ (ps.filter (·.1 = x)).map (·.2) := by
  induction ps generalizing m with
  | nil => simp
  | cons p ps ih =>
    rw [List.foldl_cons, ih]
    by_cases hp : p.1 = x
    · simp [enlist, hp]
    · simp [enlist, Std.TreeMap.getD_insert, hp]

theorem foldl_enlist_ne_nil (ps : List (Int × Int)) {m : Std.TreeMap Int (List Int)}
    (hm : ∀ x ∈ m, m.getD x [] ≠ []) : ∀ x ∈ ps.foldl enlist m, (ps.foldl enlist m).getD x [] ≠ [] := by
  apply List.foldlRecOn (motive := fun m => ∀ x ∈ m, m.getD x [] ≠ []) ps enlist hm
  intro m hm p _ x hx
  by_cases hp : p.1 = x
  · simp [enlist, hp]
  · have hx' : x ∈ m := by simpa [enlist, Std.TreeMap.mem_insert, hp] using hx
    simpa [enlist, Std.TreeMap.getD_insert, hp] using hm x hx'

theorem getD_dependents (r : Relation) (x : Int) :
    r.dependents.getD x [] = r.toList.flatMap fun e => (e.2.filter (· = x)).map fun _ => e.1 := by
  rw [dependents_eq_foldl, getD_foldl_enlist]
  simp [reversed, List.filter_flatMap, List.map_flatMap, List.filter_map, Function.comp_def]

theorem mem_toList_iff (h : Tidy r.controllers) {l : List Int} :
    (y, l) ∈ r.toList ↔ l ≠ [] ∧ l = r.controllersOf y := h.mem_toList_iff y l

theorem mem_dependents_iff (h : Tidy r.controllers) : y ∈ r.dependents.getD x [] ↔ x ∈ r.controllersOf y := by
  rw [getD_dependents, List.mem_flatMap]
  constructor
  · rintro ⟨⟨i, l⟩, hl, hy⟩
    obtain ⟨b, hb, rfl⟩ := List.mem_map.1 hy
    obtain ⟨hbl, hbx⟩ := List.mem_filter.1 hb
    obtain rfl := of_decide_eq_true hbx
    obtain ⟨-, rfl⟩ := (mem_toList_iff h).1 hl
    exact hbl
  · intro hx
    refine ⟨(y, r.controllersOf y), (mem_toList_iff h).2 ⟨List.ne_nil_of_mem hx, rfl⟩, ?_⟩
    exact List.mem_map.2 ⟨x, by simpa using hx, rfl⟩

theorem pairwise_toList (r : Relation) : r.toList.Pairwise fun e e' => e.1 < e'.1 := by
  refine Std.TreeMap.ordered_keys_toList.imp ?_
  intro e e' he
  exact compare_lt_iff_lt.1 he

theorem tidy_dependents (h : Tidy r.controllers) : Tidy r.dependents := by
  constructor
  · rw [dependents_eq_foldl]
    apply foldl_enlist_ne_nil
    simp
  · intro x
    rw [getD_dependents, List.pairwise_flatMap]
    constructor
    · -- A branch stands once at most in each list.
      rintro ⟨i, l⟩ hl
      obtain ⟨-, rfl⟩ := (mem_toList_iff h).1 hl
      refine List.pairwise_map.2 ((List.Pairwise.filter _ (h.ascending i)).imp_of_mem ?_)
      intro b b' hb hb' hlt
      simp only [List.mem_filter, decide_eq_true_eq] at hb hb'
      omega
    · refine r.pairwise_toList.imp ?_
      intro e e' hlt y hy y' hy'
      obtain ⟨-, -, rfl⟩ := List.mem_map.1 hy
      obtain ⟨-, -, rfl⟩ := List.mem_map.1 hy'
      exact hlt

end Relation

end ControlDependence
