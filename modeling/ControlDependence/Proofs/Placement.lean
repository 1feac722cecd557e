-- SUMMARY: Where the blocks of a routine end up in its body: the order of the blocks, their places, and their edges.
import Mathlib.Data.List.Nodup
import Mathlib.Data.List.Induction
import ControlDependence.Lowering.Lower
import ControlDependence.Proofs.Construction

/-!
# The layout of a routine

The blocks are laid out in order, with one block that ends the routine moved to the end.
`Placed layout b s` says that the instructions of `b` have the indices from `s` on. Where
a block is listed more than once its last listing counts, and the places of blocks never
overlap.
-/
namespace ControlDependence.Lowering

variable {L : List Block} {b c : Block} {x s s' k k' i : Nat}

/-! ## Last places -/

section LastPlace

variable {α : Type} {p : α → Bool} {xs ys : List α}

theorem lastIdx?_concat (x : α) :
    lastIdx? p (xs ++ [x]) = if p x then some xs.length else lastIdx? p xs := by
  simp only [lastIdx?, List.reverse_append, List.reverse_cons, List.reverse_nil, List.nil_append,
    List.cons_append, List.findIdx?_cons]
  split
  · simp
  · cases xs.reverse.findIdx? p with
    | none => rfl
    | some j =>
      simp only [Option.map_some, List.length_append, List.length_cons, List.length_nil]
      congr 1
      omega

theorem lastIdx?_append :
    lastIdx? p (xs ++ ys) = ((lastIdx? p ys).map (xs.length + ·)).or (lastIdx? p xs) := by
  induction ys using List.reverseRecOn with
  | nil => simp [lastIdx?]
  | append_singleton ys y ih =>
    rw [← List.append_assoc, lastIdx?_concat, lastIdx?_concat, ih]
    split
    · simp
    · rfl

theorem lastIdx?_eq_none_iff : lastIdx? p xs = none ↔ ∀ x ∈ xs, p x = false := by
  simp [lastIdx?]

theorem exists_of_lastIdx? (h : lastIdx? p xs = some i) :
    ∃ pre x post, xs = pre ++ x :: post ∧ pre.length = i ∧ p x = true ∧ ∀ y ∈ post, p y = false := by
  induction xs using List.reverseRecOn with
  | nil => simp [lastIdx?] at h
  | append_singleton xs x ih =>
    rw [lastIdx?_concat] at h
    split at h
    · rename_i hx
      cases h
      exact ⟨xs, x, [], rfl, rfl, hx, by simp⟩
    · rename_i hx
      obtain ⟨pre, y, post, rfl, hlen, hy, hpost⟩ := ih h
      refine ⟨pre, y, post ++ [x], by simp, hlen, hy, fun z hz => ?_⟩
      rcases List.mem_append.1 hz with hz | hz
      · exact hpost z hz
      · cases List.mem_singleton.1 hz
        simpa using hx

end LastPlace

/-! ## The order of the blocks -/

/-- `layout` has the blocks in their order except that one is moved to the end: the last
that returns or, if none does, the last that panics. -/
inductive ExitLast (blocks : List Block) : List Block → Prop where
  | returning {pre post : List Block} {b : Block} : blocks = pre ++ b :: post → b.exit = .returns →
      (∀ c ∈ post, c.exit ≠ .returns) → ExitLast blocks (pre ++ post ++ [b])
  | panicking {pre post : List Block} {b : Block} : blocks = pre ++ b :: post → b.exit = .panics →
      (∀ c ∈ post, c.exit ≠ .panics) → (∀ c ∈ blocks, c.exit ≠ .returns) → ExitLast blocks (pre ++ post ++ [b])
  | unending : (∀ c ∈ blocks, c.exit = .none) → ExitLast blocks blocks

theorem layout_of_exitPlace {r : Routine} {pre post : List Block} (hr : r.blocks = pre ++ b :: post)
    (hi : r.exitPlace? = some pre.length) : r.layout = pre ++ post ++ [b] := by
  simp [Routine.layout, hi, hr, List.eraseIdx_append_of_length_le]

theorem exitLast_layout (r : Routine) : ExitLast r.blocks r.layout := by
  cases hret : lastIdx? (fun b : Block => b.exit = .returns) r.blocks with
  | some i =>
    obtain ⟨pre, b, post, hr, rfl, hb, hpost⟩ := exists_of_lastIdx? hret
    rw [layout_of_exitPlace hr (by simp [Routine.exitPlace?, hret])]
    exact .returning hr (by simpa using hb) fun c hc => by simpa using hpost c hc
  | none =>
    have hnone : ∀ c ∈ r.blocks, c.exit ≠ .returns := fun c hc => by
      simpa using lastIdx?_eq_none_iff.1 hret c hc
    cases hpan : lastIdx? (fun b : Block => b.exit = .panics) r.blocks with
    | some i =>
      obtain ⟨pre, b, post, hr, rfl, hb, hpost⟩ := exists_of_lastIdx? hpan
      rw [layout_of_exitPlace hr (by simp [Routine.exitPlace?, hret, hpan])]
      exact .panicking hr (by simpa using hb) (fun c hc => by simpa using hpost c hc) hnone
    | none =>
      have hlayout : r.layout = r.blocks := by simp [Routine.layout, Routine.exitPlace?, hret, hpan]
      rw [hlayout]
      refine .unending fun c hc => ?_
      have hpanics : c.exit ≠ .panics := by simpa using lastIdx?_eq_none_iff.1 hpan c hc
      cases hexit : c.exit with
      | none => rfl
      | returns => exact absurd hexit (hnone c hc)
      | panics => exact absurd hexit hpanics

theorem ExitLast.perm {blocks layout : List Block} (h : ExitLast blocks layout) : layout.Perm blocks := by
  have hmoved : ∀ (pre post : List Block) (b : Block), (pre ++ post ++ [b]).Perm (pre ++ b :: post) :=
    fun pre post b => (List.perm_append_singleton b _).trans List.perm_middle.symm
  cases h with
  | returning hb => exact hb ▸ hmoved ..
  | panicking hb => exact hb ▸ hmoved ..
  | unending => exact .refl _

theorem mem_layout {r : Routine} : b ∈ r.layout ↔ b ∈ r.blocks := (exitLast_layout r).perm.mem_iff

/-! ## The places of the blocks -/

/-- The number of instructions of the blocks. -/
def total (L : List Block) : Nat := (L.flatMap (·.statements)).length

@[simp] theorem total_nil : total [] = 0 := rfl

@[simp] theorem total_cons (b : Block) (L : List Block) : total (b :: L) = b.statements.length + total L := by
  simp [total]

@[simp] theorem total_append (L M : List Block) : total (L ++ M) = total L + total M := by
  simp [total]

/-- The instructions of `b`, as it is last listed, start at `s`. -/
def Placed (L : List Block) (b : Block) (s : Nat) : Prop :=
  ∃ pre post, L = pre ++ b :: post ∧ s = total pre ∧ ∀ c ∈ post, c.index ≠ b.index

theorem placed_concat : Placed (L ++ [c]) b s ↔
    (b = c ∧ s = total L) ∨ (c.index ≠ b.index ∧ Placed L b s) := by
  constructor
  · rintro ⟨pre, post, hL, rfl, hpost⟩
    induction post using List.reverseRecOn with
    | nil =>
      obtain ⟨rfl, hc⟩ := List.append_inj' hL rfl
      cases hc
      exact .inl ⟨rfl, rfl⟩
    | append_singleton post d _ =>
      rw [← List.cons_append, ← List.append_assoc] at hL
      obtain ⟨rfl, hd⟩ := List.append_inj' hL rfl
      cases hd
      exact .inr ⟨hpost c (by simp), pre, post, rfl, rfl, fun e he => hpost e (by simp [he])⟩
  · rintro (⟨rfl, rfl⟩ | ⟨hc, pre, post, rfl, rfl, hpost⟩)
    · exact ⟨L, [], rfl, rfl, by simp⟩
    · refine ⟨pre, post ++ [c], by simp, rfl, fun d hd => ?_⟩
      rcases List.mem_append.1 hd with hd | hd
      · exact hpost d hd
      · cases List.mem_singleton.1 hd
        exact hc

namespace Placed

theorem mem (h : Placed L b s) : b ∈ L := by
  obtain ⟨pre, post, rfl, -⟩ := h
  simp

theorem add_le_total (h : Placed L b s) : s + b.statements.length ≤ total L := by
  obtain ⟨pre, post, rfl, rfl, -⟩ := h
  simp only [total_append, total_cons]
  omega

/-- Of two blocks in a list, one is the other or comes before it. -/
theorem split_cases {pre pre' post post' : List Block} (h : pre ++ b :: post = pre' ++ c :: post') :
    (pre = pre' ∧ b = c) ∨ (∃ m, pre' = pre ++ b :: m ∧ post = m ++ c :: post') ∨
      ∃ m, pre = pre' ++ c :: m ∧ post' = m ++ b :: post := by
  rcases List.append_eq_append_iff.1 h with ⟨m, rfl, hm⟩ | ⟨m, rfl, hm⟩
  · cases m with
    | nil =>
      cases hm
      exact .inl ⟨by simp, rfl⟩
    | cons d m =>
      cases hm
      exact .inr (.inl ⟨m, rfl, rfl⟩)
  · cases m with
    | nil =>
      cases hm
      exact .inl ⟨by simp, rfl⟩
    | cons d m =>
      cases hm
      exact .inr (.inr ⟨m, rfl, rfl⟩)

theorem unique (h : Placed L b s) (h' : Placed L c s') (hx : b.index = c.index) : b = c ∧ s = s' := by
  obtain ⟨pre, post, rfl, rfl, hpost⟩ := h
  obtain ⟨pre', post', hL, rfl, hpost'⟩ := h'
  rcases split_cases hL with ⟨rfl, rfl⟩ | ⟨m, rfl, rfl⟩ | ⟨m, rfl, rfl⟩
  · exact ⟨rfl, rfl⟩
  · exact absurd hx.symm (hpost c (by simp))
  · exact absurd hx (hpost' b (by simp))

/-- Places do not overlap. -/
theorem disjoint (h : Placed L b s) (h' : Placed L c s') (hk : k < b.statements.length)
    (hk' : k' < c.statements.length) (he : s + k = s' + k') : b = c ∧ s = s' ∧ k = k' := by
  obtain ⟨pre, post, rfl, rfl, -⟩ := h
  obtain ⟨pre', post', hL, rfl, -⟩ := h'
  rcases split_cases hL with ⟨rfl, rfl⟩ | ⟨m, rfl, -⟩ | ⟨m, rfl, -⟩
  · exact ⟨rfl, rfl, by omega⟩
  · simp only [total_append, total_cons] at he
    omega
  · simp only [total_append, total_cons] at he
    omega

end Placed

theorem exists_placed (hb : b ∈ L) : ∃ c s, c.index = b.index ∧ Placed L c s := by
  induction L using List.reverseRecOn with
  | nil => cases hb
  | append_singleton L d ih =>
    by_cases hd : d.index = b.index
    · exact ⟨d, total L, hd, placed_concat.2 (.inl ⟨rfl, rfl⟩)⟩
    · have hbL : b ∈ L := by
        rcases List.mem_append.1 hb with hb | hb
        · exact hb
        · exact absurd (List.mem_singleton.1 hb ▸ rfl) hd
      obtain ⟨c, s, hc, hs⟩ := ih hbL
      exact ⟨c, s, hc, placed_concat.2 (.inr ⟨hc ▸ hd, hs⟩)⟩

theorem starts_append (n : Nat) (L M : List Block) : starts n (L ++ M) = starts n L ++ starts (n + total L) M := by
  induction L generalizing n with
  | nil => simp [starts]
  | cons b L ih => simp [starts, ih, Nat.add_assoc]

theorem length_starts (n : Nat) (L : List Block) : (starts n L).length = L.length := by
  induction L generalizing n with
  | nil => rfl
  | cons b L ih => simp [starts, ih]

theorem startOf?_concat : startOf? (L ++ [b]) x = if b.index = x then some (total L) else startOf? L x := by
  simp only [startOf?, starts_append, List.zip_append (length_starts 0 L).symm]
  by_cases hb : b.index = x
  · simp [starts, hb]
  · simp [starts, hb]

theorem startOf?_eq_some_iff : startOf? L x = some s ↔ ∃ b, b.index = x ∧ Placed L b s := by
  induction L using List.reverseRecOn with
  | nil => simp [startOf?, Placed]
  | append_singleton L c ih =>
    rw [startOf?_concat]
    split
    · rename_i hc
      constructor
      · intro he
        cases he
        exact ⟨c, hc, placed_concat.2 (.inl ⟨rfl, rfl⟩)⟩
      · rintro ⟨b, rfl, hb⟩
        rcases placed_concat.1 hb with ⟨-, rfl⟩ | ⟨hne, -⟩
        · rfl
        · exact absurd hc hne
    · rename_i hc
      rw [ih]
      constructor
      · rintro ⟨b, rfl, hb⟩
        exact ⟨b, rfl, placed_concat.2 (.inr ⟨hc, hb⟩)⟩
      · rintro ⟨b, rfl, hb⟩
        rcases placed_concat.1 hb with ⟨rfl, -⟩ | ⟨-, hb⟩
        · exact absurd rfl hc
        · exact ⟨b, rfl, hb⟩

/-! ## The indices of the instructions -/

/-- One index stands for one block. -/
def Consistent (L : List Block) : Prop := ∀ b ∈ L, ∀ c ∈ L, b.index = c.index → b = c

theorem consistent_of_nodup (h : (L.map (·.index)).Nodup) : Consistent L :=
  fun _ hb _ hc he => List.inj_on_of_nodup_map h hb hc he

/-- The instruction at place `k` of `b` has the index `i`. -/
def At (L : List Block) (b : Block) (k i : Nat) : Prop :=
  ∃ s, Placed L b s ∧ k < b.statements.length ∧ i = s + k

theorem Consistent.exists_placed (h : Consistent L) (hb : b ∈ L) : ∃ s, Placed L b s := by
  obtain ⟨c, s, hc, hs⟩ := Lowering.exists_placed hb
  exact ⟨s, h c hs.mem b hb hc ▸ hs⟩

theorem Consistent.exists_at (h : Consistent L) (hb : b ∈ L) (hk : k < b.statements.length) :
    ∃ i, At L b k i := by
  obtain ⟨s, hs⟩ := h.exists_placed hb
  exact ⟨s + k, s, hs, hk, rfl⟩

namespace At

theorem mem (h : At L b k i) : b ∈ L := by
  obtain ⟨s, hs, -⟩ := h
  exact hs.mem

theorem lt_length (h : At L b k i) : k < b.statements.length := by
  obtain ⟨s, -, hk, -⟩ := h
  exact hk

theorem lt_total (h : At L b k i) : i < total L := by
  obtain ⟨s, hs, hk, rfl⟩ := h
  have := hs.add_le_total
  omega

theorem index_unique {i' : Nat} (h : At L b k i) (h' : At L b k i') : i = i' := by
  obtain ⟨s, hs, -, rfl⟩ := h
  obtain ⟨s', hs', -, rfl⟩ := h'
  rw [(hs.unique hs' rfl).2]

/-- An index belongs to one place of one block. -/
theorem unique (h : At L b k i) (h' : At L c k' i) : b = c ∧ k = k' := by
  obtain ⟨s, hs, hk, rfl⟩ := h
  obtain ⟨s', hs', hk', he⟩ := h'
  obtain ⟨hb, -, hkk⟩ := hs.disjoint hs' hk hk' he
  exact ⟨hb, hkk⟩

theorem succ (h : At L b k i) (hk : k + 1 < b.statements.length) : At L b (k + 1) (i + 1) := by
  obtain ⟨s, hs, -, rfl⟩ := h
  exact ⟨s, hs, hk, by omega⟩

theorem getElem?_statements (h : At L b k i) : (L.flatMap (·.statements))[i]? = b.statements[k]? := by
  obtain ⟨s, ⟨pre, post, rfl, rfl, -⟩, hk, rfl⟩ := h
  rw [List.flatMap_append, List.getElem?_append_right (by simp [total])]
  simp [total, List.getElem?_append_left hk]

end At

/-- The block and the place of each instruction. -/
def originsOf (L : List Block) : List (Nat × Nat) :=
  L.flatMap fun b => (List.range b.statements.length).map (b.index, ·)

theorem length_originsOf (L : List Block) : (originsOf L).length = total L := by
  induction L with
  | nil => rfl
  | cons b L ih => simp [originsOf, ← ih]

theorem lastIdx?_map_range (y n : Nat) :
    lastIdx? (· == (x, k)) ((List.range n).map (y, ·)) = if y = x ∧ k < n then some k else none := by
  induction n with
  | zero => simp [lastIdx?]
  | succ n ih =>
    rw [List.range_succ, List.map_append, List.map_singleton, lastIdx?_concat, ih]
    by_cases hn : n = k
    · subst hn
      by_cases hy : y = x <;> simp [hy]
    · have hlt : k < n + 1 ↔ k < n := by omega
      simp [hn, hlt]

theorem at_concat : At (L ++ [c]) b k i ↔
    (b = c ∧ k < b.statements.length ∧ i = total L + k) ∨ (c.index ≠ b.index ∧ At L b k i) := by
  simp only [At, placed_concat]
  constructor
  · rintro ⟨s, ⟨rfl, rfl⟩ | ⟨hne, hs⟩, hk, rfl⟩
    · exact .inl ⟨rfl, hk, rfl⟩
    · exact .inr ⟨hne, s, hs, hk, rfl⟩
  · rintro (⟨rfl, hk, rfl⟩ | ⟨hne, s, hs, hk, rfl⟩)
    · exact ⟨total L, .inl ⟨rfl, rfl⟩, hk, rfl⟩
    · exact ⟨s, .inr ⟨hne, hs⟩, hk, rfl⟩

/-- An instruction is found where its block is last listed. -/
theorem lastIdx?_originsOf (h : Consistent L) :
    lastIdx? (· == (x, k)) (originsOf L) = some i ↔ ∃ b, b.index = x ∧ At L b k i := by
  induction L using List.reverseRecOn with
  | nil => simp [originsOf, lastIdx?, At, Placed]
  | append_singleton L c ih =>
    have hL : Consistent L := fun b hb d hd => h b (by simp [hb]) d (by simp [hd])
    have horigins : originsOf (L ++ [c]) = originsOf L ++ (List.range c.statements.length).map (c.index, ·) := by
      simp [originsOf]
    rw [horigins, lastIdx?_append, lastIdx?_map_range, length_originsOf]
    split
    · rename_i hc
      obtain ⟨rfl, hk⟩ := hc
      constructor
      · intro he
        cases he
        exact ⟨c, rfl, at_concat.2 (.inl ⟨rfl, hk, rfl⟩)⟩
      · rintro ⟨b, hb, hat⟩
        rcases at_concat.1 hat with ⟨-, -, rfl⟩ | ⟨hne, -⟩
        · rfl
        · exact absurd hb.symm hne
    · rename_i hc
      refine (ih hL).trans (exists_congr fun b => and_congr_right fun hb => ?_)
      rw [at_concat]
      constructor
      · intro hat
        refine .inr ⟨fun hcb => hc ⟨hcb.trans hb, ?_⟩, hat⟩
        -- The listing at the end would be of the same block.
        rw [h c (by simp) b (by simp [hat.mem]) hcb]
        exact hat.lt_length
      · rintro (⟨rfl, hk, -⟩ | ⟨-, hat⟩)
        · exact absurd ⟨hb, hk⟩ hc
        · exact hat

/-- An index stands for the place of a block in one of its listings. -/
theorem getElem?_originsOf_eq_some : (originsOf L)[i]? = some (x, k) ↔
    ∃ pre b post, L = pre ++ b :: post ∧ b.index = x ∧ k < b.statements.length ∧ i = total pre + k := by
  constructor
  · intro hi
    induction L generalizing i with
    | nil => simp [originsOf] at hi
    | cons b L ih =>
      have horigins : originsOf (b :: L) = (List.range b.statements.length).map (b.index, ·) ++ originsOf L := by
        simp [originsOf]
      rw [horigins] at hi
      by_cases hlt : i < b.statements.length
      · rw [List.getElem?_append_left (by simpa using hlt)] at hi
        simp only [List.getElem?_map, List.getElem?_range hlt, Option.map_some, Option.some.injEq,
          Prod.mk.injEq] at hi
        obtain ⟨rfl, rfl⟩ := hi
        exact ⟨[], b, L, rfl, rfl, hlt, by simp⟩
      · rw [List.getElem?_append_right (by simpa using hlt)] at hi
        obtain ⟨pre, c, post, rfl, hc, hk, hi'⟩ := ih hi
        refine ⟨b :: pre, c, post, rfl, hc, hk, ?_⟩
        simp only [List.length_map, List.length_range] at hi'
        rw [total_cons]
        omega
  · rintro ⟨pre, b, post, rfl, rfl, hk, rfl⟩
    have horigins : originsOf (pre ++ b :: post) =
        originsOf pre ++ ((List.range b.statements.length).map (b.index, ·) ++ originsOf post) := by
      simp [originsOf]
    rw [horigins, ← length_originsOf, List.getElem?_append_right (Nat.le_add_right ..),
      Nat.add_sub_cancel_left, List.getElem?_append_left (by simpa using hk)]
    simp [hk]

/-- Where no block is listed twice, every index is the last of its instruction. -/
theorem getElem?_originsOf_iff_at (h : (L.map (·.index)).Nodup) :
    (originsOf L)[i]? = some (x, k) ↔ ∃ b, b.index = x ∧ At L b k i := by
  rw [getElem?_originsOf_eq_some]
  constructor
  · rintro ⟨pre, b, post, rfl, rfl, hk, rfl⟩
    refine ⟨b, rfl, total pre, ⟨pre, post, rfl, rfl, fun c hc he => ?_⟩, hk, rfl⟩
    rw [List.map_append, List.map_cons] at h
    have hb := (List.nodup_cons.1 (List.nodup_append.1 h).2.1).1
    exact hb (he ▸ List.mem_map_of_mem hc)
  · rintro ⟨b, rfl, s, ⟨pre, post, rfl, rfl, -⟩, hk, rfl⟩
    exact ⟨pre, b, post, rfl, rfl, hk, rfl⟩

/-! ## The edges -/

/-- The edges out of a block, as pairs of indices. -/
def stepsOf (L : List Block) (b : Block) : List (Nat × Nat) :=
  match startOf? L b.index with
  | none => []
  | some s =>
    (List.range (b.statements.length - 1)).map (fun k => (s + k, s + k + 1)) ++
      (targets L b).map fun t => (s + b.statements.length - 1, t)

theorem blockEdges_eq (L : List Block) (b : Block) : blockEdges L b = (stepsOf L b).map Body.request := by
  cases h : startOf? L b.index with
  | none => simp [blockEdges, stepsOf, h]
  | some s => simp [blockEdges, stepsOf, h, chainEdges, Body.request, Function.comp_def]

/-- All edges of the layout. -/
def edgesOf (L : List Block) : List (Nat × Nat) := L.flatMap (stepsOf L)

theorem flatMap_blockEdges (L : List Block) : L.flatMap (blockEdges L) = (edgesOf L).map Body.request := by
  rw [edgesOf, List.map_flatMap]
  exact List.flatMap_congr fun b _ => blockEdges_eq L b

theorem mem_targets {t : Nat} : t ∈ targets L b ↔ ∃ c, c.index ∈ b.succs ∧ Placed L c t := by
  simp only [targets, List.mem_eraseDups, List.mem_filterMap, startOf?_eq_some_iff]
  constructor
  · rintro ⟨x, hx, c, rfl, hc⟩
    exact ⟨c, hx, hc⟩
  · rintro ⟨c, hx, hc⟩
    exact ⟨c.index, hx, c, rfl, hc⟩

/-- Control goes from one index to another: to the next place of a block, or from its last
place to the first of a successor. -/
inductive Step (L : List Block) (i j : Nat) : Prop where
  | next {b : Block} {k : Nat} : At L b k i → At L b (k + 1) j → Step L i j
  | jump {b c : Block} : At L b (b.statements.length - 1) i → c.index ∈ b.succs → At L c 0 j → Step L i j

section Edges

variable (hne : ∀ b ∈ L, b.statements ≠ [])

include hne in
theorem at_zero_iff : At L b 0 i ↔ Placed L b i := by
  constructor
  · rintro ⟨s, hs, -, rfl⟩
    exact hs
  · intro hi
    exact ⟨i, hi, List.length_pos_iff.2 (hne b hi.mem), rfl⟩

include hne in
theorem mem_stepsOf (hs : Placed L b s) {j : Nat} :
    (i, j) ∈ stepsOf L b ↔ (∃ k, At L b k i ∧ At L b (k + 1) j) ∨
      (At L b (b.statements.length - 1) i ∧ ∃ c, c.index ∈ b.succs ∧ At L c 0 j) := by
  have hstart : startOf? L b.index = some s := startOf?_eq_some_iff.2 ⟨b, rfl, hs⟩
  have hpos : 0 < b.statements.length := List.length_pos_iff.2 (hne b hs.mem)
  have hat : ∀ k i, At L b k i ↔ k < b.statements.length ∧ i = s + k := by
    intro k i
    constructor
    · rintro ⟨s', hs', hk, rfl⟩
      exact ⟨hk, by rw [(hs.unique hs' rfl).2]⟩
    · rintro ⟨hk, rfl⟩
      exact ⟨s, hs, hk, rfl⟩
  simp only [stepsOf, hstart, List.mem_append, List.mem_map, List.mem_range, Prod.mk.injEq, mem_targets,
    at_zero_iff hne, hat]
  constructor
  · rintro (⟨k, hk, rfl, rfl⟩ | ⟨t, ht, rfl, rfl⟩)
    · exact .inl ⟨k, by omega, by omega⟩
    · exact .inr ⟨by omega, ht⟩
  · rintro (⟨k, ⟨-, rfl⟩, hk, rfl⟩ | ⟨⟨-, rfl⟩, ht⟩)
    · exact .inl ⟨k, by omega, rfl, by omega⟩
    · exact .inr ⟨j, ht, by omega, rfl⟩

include hne in
theorem mem_edgesOf (hL : Consistent L) {j : Nat} : (i, j) ∈ edgesOf L ↔ Step L i j := by
  rw [edgesOf, List.mem_flatMap]
  constructor
  · rintro ⟨b, hb, hij⟩
    obtain ⟨s, hs⟩ := hL.exists_placed hb
    rcases (mem_stepsOf hne hs).1 hij with ⟨k, hi, hj⟩ | ⟨hi, c, hc, hj⟩
    · exact .next hi hj
    · exact .jump hi hc hj
  · rintro (⟨hi, hj⟩ | ⟨hi, hc, hj⟩)
    · obtain ⟨s, hs, -⟩ := id hi
      exact ⟨_, hs.mem, (mem_stepsOf hne hs).2 (.inl ⟨_, hi, hj⟩)⟩
    · obtain ⟨s, hs, -⟩ := id hi
      exact ⟨_, hs.mem, (mem_stepsOf hne hs).2 (.inr ⟨hi, _, hc, hj⟩)⟩

/-- The edges of a block leave its own instructions. -/
theorem exists_at_of_mem_stepsOf (hne : ∀ b ∈ L, b.statements ≠ []) (hs : Placed L b s) {e : Nat × Nat}
    (he : e ∈ stepsOf L b) : ∃ k, At L b k e.1 := by
  rcases (mem_stepsOf hne hs).1 he with ⟨k, hi, -⟩ | ⟨hi, -⟩
  · exact ⟨k, hi⟩
  · exact ⟨_, hi⟩

theorem nodup_eraseDups (l : List Nat) : l.eraseDups.Nodup := by
  induction hn : l.length using Nat.strongRecOn generalizing l with
  | ind n ih =>
    cases l with
    | nil => simp
    | cons a l =>
      rw [List.eraseDups_cons]
      refine List.nodup_cons.2 ⟨?_, ih _ ?_ _ rfl⟩
      · simp
      · have hle := List.length_filter_le (fun x => !x == a) l
        rw [← hn, List.length_cons]
        omega

theorem nodup_stepsOf (L : List Block) (b : Block) : (stepsOf L b).Nodup := by
  unfold stepsOf
  split
  · exact .nil
  · rename_i s _
    refine List.nodup_append.2 ⟨List.nodup_range.map ?_, (nodup_eraseDups _).map ?_, ?_⟩
    · intro k k' he
      simp only [Prod.mk.injEq] at he
      omega
    · intro t t' he
      simpa using he
    · rintro e he e' he' rfl
      simp only [List.mem_map, List.mem_range] at he he'
      obtain ⟨k, hk, rfl⟩ := he
      obtain ⟨t, -, ht⟩ := he'
      simp only [Prod.mk.injEq] at ht
      omega

include hne in
/-- Where no block is listed twice, no edge is. -/
theorem nodup_edgesOf (h : (L.map (·.index)).Nodup) : (edgesOf L).Nodup := by
  have hL := consistent_of_nodup h
  refine List.nodup_flatMap.2 ⟨fun b _ => nodup_stepsOf L b, ?_⟩
  refine (List.pairwise_map.1 h).imp_of_mem ?_
  intro b c hb hc hbc e he he'
  obtain ⟨s, hs⟩ := hL.exists_placed hb
  obtain ⟨s', hs'⟩ := hL.exists_placed hc
  obtain ⟨k, hk⟩ := exists_at_of_mem_stepsOf hne hs he
  obtain ⟨k', hk'⟩ := exists_at_of_mem_stepsOf hne hs' he'
  exact hbc (congrArg Block.index (hk.unique hk').1)

end Edges

theorem Step.lt_total {j : Nat} (h : Step L i j) : i < total L ∧ j < total L := by
  cases h with
  | next hi hj => exact ⟨hi.lt_total, hj.lt_total⟩
  | jump hi _ hj => exact ⟨hi.lt_total, hj.lt_total⟩

end ControlDependence.Lowering
