-- SUMMARY: Lowering fails only where instructions are missing, and its body has exactly the edges of the blocks.
import ControlDependence.Proofs.Placement

/-!
# The lowered body

A routine is lowered unless it has no blocks or a block without instructions: the edges
are between instructions of the body, and none is asked for twice if no block is listed
twice. The body has the edges that `Step` describes, and so an instruction without
successors is the end of a block that ends the routine. One of these blocks is laid out
last.
-/
namespace ControlDependence.Lowering

variable {r : Routine} {l : Lowered} {L : List Block} {b c : Block} {i j k : Nat}

/-! ## When lowering succeeds -/

/-- There are blocks, and instructions in each. -/
structure Routine.Filled (r : Routine) : Prop where
  blocks : r.blocks ≠ []
  statements : ∀ b ∈ r.blocks, b.statements ≠ []

theorem Routine.not_filled_iff : ¬ r.Filled ↔ r.blocks = [] ∨ ∃ b ∈ r.blocks, b.statements = [] := by
  constructor
  · intro h
    by_contra hn
    push Not at hn
    exact h ⟨hn.1, hn.2⟩
  · rintro (hr | ⟨b, hb, hs⟩) h
    · exact h.blocks hr
    · exact h.statements b hb hs

theorem Routine.Filled.layout (h : r.Filled) : ∀ b ∈ r.layout, b.statements ≠ [] :=
  fun b hb => h.statements b (mem_layout.1 hb)

theorem lower_of_not_filled (h : ¬ r.Filled) : lower (some r) = .error (.noBody r.name) ∨
    ∃ b ∈ r.blocks, b.statements = [] ∧ lower (some r) = .error (.emptyBlock r.name b.index) := by
  by_cases hr : r.layout = []
  · left
    simp [lower, hr]
  · right
    have hblocks : r.blocks ≠ [] := fun hnil => hr ((exitLast_layout r).perm.trans (.of_eq hnil)).eq_nil
    obtain ⟨b, hb, hs⟩ := (Routine.not_filled_iff.1 h).resolve_left hblocks
    cases hfind : r.layout.find? (·.statements.isEmpty) with
    | none =>
      have hn := List.find?_eq_none.1 hfind b (mem_layout.2 hb)
      simp [hs] at hn
    | some c =>
      have hc := List.find?_some hfind
      refine ⟨c, mem_layout.1 (List.mem_of_find?_eq_some hfind), by simpa using hc, ?_⟩
      simp [lower, hr, hfind]

/-- What lowering makes of a routine that can be lowered. -/
theorem lower_eq_ok_iff (h : r.Filled) : lower (some r) = .ok l ↔
    ∃ body, Body.ofEdges (r.layout.flatMap fun b => b.statements.map (·.label))
      ((edgesOf r.layout).map Body.request) = .ok body ∧
        l = { name := r.name, layout := r.layout, body := body.freeze } := by
  have hr : r.layout ≠ [] := fun hnil => h.blocks ((exitLast_layout r).perm.symm.trans (.of_eq hnil)).eq_nil
  have hfind : r.layout.find? (·.statements.isEmpty) = none :=
    List.find?_eq_none.2 fun b hb => by simp [h.layout b hb]
  rw [← flatMap_blockEdges]
  cases hbody : Body.ofEdges (r.layout.flatMap fun b => b.statements.map (·.label))
    (r.layout.flatMap (blockEdges r.layout)) with
  | error e => simp [lower, hr, hfind, hbody]
  | ok body =>
    have hlower : lower (some r) = .ok { name := r.name, layout := r.layout, body := body.freeze } := by
      simp [lower, hr, hfind, hbody]
    simp [hlower, eq_comm]

/-- The lowered form of a routine. -/
structure Lowers (r : Routine) (l : Lowered) : Prop where
  filled : r.Filled
  layout_eq : l.layout = r.layout
  holds : l.body.Holds (edgesOf r.layout)
  labels_eq : l.body.labels = l.statements.map (·.label)
  frozen : l.body.frozen = true

theorem lowers_of_lower (h : lower (some r) = .ok l) : Lowers r l := by
  by_cases hr : r.Filled
  · obtain ⟨body, hbody, rfl⟩ := (lower_eq_ok_iff hr).1 h
    obtain ⟨edges, he, hholds, hlabels, -⟩ := Body.holds_of_ofEdges hbody
    have hrequest : Function.Injective Body.request := fun e e' heq => by
      simpa [Body.request, Prod.ext_iff, Int.natCast_inj] using heq
    obtain rfl := List.map_injective_iff.2 hrequest he
    refine ⟨hr, rfl, hholds.freeze, ?_, rfl⟩
    exact hlabels.trans (by simp [Lowered.statements, List.map_flatMap])
  · rcases lower_of_not_filled hr with he | ⟨b, -, -, he⟩
    · rw [he] at h
      cases h
    · rw [he] at h
      cases h

theorem nodup_layout (h : (r.blocks.map (·.index)).Nodup) : (r.layout.map (·.index)).Nodup :=
  ((exitLast_layout r).perm.map _).nodup_iff.2 h

theorem exists_lower (h : r.Filled) (hnd : (r.blocks.map (·.index)).Nodup) : ∃ l, lower (some r) = .ok l := by
  have hlayout := nodup_layout hnd
  have hlen : (r.layout.flatMap fun b => b.statements.map (·.label)).length = total r.layout := by
    simp [total, List.length_flatMap]
  have hlt : ∀ e ∈ edgesOf r.layout, e.1 < total r.layout ∧ e.2 < total r.layout :=
    fun _ he => ((mem_edgesOf h.layout (consistent_of_nodup hlayout)).1 he).lt_total
  obtain ⟨body, hbody⟩ := Body.exists_ofEdges (nodup_edgesOf h.layout hlayout) (hlen ▸ hlt)
  exact ⟨_, (lower_eq_ok_iff h).2 ⟨body, hbody, rfl⟩⟩

/-- The only failures of a routine of distinct blocks are that instructions are missing. -/
theorem eq_of_lower_error (hnd : (r.blocks.map (·.index)).Nodup) {e : LoweringError}
    (h : lower (some r) = .error e) : ¬ r.Filled ∧
      (e = .noBody r.name ∨ ∃ b ∈ r.blocks, b.statements = [] ∧ e = .emptyBlock r.name b.index) := by
  have hr : ¬ r.Filled := by
    intro hr
    obtain ⟨l, hl⟩ := exists_lower hr hnd
    cases h.symm.trans hl
  refine ⟨hr, ?_⟩
  rcases lower_of_not_filled hr with he | ⟨b, hb, hs, he⟩
  · exact .inl (Except.error.inj (h.symm.trans he))
  · exact .inr ⟨b, hb, hs, Except.error.inj (h.symm.trans he)⟩

/-! ## Indices and edges -/

theorem Consistent.layout (hr : Consistent r.blocks) : Consistent r.layout :=
  fun b hb c hc => hr b (mem_layout.1 hb) c (mem_layout.1 hc)

namespace Lowers

theorem size_eq (h : Lowers r l) : l.body.size = total r.layout := by
  have hlen : l.body.labels.length = l.statements.length := by simp [h.labels_eq]
  simpa [Body.labels, Body.size, total, Lowered.statements, h.layout_eq] using hlen

theorem label_eq (h : Lowers r l) (i : Nat) : l.label i = (l.statements[i]?.map (·.label)).getD "" := by
  rw [Lowered.label, Body.label_natCast, h.labels_eq, List.getD_eq_getElem?_getD, List.getElem?_map]

theorem origins_eq (h : Lowers r l) : l.origins = originsOf r.layout := by
  rw [Lowered.origins, h.layout_eq, originsOf]

theorem indexOf?_iff (h : Lowers r l) (hr : Consistent r.blocks) (hb : b ∈ r.blocks) :
    l.indexOf? b.index k = some i ↔ At r.layout b k i := by
  rw [Lowered.indexOf?, h.origins_eq, lastIdx?_originsOf hr.layout]
  constructor
  · rintro ⟨c, hc, hat⟩
    rwa [hr b hb c (mem_layout.1 hat.mem) hc.symm]
  · exact fun hat => ⟨b, rfl, hat⟩

theorem mem_succs (h : Lowers r l) (hr : Consistent r.blocks) : j ∈ l.body.flow.succs i ↔ Step r.layout i j :=
  h.holds.mem_succs.trans (mem_edgesOf h.filled.layout hr.layout)

end Lowers

theorem exists_at_of_lt (hnd : (L.map (·.index)).Nodup) (hi : i < total L) : ∃ b k, At L b k i := by
  have hi' : i < (originsOf L).length := length_originsOf L ▸ hi
  obtain ⟨b, -, hat⟩ := (getElem?_originsOf_iff_at hnd).1 (List.getElem?_eq_getElem hi')
  exact ⟨b, _, hat⟩

/-! ## Where a routine ends -/

/-- Successors are blocks of the routine, and a block has none exactly if it ends the
routine. -/
structure Routine.Proper (r : Routine) : Prop where
  listed : ∀ b ∈ r.blocks, ∀ x ∈ b.succs, ∃ c ∈ r.blocks, c.index = x
  ends : ∀ b ∈ r.blocks, b.succs = [] ↔ b.exit ≠ .none

theorem not_step_of_last (hi : At L b (b.statements.length - 1) i) (hb : b.succs = []) : ¬ Step L i j := by
  intro hstep
  cases hstep with
  | next hi' hj =>
    obtain ⟨rfl, rfl⟩ := hi.unique hi'
    have := hj.lt_length
    omega
  | jump hi' hc _ =>
    obtain ⟨rfl, -⟩ := hi.unique hi'
    rw [hb] at hc
    cases hc

theorem At.exists_step (hi : At L b k i) (hL : Consistent L) (hc : c ∈ L) (hcs : c.statements ≠ [])
    (hbc : c.index ∈ b.succs) : ∃ j, Step L i j := by
  by_cases hk : k + 1 < b.statements.length
  · exact ⟨i + 1, .next hi (hi.succ hk)⟩
  · have hlast : k = b.statements.length - 1 := by
      have := hi.lt_length
      omega
    obtain ⟨j, hj⟩ := hL.exists_at hc (List.length_pos_iff.2 hcs)
    exact ⟨j, .jump (hlast ▸ hi) hbc hj⟩

theorem at_last (hb : b.statements ≠ []) :
    At (L ++ [b]) b (b.statements.length - 1) (total (L ++ [b]) - 1) := by
  have hpos := List.length_pos_iff.2 hb
  refine at_concat.2 (.inl ⟨rfl, by omega, ?_⟩)
  simp only [total_append, total_cons, total_nil]
  omega

/-- If any block ends the routine, the last instruction is the end of such a block. -/
theorem exists_ending_at_last (hr : r.Filled) (hb : b ∈ r.blocks) (hx : b.exit ≠ .none) :
    ∃ c ∈ r.blocks, c.exit ≠ .none ∧ At r.layout c (c.statements.length - 1) (total r.layout - 1) := by
  have hlayout := exitLast_layout r
  generalize r.layout = L at hlayout
  cases hlayout with
  | @returning pre post c hblocks hret =>
    have hc : c ∈ r.blocks := by simp [hblocks]
    exact ⟨c, hc, by simp [hret], at_last (hr.statements c hc)⟩
  | @panicking pre post c hblocks hpan =>
    have hc : c ∈ r.blocks := by simp [hblocks]
    exact ⟨c, hc, by simp [hpan], at_last (hr.statements c hc)⟩
  | unending hnone => exact absurd (hnone b hb) hx

namespace Lowers

theorem succs_last (h : Lowers r l) (hr : Consistent r.blocks) (hp : r.Proper) (hb : b ∈ r.blocks)
    (hx : b.exit ≠ .none) : l.body.flow.succs (l.body.size - 1) = [] := by
  obtain ⟨c, hc, hcx, hat⟩ := exists_ending_at_last h.filled hb hx
  rw [List.eq_nil_iff_forall_not_mem, h.size_eq]
  intro j hj
  exact not_step_of_last hat ((hp.ends c hc).2 hcx) ((h.mem_succs hr).1 hj)

theorem exists_mem_succs (h : Lowers r l) (hr : Consistent r.blocks) (hp : r.Proper)
    (hnone : ∀ b ∈ r.blocks, b.exit = .none) (hi : At r.layout b k i) : ∃ j, j ∈ l.body.flow.succs i := by
  have hb := mem_layout.1 hi.mem
  obtain ⟨x, hx⟩ := List.exists_mem_of_ne_nil b.succs fun hnil => (hp.ends b hb).1 hnil (hnone b hb)
  obtain ⟨c, hc, rfl⟩ := hp.listed b hb x hx
  obtain ⟨j, hj⟩ := hi.exists_step hr.layout (mem_layout.2 hc) (h.filled.statements c hc) hx
  exact ⟨j, (h.mem_succs hr).2 hj⟩

theorem isExit_last_or_forall (h : Lowers r l) (hnd : (r.blocks.map (·.index)).Nodup) (hp : r.Proper) :
    l.body.flow.isExit (l.body.size - 1) = true ∨ ∀ i < l.body.size, l.body.flow.isExit i = false := by
  have hr := consistent_of_nodup hnd
  by_cases hends : ∃ b ∈ r.blocks, b.exit ≠ .none
  · obtain ⟨b, hb, hx⟩ := hends
    exact .inl (List.isEmpty_iff.2 (h.succs_last hr hp hb hx))
  · push Not at hends
    refine .inr fun i hi => ?_
    obtain ⟨b, k, hat⟩ := exists_at_of_lt (nodup_layout hnd) (h.size_eq ▸ hi)
    obtain ⟨j, hj⟩ := h.exists_mem_succs hr hp hends hat
    exact List.isEmpty_eq_false_iff.2 (List.ne_nil_of_mem hj)

end Lowers

/-! ## The main statement -/

/-- The instructions and the edges of a routine, by the indices of its instructions. -/
structure Lowered.Represents (l : Lowered) (r : Routine) : Prop where
  /-- The blocks are in order, except that one which ends the routine is moved to the end. -/
  order : ∃ layout, ExitLast r.blocks layout ∧ l.statements = layout.flatMap (·.statements) ∧
    l.origins = originsOf layout
  size : l.body.size = l.statements.length ∧ l.body.size = l.origins.length
  label : ∀ i : Nat, l.label i = (l.statements[i]?.map (·.label)).getD ""
  indexOf_iff : ∀ x k i, l.indexOf? x k = some i ↔ l.origins[i]? = some (x, k)
  indexed : ∀ b ∈ r.blocks, ∀ k < b.statements.length,
    ∃ i, l.indexOf? b.index k = some i ∧ l.statements[i]? = b.statements[k]?
  /-- An edge goes to the next instruction of the same block, or from the last one of a block
  to the first of a successor. -/
  edge_iff : ∀ i j, j ∈ l.body.flow.succs i ↔
    (j = i + 1 ∧ ∃ b ∈ r.blocks, ∃ k, k + 1 < b.statements.length ∧ l.indexOf? b.index k = some i) ∨
      ∃ b ∈ r.blocks, ∃ c ∈ r.blocks, c.index ∈ b.succs ∧
        l.indexOf? b.index (b.statements.length - 1) = some i ∧ l.indexOf? c.index 0 = some j
  edges_nodup : ∀ i, (l.body.flow.succs i).Nodup
  frozen : l.body.frozen = true
  accepted : (Code.built l.body).check = .ok ()

theorem Lowers.represents (h : Lowers r l) (hnd : (r.blocks.map (·.index)).Nodup) : l.Represents r where
  order := by
    refine ⟨r.layout, exitLast_layout r, ?_, h.origins_eq⟩
    rw [Lowered.statements, h.layout_eq]
  size := by
    rw [h.size_eq, Lowered.statements, h.layout_eq, h.origins_eq, length_originsOf]
    exact ⟨rfl, rfl⟩
  label := h.label_eq
  indexOf_iff x k i := by
    have hlayout := nodup_layout hnd
    rw [Lowered.indexOf?, h.origins_eq, lastIdx?_originsOf (consistent_of_nodup hlayout),
      getElem?_originsOf_iff_at hlayout]
  indexed b hb k hk := by
    have hr := consistent_of_nodup hnd
    obtain ⟨i, hi⟩ := hr.layout.exists_at (mem_layout.2 hb) hk
    refine ⟨i, (h.indexOf?_iff hr hb).2 hi, ?_⟩
    rw [Lowered.statements, h.layout_eq]
    exact hi.getElem?_statements
  edge_iff i j := by
    have hr := consistent_of_nodup hnd
    rw [h.mem_succs hr]
    constructor
    · rintro (⟨hi, hj⟩ | ⟨hi, hbc, hj⟩)
      · have hb := mem_layout.1 hi.mem
        exact .inl ⟨hj.index_unique (hi.succ hj.lt_length), _, hb, _, hj.lt_length, (h.indexOf?_iff hr hb).2 hi⟩
      · have hb := mem_layout.1 hi.mem
        have hc := mem_layout.1 hj.mem
        exact .inr ⟨_, hb, _, hc, hbc, (h.indexOf?_iff hr hb).2 hi, (h.indexOf?_iff hr hc).2 hj⟩
    · rintro (⟨rfl, b, hb, k, hk, hi⟩ | ⟨b, hb, c, hc, hbc, hi, hj⟩)
      · have hat := (h.indexOf?_iff hr hb).1 hi
        exact .next hat (hat.succ hk)
      · exact .jump ((h.indexOf?_iff hr hb).1 hi) hbc ((h.indexOf?_iff hr hc).1 hj)
  edges_nodup := h.holds.succs_nodup
  frozen := h.frozen
  accepted := h.holds.check

/-- A routine of distinct blocks fails to be lowered only if it has no blocks or a block
without instructions. Otherwise its body represents it and is accepted, and if the blocks
without successors are those that end the routine, the last instruction is an exit or none
is. -/
theorem lower_represents_unless_empty (hdistinct : (r.blocks.map (·.index)).Nodup) :
    ((∃ e, lower (some r) = .error e) ↔ r.blocks = [] ∨ ∃ b ∈ r.blocks, b.statements = []) ∧
      (∀ name e, lower (some r) ≠ .error (.body name e)) ∧
      ∀ l, lower (some r) = .ok l → l.Represents r ∧
        (r.Proper → l.body.flow.isExit (l.body.size - 1) = true ∨
          ∀ i < l.body.size, l.body.flow.isExit i = false) := by
  refine ⟨?_, fun name e he => ?_, fun l hl => ?_⟩
  · rw [← Routine.not_filled_iff]
    constructor
    · rintro ⟨e, he⟩
      exact (eq_of_lower_error hdistinct he).1
    · intro hr
      rcases lower_of_not_filled hr with he | ⟨b, -, -, he⟩
      · exact ⟨_, he⟩
      · exact ⟨_, he⟩
  · rcases (eq_of_lower_error hdistinct he).2 with hne | ⟨b, -, -, hne⟩
    · cases hne
    · cases hne
  · have h := lowers_of_lower hl
    exact ⟨h.represents hdistinct, h.isExit_last_or_forall hdistinct⟩

/-- A branch between a return and a loop of one instruction, which leads to a panic. -/
def loopOrReturn : Routine where
  name := "f"
  blocks := [
    { index := 0, statements := [{ name := "t0", text := "x > 0" }, { text := "if t0 goto 1 else 2" }],
      succs := [1, 2] },
    { index := 1, statements := [{ text := "return", exit := .returns }], succs := [] },
    { index := 2, statements := [{ text := "if x goto 2 else 3" }], succs := [2, 2, 3] },
    { index := 3, statements := [{ name := "t1", text := "y" }, { text := "panic t1", exit := .panics }],
      succs := [] }]

theorem lower_loopOrReturn : (loopOrReturn.blocks.map (·.index)).Nodup ∧ loopOrReturn.Proper ∧
    ∃ l, lower (some loopOrReturn) = .ok l ∧ l.Represents loopOrReturn ∧
      (l.body.flow.isExit (l.body.size - 1) = true ∨ ∀ i < l.body.size, l.body.flow.isExit i = false) := by
  have hdistinct : (loopOrReturn.blocks.map (·.index)).Nodup := by decide
  have hp : loopOrReturn.Proper := ⟨by decide, by decide⟩
  obtain ⟨l, hl⟩ := exists_lower (r := loopOrReturn) ⟨by decide, by decide⟩ hdistinct
  obtain ⟨hrep, hexit⟩ := (lower_represents_unless_empty hdistinct).2.2 l hl
  exact ⟨hdistinct, hp, l, hl, hrep, hexit hp⟩

end ControlDependence.Lowering
