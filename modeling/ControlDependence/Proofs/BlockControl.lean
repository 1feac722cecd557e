-- SUMMARY: Only ends of blocks control anything, and the instructions of a block have the same controllers.
import ControlDependence.Proofs.Lowering
import ControlDependence.Proofs.PathDefinition

/-!
# Control dependence of blocks

If `v` is the only successor of `u` and `u` its only predecessor, then a path that comes to
either goes through both, unless it starts at `v`. So the two depend on the same branches.
Within a block each instruction and the next are related in this way, and a block depends
on branches as a whole.
-/
namespace ControlDependence

namespace Flow

variable {g : Flow} {X : Nat → Prop} {u v w x : Nat} {p : List Nat}

/-- Control goes from `u` to `v` only, and comes to `v` from `u` only. -/
structure Chained (g : Flow) (u v : Nat) : Prop where
  ne : u ≠ v
  succs_eq : g.succs u = [v]
  eq_of_succ : ∀ w, v ∈ g.succs w → w = u

namespace Chained

theorem path_tail (h : g.Chained u v) (hX : ∀ x, X x → g.succs x = []) (hp : g.Path X (u :: p)) :
    ∃ q, p = v :: q ∧ g.Path X (v :: q) := by
  cases hp with
  | stop hu =>
    have hnil := hX u hu
    rw [h.succs_eq] at hnil
    cases hnil
  | step hs hp =>
    rw [h.succs_eq] at hs
    cases List.mem_singleton.1 hs
    exact ⟨_, rfl, hp⟩

theorem reaches_iff (h : g.Chained u v) (hX : ∀ x, X x → g.succs x = []) : g.Reaches X u ↔ g.Reaches X v := by
  constructor
  · rintro ⟨p, hp⟩
    obtain ⟨q, -, hq⟩ := h.path_tail hX hp
    exact ⟨q, hq⟩
  · rintro ⟨q, hq⟩
    have hs : v ∈ g.succs u := by simp [h.succs_eq]
    exact ⟨v :: q, .step hs hq⟩

theorem postDominates (h : g.Chained u v) (hX : ∀ x, X x → g.succs x = []) (hu : g.Reaches X u) :
    g.PostDominates X v u := by
  refine ⟨hu, fun p hp => ?_⟩
  obtain ⟨q, rfl, -⟩ := h.path_tail hX hp
  simp

theorem not_postDominates (h : g.Chained u v) (hX : ∀ x, X x → g.succs x = []) : ¬ g.PostDominates X u v :=
  fun hpd => h.ne (hpd.antisymm (h.postDominates hX hpd.reaches))

/-- A path that comes to `v` comes from `u`. -/
theorem mem_of_path (h : g.Chained u v) (hp : g.Path X (w :: p)) (hv : v ∈ p) : u ∈ w :: p := by
  induction p generalizing w with
  | nil => cases hv
  | cons s p ih =>
    cases hp with
    | step hs hp =>
      rcases List.mem_cons.1 hv with rfl | hv
      · rw [h.eq_of_succ w hs]
        exact List.mem_cons_self ..
      · exact List.mem_cons_of_mem _ (ih hp hv)

theorem postDominates_iff (h : g.Chained u v) (hX : ∀ x, X x → g.succs x = []) (hw : w ≠ v) :
    g.PostDominates X u w ↔ g.PostDominates X v w := by
  constructor
  · intro hu
    exact hu.trans (h.postDominates hX hu.reaches)
  · intro hv
    refine ⟨hv.1, fun p hp => ?_⟩
    exact h.mem_of_path hp ((List.mem_cons.1 (hv.2 p hp)).resolve_left hw.symm)

theorem controlDepends_iff (h : g.Chained u v) (hX : ∀ x, X x → g.succs x = []) (hu : g.Reaches X u) :
    g.ControlDepends X u x ↔ g.ControlDepends X v x := by
  refine and_congr_right fun hbranch => ?_
  have hxu : x ≠ u := by
    rintro rfl
    simp [h.succs_eq] at hbranch
  have htaken : ∀ s ∈ g.succs x, (u = s ∨ g.PostDominates X u s ↔ v = s ∨ g.PostDominates X v s) := by
    intro s hs
    -- No branch leads to `v`.
    have hsv : s ≠ v := by
      rintro rfl
      exact hxu (h.eq_of_succ x hs)
    constructor
    · rintro (rfl | hpd)
      · exact .inr (h.postDominates hX hu)
      · exact .inr ((h.postDominates_iff hX hsv).1 hpd)
    · rintro (rfl | hpd)
      · exact absurd rfl hsv
      · exact .inr ((h.postDominates_iff hX hsv).2 hpd)
  have hmust : u ≠ x ∧ g.PostDominates X u x ↔ v ≠ x ∧ g.PostDominates X v x := by
    constructor
    · rintro ⟨-, hpd⟩
      have hvx : v ≠ x := by
        rintro rfl
        exact h.not_postDominates hX hpd
      exact ⟨hvx, (h.postDominates_iff hX hvx.symm).1 hpd⟩
    · rintro ⟨hvx, hpd⟩
      exact ⟨hxu.symm, (h.postDominates_iff hX hvx.symm).2 hpd⟩
  rw [hmust]
  exact and_congr_left' (exists_congr fun s => and_congr_right (htaken s))

end Chained

end Flow

namespace Lowering

variable {r : Routine} {l : Lowered} {L : List Block} {b c : Block} {i i' j k k' : Nat}

theorem Step.exists_at (h : Step L i j) : (∃ b k, At L b k i) ∧ ∃ c k, At L c k j := by
  cases h with
  | next hi hj => exact ⟨⟨_, _, hi⟩, _, _, hj⟩
  | jump hi _ hj => exact ⟨⟨_, _, hi⟩, _, _, hj⟩

/-- Inside a block control goes on to the next instruction. -/
theorem At.step_iff (hi : At L b k i) (hk : k + 1 < b.statements.length) : Step L i j ↔ j = i + 1 := by
  constructor
  · intro hstep
    cases hstep with
    | next hi' hj =>
      obtain ⟨rfl, rfl⟩ := hi.unique hi'
      exact hj.index_unique (hi.succ hk)
    | jump hi' =>
      obtain ⟨rfl, rfl⟩ := hi.unique hi'
      omega
  · rintro rfl
    exact .next hi (hi.succ hk)

/-- What is not the first instruction of a block is come to from the one before. -/
theorem At.eq_of_step (hj : At L b (k + 1) j) (hi : At L b k i) (hstep : Step L i' j) : i' = i := by
  cases hstep with
  | next hi' hj' =>
    obtain ⟨rfl, hk⟩ := hj.unique hj'
    cases hk
    exact hi'.index_unique hi
  | jump _ _ hj' =>
    obtain ⟨-, hk⟩ := hj.unique hj'
    cases hk

namespace Lowers

variable (h : Lowers r l) (hr : Consistent r.blocks)

include h hr

theorem chained (hi : At r.layout b k i) (hk : k + 1 < b.statements.length) :
    l.body.flow.Chained i (i + 1) where
  ne := by omega
  succs_eq := by
    have hperm : (l.body.flow.succs i).Perm [i + 1] := by
      refine (List.perm_ext_iff_of_nodup (h.holds.succs_nodup i) (List.nodup_singleton _)).2 fun j => ?_
      rw [h.mem_succs hr, hi.step_iff hk, List.mem_singleton]
    exact List.perm_singleton.1 hperm
  eq_of_succ w hw := (hi.succ hk).eq_of_step hi ((h.mem_succs hr).1 hw)

/-- A branch is the last instruction of a block. -/
theorem exists_last_of_branch (hi : 2 ≤ (l.body.flow.succs i).length) :
    ∃ b ∈ r.blocks, l.indexOf? b.index (b.statements.length - 1) = some i := by
  obtain ⟨j, hj⟩ := List.exists_mem_of_length_pos (Nat.lt_of_lt_of_le Nat.zero_lt_two hi)
  obtain ⟨⟨b, k, hat⟩, -⟩ := ((h.mem_succs hr).1 hj).exists_at
  have hb := mem_layout.1 hat.mem
  have hlast : k = b.statements.length - 1 := by
    by_contra hne
    have hk : k + 1 < b.statements.length := by
      have := hat.lt_length
      omega
    simp [(h.chained hr hat hk).succs_eq] at hi
  exact ⟨b, hb, (h.indexOf?_iff hr hb).2 (hlast ▸ hat)⟩

/-- An instruction depends on what the first one of its block depends on. -/
theorem controlDepends_first {X : Nat → Prop} (hX : ∀ x, X x → l.body.flow.succs x = [])
    (hi : At r.layout b k i) (hi' : At r.layout b 0 i') :
    (l.body.flow.Reaches X i ↔ l.body.flow.Reaches X i') ∧
      (l.body.flow.Reaches X i' →
        ∀ x, l.body.flow.ControlDepends X i x ↔ l.body.flow.ControlDepends X i' x) := by
  induction k generalizing i with
  | zero =>
    obtain rfl := hi.index_unique hi'
    exact ⟨.rfl, fun _ _ => .rfl⟩
  | succ k ih =>
    -- The instruction is chained to the one before it.
    obtain ⟨s, hs, hk, rfl⟩ := hi
    have hat : At r.layout b k (s + k) := ⟨s, hs, Nat.lt_of_succ_lt hk, rfl⟩
    have hchain := h.chained hr hat hk
    obtain ⟨hreach, hdep⟩ := ih hat
    refine ⟨(hchain.reaches_iff hX).symm.trans hreach, fun hi' x => ?_⟩
    exact (hchain.controlDepends_iff hX (hreach.2 hi')).symm.trans (hdep hi' x)

theorem controlDepends_iff {X : Nat → Prop} (hX : ∀ x, X x → l.body.flow.succs x = [])
    (hi : At r.layout b k i) (hi' : At r.layout b k' i') (hreach : l.body.flow.Reaches X i) (x : Nat) :
    l.body.flow.ControlDepends X i' x ↔ l.body.flow.ControlDepends X i x := by
  have hpos : 0 < b.statements.length := Nat.zero_lt_of_lt hi.lt_length
  obtain ⟨s, hs⟩ := hr.layout.exists_at hi.mem hpos
  obtain ⟨hr₁, hdep₁⟩ := h.controlDepends_first hr hX hi hs
  obtain ⟨-, hdep₂⟩ := h.controlDepends_first hr hX hi' hs
  exact (hdep₂ (hr₁.1 hreach) x).trans (hdep₁ (hr₁.1 hreach) x).symm

/-- Where no block ends the routine, nothing does. -/
theorem not_reaches {X : Nat → Prop} (hX : ∀ x, X x → l.body.flow.succs x = []) (hp : r.Proper)
    (hnone : ∀ b ∈ r.blocks, b.exit = .none) (hi : At r.layout b k i) : ¬ l.body.flow.Reaches X i := by
  rintro ⟨p, hpath⟩
  -- The path never leaves the blocks, and in a block there is always a successor.
  induction p generalizing i b k with
  | nil =>
    cases hpath with
    | stop hx =>
      obtain ⟨j, hj⟩ := h.exists_mem_succs hr hp hnone hi
      rw [hX i hx] at hj
      cases hj
  | cons s p ih =>
    cases hpath with
    | step hs hpath =>
      obtain ⟨-, c, k', hat⟩ := ((h.mem_succs hr).1 hs).exists_at
      exact ih hat hpath

variable {opts : Options} {cut : Option Cutoff} {a : Analysis}

/-- If some instruction can reach an exit, an exit is in last place and the table is right. -/
theorem correct (hp : r.Proper) (ha : (Outcome.of opts cut (some (.built l.body))).result = .ok a)
    (hi : At r.layout b k i) (hreach : l.body.flow.Reaches (l.body.flow.Exit opts.exitRoots) i) :
    a.table.Correct l.body.flow (l.body.flow.Exit opts.exitRoots) := by
  obtain ⟨c, hc, hends⟩ : ∃ c ∈ r.blocks, c.exit ≠ .none := by
    by_contra hnone
    push Not at hnone
    exact h.not_reaches hr (fun x hx => hx.2.1) hp hnone hi hreach
  have hsize : (Code.built l.body).size = l.body.size := Body.flow_size l.body
  exact Outcome.correct_of_last_exit h.holds.check (hsize ▸ h.succs_last hr hp hc hends) ha

end Lowers

variable {opts : Options} {cut : Option Cutoff} {a : Analysis}

/-- In an analysis of a lowered routine every controller is the last instruction of a
block, and the instructions of a block from where an exit can be reached have the same
controllers. -/
theorem controllersOf_constant_on_blocks (hr : Consistent r.blocks) (hp : r.Proper)
    (hl : lower (some r) = .ok l) (ha : (Outcome.of opts cut (some (.built l.body))).result = .ok a) :
    (∀ x y : Int, x ∈ a.controllersOf y → ∃ b ∈ r.blocks, ∃ i : Nat,
        x = i ∧ l.indexOf? b.index (b.statements.length - 1) = some i) ∧
      ∀ b ∈ r.blocks, ∀ k i : Nat, l.indexOf? b.index k = some i →
        l.body.flow.Reaches (l.body.flow.Exit opts.exitRoots) i →
        ∀ k' i' : Nat, l.indexOf? b.index k' = some i' →
          ∀ x : Int, x ∈ a.controllersOf i' ↔ x ∈ a.controllersOf i := by
  have h := lowers_of_lower hl
  have hc := h.holds.check
  have hX : ∀ x, l.body.flow.Exit opts.exitRoots x → l.body.flow.succs x = [] := fun x hx => hx.2.1
  refine ⟨fun x y hx => ?_, fun b hb k i hi hreach k' i' hi' x => ?_⟩
  · obtain ⟨n, hn, rfl, -⟩ := (Outcome.mem_controllersOf_iff_exists hc ha).1 hx
    obtain ⟨b, hb, hi⟩ := h.exists_last_of_branch hr hn
    exact ⟨b, hb, n, rfl, hi⟩
  · have hat := (h.indexOf?_iff hr hb).1 hi
    have hat' := (h.indexOf?_iff hr hb).1 hi'
    have hcorrect := h.correct hr hp ha hat hreach
    have hsame : ∀ n : Nat, (n : Int) ∈ a.controllersOf i' ↔ (n : Int) ∈ a.controllersOf i := by
      intro n
      rw [Outcome.mem_controllersOf_iff hc ha hcorrect, Outcome.mem_controllersOf_iff hc ha hcorrect]
      exact h.controlDepends_iff hr hX hat hat' hreach n
    constructor
    · intro hx
      obtain ⟨n, -, rfl, -⟩ := (Outcome.mem_controllersOf_iff_exists hc ha).1 hx
      exact (hsame n).1 hx
    · intro hx
      obtain ⟨n, -, rfl, -⟩ := (Outcome.mem_controllersOf_iff_exists hc ha).1 hx
      exact (hsame n).2 hx

/-- The two instructions of the block that panics have the same controllers. -/
theorem controllersOf_loopOrReturn : Consistent loopOrReturn.blocks ∧ loopOrReturn.Proper ∧
    ∃ l a, lower (some loopOrReturn) = .ok l ∧
      (Outcome.of {} none (some (.built l.body))).result = .ok a ∧
      (l.indexOf? 3 0 = some 3 ∧ l.indexOf? 3 1 = some 4 ∧ l.body.flow.Reaches (l.body.flow.Exit true) 3) ∧
      (∀ x y : Int, x ∈ a.controllersOf y → ∃ b ∈ loopOrReturn.blocks, ∃ i : Nat,
        x = i ∧ l.indexOf? b.index (b.statements.length - 1) = some i) ∧
      ∀ x : Int, x ∈ a.controllersOf (4 : Nat) ↔ x ∈ a.controllersOf (3 : Nat) := by
  have hr : Consistent loopOrReturn.blocks := consistent_of_nodup (by decide)
  have hp : loopOrReturn.Proper := ⟨by decide, by decide⟩
  obtain ⟨l, hl, h0, h1, hreach⟩ : ∃ l, lower (some loopOrReturn) = .ok l ∧ l.indexOf? 3 0 = some 3 ∧
      l.indexOf? 3 1 = some 4 ∧ l.body.flow.Reaches (l.body.flow.Exit true) 3 :=
    ⟨_, rfl, by decide +kernel, by decide +kernel, [4],
      .step (by decide +kernel) (.stop ⟨by decide +kernel, by decide +kernel, .inl rfl⟩)⟩
  have hmax : ({} : Options).maxPasses ≤ 0 := Int.le_refl 0
  obtain ⟨a, ha, -⟩ := Outcome.exists_result (lowers_of_lower hl).holds.check hmax
  obtain ⟨hlast, hsame⟩ := controllersOf_constant_on_blocks hr hp hl ha
  have hpanic := hsame (loopOrReturn.blocks.getLast (by decide)) (List.getLast_mem _) 0 3 h0 hreach 1 4 h1
  exact ⟨hr, hp, l, a, hl, ha, ⟨h0, h1, hreach⟩, hlast, hpanic⟩

end Lowering

end ControlDependence
