-- SUMMARY: When the relation is the path definition if any instruction may be last.
import ControlDependence.Proofs.PathDefinition

/-!
# Exactness of the relation

The numbering starts at the last instruction even if that is no exit. Then an immediate
post-dominator may fail to guard its instruction: some route first goes through an
instruction of higher rank. The table passes over it, and the branch is recorded as
deciding whether the post-dominator executes, which it does not. So where every
instruction can reach an exit, the relation is the one defined by paths exactly if every
immediate post-dominator guards its instruction.
-/
namespace ControlDependence

variable {g : Flow} {o : Numbering} {t : Table} {stop : PostDominator}

/-- `m` is on the chain of entries from an instruction. -/
inductive Table.Chain (t : Table) (m : Nat) : Nat → Prop where
  | here : Chain t m m
  | up {v w : Nat} : t.entry v = .instruction w → Chain t m w → Chain t m v

namespace Table.Solved

theorem postDominates_of_chain (h : t.Solved g o) {m v : Nat} (hc : Chain t m v)
    (hv : g.Reaches (o.Ends g) v) : g.PostDominates (o.Ends g) m v := by
  induction hc with
  | here => exact .refl hv
  | up he _ ih =>
    obtain ⟨-, hpd⟩ := h.postDominates he
    exact hpd.trans (ih hpd.reaches)

/-- A chain is a trail as long as it stays below what stops the trail. -/
theorem trail_of_chain (h : t.Solved g o) {m s : Nat} (hc : Chain t m s) (hs : g.Reaches (o.Ends g) s)
    (hstop : ∀ c : Nat, stop = .instruction c → c ≠ m ∧ g.PostDominates (o.Ends g) c m) :
    Trail t stop (.instruction s) m := by
  induction hc with
  | here => exact .here fun he => (hstop m he).1 rfl
  | @up s w he hc ih =>
    obtain ⟨-, hpd⟩ := h.postDominates he
    refine .next (fun hss => ?_) (he ▸ ih hpd.reaches)
    obtain ⟨hne, hsm⟩ := hstop s hss
    exact hne (hsm.antisymm (h.postDominates_of_chain (.up he hc) hs))

/-- The only successor of an instruction is its entry. -/
theorem entry_of_single (h : t.Solved g o) {v s : Nat} (hv : g.Reaches (o.Ends g) v)
    (hs : g.succs v = [s]) : t.entry v = .instruction s := by
  have honly : ∀ {u : Nat}, u ∈ g.succs v → u = s := fun hu => by simpa [hs] using hu
  have hafter : GuardsAfter g o s v := fun u p hr => .inl (honly (route_cons_cons.1 hr).1)
  have hmem : ∀ p, g.Path (o.Ends g) (v :: p) → s ∈ p := by
    intro p hp
    cases hp with
    | stop hx => exact absurd hx.2 (by simp [hs])
    | step hu _ => exact honly hu ▸ List.mem_cons_self ..
  have hpd : g.PostDominates (o.Ends g) s v := ⟨hv, fun p hp => List.mem_cons_of_mem _ (hmem p hp)⟩
  have hne : s ≠ v := by
    rintro rfl
    obtain ⟨p, hp⟩ := hv
    obtain ⟨q, hq, hnd, -⟩ := hp.exists_nodup
    exact (List.nodup_cons.1 hnd).1 (hmem q hq)
  refine h.entry_eq ⟨hne, hpd, fun z hzv _ hz => ?_⟩ hafter
  exact hz.of_succ hzv (by simp [hs]) hpd.reaches

section Sound

variable (hall : ∀ v s, s ∈ g.succs v → g.Reaches (o.Ends g) s)
  (hsound : ∀ x y : Nat, 2 ≤ (g.succs x).length → Relation.Contributes g t x y →
    ¬ (y ≠ x ∧ g.PostDominates (o.Ends g) y x))

include hall hsound in
/-- If no branch is recorded against one of its post-dominators, no entry is past a
post-dominator that is on the chain of a successor. -/
theorem exists_entry_of_chain (h : t.Solved g o) {v m s : Nat} (hm : g.PostDominates (o.Ends g) m v)
    (hmv : m ≠ v) (hs : s ∈ g.succs v) (hchain : Chain t m s) :
    ∃ w : Nat, t.entry v = .instruction w ∧ g.PostDominates (o.Ends g) m w := by
  have hsr := hall v s hs
  -- An entry past `m` would leave `m` on the trail from `s`.
  have hpast : ¬ ∀ c : Nat, t.entry v = .instruction c → c ≠ m ∧ g.PostDominates (o.Ends g) c m := by
    intro hstop
    refine hsound v m ?_ ⟨s, hs, h.trail_of_chain hchain hsr hstop⟩ ⟨hmv, hm⟩
    by_contra hlen
    have hone : (g.succs v).length = 1 := by
      have := List.length_pos_of_mem hs
      omega
    obtain ⟨u, hu⟩ := List.length_eq_one_iff.1 hone
    obtain rfl : s = u := by simpa [hu] using hs
    obtain ⟨hsm, hpd⟩ := hstop s (h.entry_of_single hm.1 hu)
    exact hsm (hpd.antisymm (hm.of_succ hmv hs hsr))
  push Not at hpast
  obtain ⟨w, he, hw⟩ := hpast
  refine ⟨w, he, ?_⟩
  by_cases hwm : w = m
  · rw [hwm]
    exact .refl hm.reaches
  · exact (hm.total (h.postDominates he).2).resolve_right (hw hwm)

include hall hsound in
/-- If no branch is recorded against one of its post-dominators, all post-dominators are
on the chain. -/
theorem chain_of_postDominates (h : t.Solved g o) {v m : Nat} {p : List Nat}
    (hp : g.Path (· = m) (v :: p)) (hm : g.PostDominates (o.Ends g) m v) : Chain t m v := by
  induction hk : p.length using Nat.strongRecOn generalizing v p with
  | ind k ih =>
    by_cases hmv : m = v
    · exact hmv ▸ .here
    · cases hp with
      | stop hv => exact absurd hv.symm hmv
      | @step _ s p hs hp =>
        have hms := hm.of_succ hmv hs (hall v s hs)
        have hchain : Chain t m s := ih p.length (by simp at hk; omega) hp hms rfl
        obtain ⟨w, he, hmw⟩ := h.exists_entry_of_chain hall hsound hm hmv hs hchain
        refine .up he ?_
        by_cases hwm : w = m
        · exact hwm ▸ .here
        · obtain ⟨hwv, hw⟩ := h.postDominates he
          obtain ⟨q, hq, hpath⟩ := hw.exists_shorter hwv hmw hwm (.step hs hp)
          exact ih q.length (hk ▸ hq) hpath hmw rfl

include hall hsound in
theorem guardsAfter_of_sound (h : t.Solved g o) {v m : Nat}
    (hm : g.ImmediatelyPostDominates (o.Ends g) m v) : GuardsAfter g o m v := by
  obtain ⟨hne, hpd, hnear⟩ := hm
  obtain ⟨p, hp⟩ := hpd.1
  obtain ⟨l, r, hlr⟩ := List.append_of_mem (hpd.2 p hp)
  obtain ⟨q, -, hq⟩ := hp.take (Y := (· = m)) hlr rfl
  cases h.chain_of_postDominates hall hsound hq hpd with
  | here => exact absurd rfl hne
  | @up _ w he hc =>
    obtain ⟨hwv, hw⟩ := h.postDominates he
    by_cases hwm : w = m
    · exact h.exact.entry v m (hwm ▸ he)
    · have hmw := h.postDominates_of_chain hc hw.reaches
      exact absurd ((hnear w hwv hwm hw).antisymm hmw) hwm

end Sound

end Table.Solved

namespace Outcome

variable {code : Code}

/-- Where every instruction can reach an exit, the analysis succeeds under the default
options, and its relation is the one defined by paths exactly if on every route out of
an instruction its immediate post-dominator comes before anything of higher rank. That
is so if the last instruction is an exit. -/
theorem controllersOf_exact_iff_guarded (hc : code.check = .ok ())
    (hall : ∀ v < code.size, code.flow.Reaches (code.flow.Exit true) v) :
    ∃ a, (Outcome.of {} none (some code)).result = .ok a ∧
      ((∀ x y : Nat, (x : Int) ∈ a.controllersOf y ↔
          code.flow.ControlDepends (code.flow.Exit true) y x) ↔
        ∀ v m : Nat, code.flow.ImmediatelyPostDominates (code.flow.Exit true) m v →
          GuardsAfter code.flow a.numbering m v) ∧
      (code.flow.isExit (code.size - 1) = true →
        ∀ v m : Nat, code.flow.ImmediatelyPostDominates (code.flow.Exit true) m v →
          GuardsAfter code.flow a.numbering m v) := by
  have hg := Code.flow_wellFormed hc
  have hmax : ({} : Options).maxPasses ≤ 0 := Int.le_refl 0
  obtain ⟨a, hok, -⟩ := exists_result hc hmax
  obtain ⟨hnum, hsolved, -⟩ := solved_of_result hc hok
  rw [Numbering.exit_eq_ends hg true] at hall ⊢
  refine ⟨a, hok, ?_⟩
  rw [hnum]
  refine ⟨⟨fun heq v m hm => ?_, fun hguard => ?_⟩, fun hlast v m hm => ?_⟩
  · have hsucc : ∀ v s, s ∈ code.flow.succs v → code.flow.Reaches _ s :=
      fun v s hs => hall s (hg.succs_lt v s hs)
    refine hsolved.guardsAfter_of_sound hsucc (fun x y hx hcontr => ?_) hm
    exact ((heq x y).1 ((mem_controllersOf_iff_contributes hc hok).2 ⟨hx, hcontr⟩)).2.2
  · exact mem_controllersOf_iff hc hok (hsolved.correct hguard)
  · exact guardsAfter_of_last_exit hg (List.isEmpty_iff.1 hlast) hm.1 hm.2.1

theorem reaches_twoEntryLoop {v : Nat} (hv : v < twoEntryLoop.size) :
    twoEntryLoop.flow.Reaches (twoEntryLoop.flow.Exit true) v := by
  have htwo : twoEntryLoop.flow.Path (twoEntryLoop.flow.Exit true) [2] :=
    .stop ⟨by decide +kernel, by decide +kernel, .inl rfl⟩
  have hone : twoEntryLoop.flow.Path (twoEntryLoop.flow.Exit true) [1, 2] := .step (by decide +kernel) htwo
  have hsize : twoEntryLoop.size = 4 := by decide +kernel
  rw [hsize] at hv
  match v, hv with
  | 0, _ => exact ⟨[1, 2], .step (by decide +kernel) hone⟩
  | 1, _ => exact ⟨[2], hone⟩
  | 2, _ => exact ⟨[], htwo⟩
  | 3, _ => exact ⟨[1, 2], .step (by decide +kernel) hone⟩

theorem controllersOf_exact_iff_twoEntryLoop : twoEntryLoop.check = .ok () ∧
    (∀ v < twoEntryLoop.size, twoEntryLoop.flow.Reaches (twoEntryLoop.flow.Exit true) v) ∧
    ∃ a, (Outcome.of {} none (some twoEntryLoop)).result = .ok a ∧
      ((∀ x y : Nat, (x : Int) ∈ a.controllersOf y ↔
          twoEntryLoop.flow.ControlDepends (twoEntryLoop.flow.Exit true) y x) ↔
        ∀ v m : Nat, twoEntryLoop.flow.ImmediatelyPostDominates (twoEntryLoop.flow.Exit true) m v →
          GuardsAfter twoEntryLoop.flow a.numbering m v) ∧
      (twoEntryLoop.flow.isExit (twoEntryLoop.size - 1) = true →
        ∀ v m : Nat, twoEntryLoop.flow.ImmediatelyPostDominates (twoEntryLoop.flow.Exit true) m v →
          GuardsAfter twoEntryLoop.flow a.numbering m v) := by
  have hc : twoEntryLoop.check = .ok () := by decide +kernel
  exact ⟨hc, fun _ => reaches_twoEntryLoop, controllersOf_exact_iff_guarded hc fun _ => reaches_twoEntryLoop⟩

/-- The branch at the entrance of the loop is recorded as deciding on an instruction
that executes whichever way it goes. -/
theorem controllersOf_twoEntryLoop_not_exact : twoEntryLoop.check = .ok () ∧
    (∀ v < twoEntryLoop.size, twoEntryLoop.flow.Reaches (twoEntryLoop.flow.Exit true) v) ∧
    ¬ ∃ a, (Outcome.of {} none (some twoEntryLoop)).result = .ok a ∧
      ∀ x y : Nat, (x : Int) ∈ a.controllersOf y ↔
        twoEntryLoop.flow.ControlDepends (twoEntryLoop.flow.Exit true) y x := by
  refine ⟨by decide +kernel, fun _ => reaches_twoEntryLoop, ?_⟩
  rintro ⟨a, ha, hexact⟩
  have hrecorded : (Outcome.of {} none (some twoEntryLoop)).result.toOption.map (·.controllersOf 1) =
      some [0, 1] := by decide +kernel
  rw [ha] at hrecorded
  have hlist : a.controllersOf (1 : Nat) = [0, 1] := Option.some.inj hrecorded
  have hmem : ((0 : Nat) : Int) ∈ a.controllersOf (1 : Nat) := by
    rw [hlist]
    decide
  refine ((hexact 0 1).1 hmem).2.2 ⟨by decide, reaches_twoEntryLoop (by decide +kernel), fun p hp => ?_⟩
  -- Both ways from 0 lead to 1: at once, or through 3, which leads nowhere else.
  have hzero : twoEntryLoop.flow.succs 0 = [1, 3] := by decide +kernel
  have hthree : twoEntryLoop.flow.succs 3 = [1] := by decide +kernel
  cases hp with
  | stop hx => exact absurd hx.2.1 (by simp [hzero])
  | step hs hp =>
    rw [hzero] at hs
    rcases List.mem_cons.1 hs with rfl | hs
    · simp
    · cases List.mem_singleton.1 hs
      cases hp with
      | stop hx => exact absurd hx.2.1 (by simp [hthree])
      | step hs hp =>
        rw [hthree] at hs
        cases List.mem_singleton.1 hs
        simp

end Outcome

end ControlDependence
