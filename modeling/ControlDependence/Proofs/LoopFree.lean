-- SUMMARY: Without loops the numbering is a topological order, and the first pass finds the whole table.
import Mathlib.Data.Fintype.Card
import Mathlib.Logic.Relation
import ControlDependence.Proofs.Settling
import ControlDependence.Proofs.Unresolved

/-!
# Graphs without loops

An edge against the ranks closes a loop, because from the interval in which it ends the
forest leads up again to its source. Without loops all edges therefore go up in rank, and
since a pass goes down through the ranks it finds the successors of an instruction done
before it. One pass makes the table exact, and a second one finds nothing to change.
-/
namespace ControlDependence

/-- No instruction can be reached from one of its successors. -/
def Flow.LoopFree (g : Flow) : Prop := ∀ v, ¬ Relation.TransGen (fun u w => w ∈ g.succs u) v v

variable {g : Flow} {o : Numbering} {u v : Nat}

namespace Flow.LoopFree

theorem of_measure {f : Nat → Nat} (h : ∀ u w, w ∈ g.succs u → f w < f u) : g.LoopFree := by
  have hlt : ∀ {u w}, Relation.TransGen (fun u w => w ∈ g.succs u) u w → f w < f u := by
    intro u w hpath
    induction hpath with
    | single hs => exact h _ _ hs
    | tail _ hs ih => exact Nat.lt_trans (h _ _ hs) ih
  exact fun v hv => Nat.lt_irrefl _ (hlt hv)

/-- There is no going on for ever. -/
theorem wellFounded (h : g.LoopFree) : WellFounded fun s v : Fin g.size => s.val ∈ g.succs v := by
  let After : Fin g.size → Fin g.size → Prop := fun s v =>
    Relation.TransGen (fun u w => w ∈ g.succs u) v s
  have : IsTrans (Fin g.size) After := ⟨fun _ _ _ hab hbc => hbc.trans hab⟩
  have : Std.Irrefl After := ⟨fun v => h v⟩
  exact Subrelation.wf (fun hs => .single hs) (Finite.wellFounded_of_trans_of_irrefl After)

theorem reaches_exit (h : g.LoopFree) (hg : g.WellFormed) (hv : v < g.size) : g.Reaches (g.Exit true) v := by
  induction hu : (⟨v, hv⟩ : Fin g.size) using h.wellFounded.induction generalizing v with
  | _ u ih =>
    subst hu
    cases hs : g.succs v with
    | nil => exact ⟨[], .stop ⟨hv, hs, .inl rfl⟩⟩
    | cons s rest =>
      have hmem : s ∈ g.succs v := by rw [hs]; exact List.mem_cons_self ..
      have hlt : s < g.size := hg.succs_lt v s hmem
      obtain ⟨p, hp⟩ := ih ⟨s, hlt⟩ hmem hlt rfl
      exact ⟨s :: p, .step hmem hp⟩

end Flow.LoopFree

theorem Flow.Path.exists_end {X : Nat → Prop} {p : List Nat} (h : g.Path X p) : ∃ x, X x := by
  induction h with
  | stop hx => exact ⟨_, hx⟩
  | step _ _ ih => exact ih

/-! ## Ranks -/

/-- The edges of the graph go up in rank. -/
def Numbering.Ascending (g : Flow) (o : Numbering) : Prop := ∀ u v : Nat, v ∈ g.succs u → o.rank u < o.rank v

theorem Rises.reflTransGen {P : Nat → Prop} (h : Rises g o P u v) :
    Relation.ReflTransGen (fun u w => w ∈ g.succs u) v u := by
  induction h with
  | here => exact .refl
  | up _ hs _ _ ih => exact .head hs ih

/-- Whatever can reach a ranked instruction is ranked. -/
theorem Numbering.Orders.rank_pos_of_path (ho : o.Orders g) {p : List Nat} (hp : g.Path (o.Ends g) (v :: p)) :
    0 < o.rank v := by
  obtain ⟨q, hq, -⟩ := Route.of_path hp
  exact hq.ranked ho (List.mem_cons_self ..)

namespace Flow.LoopFree

variable (h : g.LoopFree) (hg : g.WellFormed)

include h hg

theorem rank_pos (hv : v < g.size) : 0 < (Numbering.ofFlow g true).rank v := by
  have hreach := h.reaches_exit hg hv
  rw [Numbering.exit_eq_ends hg] at hreach
  obtain ⟨p, hp⟩ := hreach
  exact (Numbering.ofFlow_orders hg true).rank_pos_of_path hp

theorem ascending : (Numbering.ofFlow g true).Ascending g := by
  intro u v hs
  have ho := Numbering.ofFlow_orders hg true
  obtain ⟨lo, hf⟩ := Numbering.exists_forest g true
  have hu : u ∈ (Numbering.ofFlow g true).sequence :=
    (ho.mem_sequence u).2 (h.rank_pos hg (Flow.lt_of_mem_succs hs))
  have hv : v ∈ (Numbering.ofFlow g true).sequence :=
    (ho.mem_sequence v).2 (h.rank_pos hg (hg.succs_lt u v hs))
  rcases hf.edge v hv u hu ((hg.mem_preds u v).2 hs) with hlt | hlo
  · exact hlt
  · by_contra hle
    -- The forest leads from `v` back up to `u`.
    have hrise := rises_of_forest hg ho hf hv hu ⟨(hf.bounds v hv).2, le_rfl⟩ ⟨hlo, Nat.le_of_not_lt hle⟩
    exact h u (.head' hs hrise.reflTransGen)

end Flow.LoopFree

/-! ## Passes -/

theorem Numbering.Ascending.retreats_eq_zero (hup : o.Ascending g) {p : List Nat} (hr : Route g o p) :
    retreats o p = 0 := by
  induction p with
  | nil => rfl
  | cons v p ih =>
    cases p with
    | nil => rfl
    | cons s p =>
      obtain ⟨hs, -, hrest⟩ := route_cons_cons.1 hr
      rw [retreats, if_pos (hup v s hs), ih hrest]

/-- Along routes without retreats, one pass tells everything. -/
theorem Table.Reached.exact_of_ascending {t : Table} (h : Reached g o 1 t) (ho : o.Orders g)
    (hup : o.Ascending g) : Exact g o t := by
  have hprop := h.propagated ho
  constructor
  · intro v p hr
    exact hprop.resolved v p hr (by rw [hup.retreats_eq_zero hr]; exact Nat.one_pos)
  · intro v w he s p hr
    exact hprop.entry v s w p hr (by rw [hup.retreats_eq_zero hr]; exact Nat.one_pos) he

theorem Table.entry_blank (n i : Nat) : (blank n).entry i = .unset := by
  rw [entry_natCast, blank]
  by_cases hi : i < n <;> simp [hi]

theorem Table.Update.eq_exit {t : Table} {e : PostDominator} (h : Update g o t v e) (hx : g.succs v = []) :
    e = .exit := by
  cases h with
  | exit => rfl
  | keep hne => exact absurd hx hne
  | meet hs => exact absurd hs.1 (by simp [hx])

/-- The first pass finds a ranked exit to resolve. -/
theorem Pass.changed_of_exit (ho : o.Orders g) (hv : v ∈ o.sequence) (hx : g.succs v = []) :
    (run g o (.blank g.size)).changed = true := by
  obtain ⟨-, -, hsame⟩ := foldl_step_spec (p := start (.blank g.size)) ho ho.of_mem Table.grounded_blank rfl
  by_contra hchanged
  have hkeep := (hsame (Bool.eq_false_of_not_eq_true hchanged)).2 v hv
  have hexit := (Table.entry_blank g.size v).symm.trans (hkeep.eq_exit hx)
  cases hexit

theorem Pass.settles_of_ascending (ho : o.Orders g) (hup : o.Ascending g) (hv : v ∈ o.sequence)
    (hx : g.succs v = []) : ∃ t, Settles g o (.blank g.size) 2 t := by
  obtain ⟨hfault, hsweep, -⟩ := foldl_step_spec (p := start (.blank g.size)) ho ho.of_mem Table.grounded_blank rfl
  have hreached : Table.Reached g o 1 (run g o (.blank g.size)).table := .pass .start hsweep
  have hsolved := hreached.solved ho (hreached.exact_of_ascending ho hup)
  have hfirst : run g o (.blank g.size) = ⟨(run g o (.blank g.size)).table, true, none⟩ := by
    rw [← changed_of_exit ho hv hx, ← hfault]
    rfl
  exact ⟨_, .more hfirst (.last (hsolved.run_eq_start ho))⟩

namespace Flow.LoopFree

variable (h : g.LoopFree) (hg : g.WellFormed)

include h hg

theorem settles (hne : 0 < g.size) : ∃ t, Pass.Settles g (.ofFlow g true) (.blank g.size) 2 t := by
  obtain ⟨p, hp⟩ := h.reaches_exit hg hne
  obtain ⟨x, hlt, hx, -⟩ := hp.exists_end
  have ho := Numbering.ofFlow_orders hg true
  exact Pass.settles_of_ascending ho (h.ascending hg) ((ho.mem_sequence x).2 (h.rank_pos hg hlt)) hx

theorem unresolved_eq_zero {t : Table} (hsolved : t.Solved g (.ofFlow g true)) : t.unresolved = 0 := by
  have hnone : {i : Nat | i < g.size ∧ ¬ g.Reaches (g.Exit true) i} = ∅ := by
    apply Set.eq_empty_of_forall_notMem
    rintro i ⟨hi, hn⟩
    exact hn (h.reaches_exit hg hi)
  rw [hsolved.unresolved_eq, ← Numbering.exit_eq_ends hg, hnone, Set.ncard_empty]

end Flow.LoopFree

namespace Outcome

variable {opts : Options} {code : Code}

/-- Where there are no loops and all exits are roots, an analysis that is allowed two passes
succeeds with two: every instruction is ranked, every edge goes up in rank, and every
instruction is resolved, wherever the exits stand. -/
theorem loopFree_needs_one_working_pass (hc : code.check = .ok ()) (hne : 0 < code.size)
    (hfree : code.flow.LoopFree) (hroots : opts.exitRoots = true)
    (hmax : opts.maxPasses ≤ 0 ∨ 2 ≤ opts.maxPasses) :
    ∃ a, (Outcome.of opts none (some code)).result = .ok a ∧
      (∀ i : Nat, i < code.size → ∃ r, a.rank? i = some r) ∧
      (∀ u v : Nat, v ∈ code.flow.succs u →
        ∃ r s, a.rank? u = some r ∧ a.rank? v = some s ∧ r < s) ∧
      a.stats.passes = 2 ∧ a.stats.unresolved = 0 := by
  have hg := Code.flow_wellFormed hc
  obtain ⟨t, ht⟩ := hfree.settles hg hne
  rw [← hroots] at ht
  have hbound : 2 ≤ Solver.boundFor (.ofFlow code.flow opts.exitRoots) opts.maxPasses := by
    unfold Solver.boundFor
    split <;> omega
  have hok : (Outcome.of opts none (some code)).result = .ok (settled code opts.exitRoots 2 t) :=
    result_of_settles hc ht hbound le_top
  obtain ⟨-, hsolved, -⟩ := solved_of_result hc hok
  rw [hroots] at hok hsolved
  have hrank : ∀ i : Nat, i < code.size → (settled code true 2 t).rank? i =
      some ((Numbering.ofFlow code.flow true).rank i) := by
    intro i hi
    exact if_pos (decide_eq_true (hfree.rank_pos hg hi))
  refine ⟨settled code true 2 t, hok, ?_, ?_, rfl, ?_⟩
  · intro i hi
    exact ⟨_, hrank i hi⟩
  · intro u v hs
    exact ⟨_, _, hrank u (Flow.lt_of_mem_succs hs), hrank v (hg.succs_lt u v hs), hfree.ascending hg u v hs⟩
  · exact congrArg Int.ofNat (hfree.unresolved_eq_zero hg hsolved)

/-- Two ways around that meet at the only exit, which comes first, with one of them last. -/
def exitInFirstPlace : Code :=
  .built {
    instructions := #[
      { label := "", succs := [], preds := [1, 3] },
      { label := "", succs := [0], preds := [2] },
      { label := "", succs := [3, 1], preds := [] },
      { label := "", succs := [0], preds := [2] }]
    edges := {(1, 0), (2, 3), (2, 1), (3, 0)}
    frozen := true }

theorem loopFree_exitInFirstPlace :
    exitInFirstPlace.check = .ok () ∧ 0 < exitInFirstPlace.size ∧ exitInFirstPlace.flow.LoopFree ∧
      ∃ a, (Outcome.of { maxPasses := 2 } none (some exitInFirstPlace)).result = .ok a ∧
        (∀ i : Nat, i < exitInFirstPlace.size → ∃ r, a.rank? i = some r) ∧
        (∀ u v : Nat, v ∈ exitInFirstPlace.flow.succs u →
          ∃ r s, a.rank? u = some r ∧ a.rank? v = some s ∧ r < s) ∧
        a.stats.passes = 2 ∧ a.stats.unresolved = 0 := by
  have hc : exitInFirstPlace.check = .ok () := by decide +kernel
  have hne : 0 < exitInFirstPlace.size := by decide +kernel
  have hdown : ∀ u < exitInFirstPlace.flow.size, ∀ w ∈ exitInFirstPlace.flow.succs u,
      [0, 1, 2, 1].getD w 0 < [0, 1, 2, 1].getD u 0 := by
    decide +kernel
  have hfree : exitInFirstPlace.flow.LoopFree :=
    .of_measure fun u w hw => hdown u (Flow.lt_of_mem_succs hw) w hw
  exact ⟨hc, hne, hfree, loopFree_needs_one_working_pass hc hne hfree rfl (.inr le_rfl)⟩

end Outcome

end ControlDependence
