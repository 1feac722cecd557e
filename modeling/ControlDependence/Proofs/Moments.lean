-- SUMMARY: The moments of a run of the solver, what its table is like at each of them, and that no walk goes wrong.
import Mathlib.Logic.Relation
import ControlDependence.Proofs.Convergence

/-!
# The moments of a run

A run of the solver handles one instruction after the other, pass after pass. At each
moment its table is grounded: an entry that it has set names an instruction that was
resolved before, so chains end at the exit however the entries are revised later. Ranks
need not rise along a chain; what falls is the place in the order of resolution.

A meet walks along the chains of resolved instructions only. So none of its walks comes
to an unset entry or to an instruction without rank, and none is cut short.
-/
namespace ControlDependence

/-! ## Walks and meets, step by step -/

namespace Table

variable {g : Flow} {o : Numbering} {t : Table} {order : List Nat}

/-- Where the two fingers of a walk go next. They rest where they have met and where one of
them cannot go on. -/
def advance? (o : Numbering) (t : Table) :
    PostDominator × PostDominator → Option (PostDominator × PostDominator)
  | (.instruction i, .instruction j) =>
    if i = j || !o.isRanked i || !o.isRanked j then none
    else if o.rank i < o.rank j then some (t.entry i, .instruction j)
    else some (.instruction i, t.entry j)
  | _ => none

/-- The fingers of a walk get from one pair of entries to another. -/
def Fingers (o : Numbering) (t : Table) : PostDominator × PostDominator → PostDominator × PostDominator → Prop :=
  Relation.ReflTransGen fun f f' => advance? o t f = some f'

/-- A walk takes the steps of its fingers, and it is over where they rest. -/
theorem walk_succ (fuel : Nat) (a b : PostDominator) :
    walk o t (fuel + 1) a b =
      match advance? o t (a, b) with
      | some f => walk o t fuel f.1 f.2
      | none => walk o t 1 a b := by
  cases a with
  | unset => cases b <;> simp [advance?, walk]
  | exit => cases b <;> simp [advance?, walk]
  | instruction i =>
    cases b with
    | unset => simp [advance?, walk]
    | exit => simp [advance?, walk]
    | instruction j =>
      by_cases hij : i = j
      · simp [advance?, walk, hij]
      · by_cases hrest : (!o.isRanked i || !o.isRanked j) = true
        · simp [advance?, walk, hij, hrest]
        · by_cases hlt : o.rank i < o.rank j
          · simp [advance?, walk, hij, hrest, hlt]
          · simp [advance?, walk, hij, hrest, hlt]

/-- Without fuel a walk is over at once, by itself or because it may not go on. -/
theorem walk_zero (a b : PostDominator) : walk o t 0 a b = .error .endless ∨
    advance? o t (a, b) = none ∧ walk o t 0 a b = walk o t 1 a b := by
  cases a with
  | unset => cases b <;> simp [advance?, walk]
  | exit => cases b <;> simp [advance?, walk]
  | instruction i =>
    cases b with
    | unset => simp [advance?, walk]
    | exit => simp [advance?, walk]
    | instruction j => by_cases hij : i = j <;> simp [advance?, walk, hij]

/-- Unless it runs out of fuel, a walk goes as its fingers go until they rest, and what it comes to is
told by where they do. -/
theorem walk_eq_at_rest (fuel : Nat) (a b : PostDominator) : walk o t fuel a b = .error .endless ∨
    ∃ f, Fingers o t (a, b) f ∧ advance? o t f = none ∧ walk o t fuel a b = walk o t 1 f.1 f.2 := by
  induction fuel generalizing a b with
  | zero => exact (walk_zero a b).imp_right fun h => ⟨(a, b), .refl, h⟩
  | succ fuel ih =>
    cases hstep : advance? o t (a, b) with
    | none =>
      refine .inr ⟨(a, b), .refl, hstep, ?_⟩
      rw [walk_succ, hstep]
    | some f =>
      have hwalk : walk o t (fuel + 1) a b = walk o t fuel f.1 f.2 := by rw [walk_succ, hstep]
      rw [hwalk]
      refine (ih f.1 f.2).imp_right ?_
      rintro ⟨f', hfingers, hrest, heq⟩
      exact ⟨f', .head hstep hfingers, hrest, heq⟩

/-- The fingers have met at an entry, or one of them is at the exit and that is the entry. -/
def Joined (f : PostDominator × PostDominator) (e : PostDominator) : Prop :=
  f.1 = e ∧ f.2 = e ∨ (f.1 = .exit ∨ f.2 = .exit) ∧ e = .exit

theorem joined_of_walk {a b e : PostDominator} (hrest : advance? o t (a, b) = none)
    (h : walk o t 1 a b = .ok (some e)) : Joined (a, b) e := by
  cases a with
  | unset => cases b <;> simp_all [walk, Joined]
  | exit => cases b <;> simp_all [walk, Joined]
  | instruction i =>
    cases b with
    | unset => simp [walk] at h
    | exit => simp_all [walk, Joined]
    | instruction j =>
      by_cases hij : i = j
      · simp_all [walk, Joined]
      · -- Two different instructions rest only where a walk has gone wrong.
        have hranks : (!o.isRanked i || !o.isRanked j) = true := by
          by_contra hranked
          simp only [advance?, hij, hranked, decide_false, Bool.false_or, if_false] at hrest
          split at hrest <;> cases hrest
        simp [walk, hij, hranks] at h

/-- A walk that finds an entry has its fingers come to rest at it. -/
theorem exists_joined_of_walk {fuel : Nat} {a b e : PostDominator} (h : walk o t fuel a b = .ok (some e)) :
    ∃ f, Fingers o t (a, b) f ∧ advance? o t f = none ∧ Joined f e := by
  rcases walk_eq_at_rest fuel a b with hend | ⟨f, hfingers, hrest, heq⟩
  · cases hend.symm.trans h
  · exact ⟨f, hfingers, hrest, joined_of_walk hrest (heq ▸ h)⟩

/-- The pairs that are intersected while successors are met with a candidate, in order. -/
def calls (o : Numbering) (t : Table) :
    PostDominator → List Nat → List (PostDominator × PostDominator)
  | _, [] => []
  | .unset, j :: rest => calls o t (.instruction j) rest
  | candidate, j :: rest =>
    (.instruction j, candidate) ::
      match intersect o t (.instruction j) candidate with
      | .ok (some met) => calls o t met rest
      | _ => []

/-- The pairs that are intersected for the meet of an instruction. -/
def meetCalls (g : Flow) (o : Numbering) (t : Table) (i : Nat) : List (PostDominator × PostDominator) :=
  calls o t .unset ((g.succs i).filter fun j => j ≠ i && (t.entry j).isResolved)

theorem calls_cons {c : PostDominator} (hc : c ≠ .unset) (j : Nat) (l : List Nat) :
    calls o t c (j :: l) = (.instruction j, c) ::
      match intersect o t (.instruction j) c with
      | .ok (some met) => calls o t met l
      | _ => [] := by
  cases c with
  | unset => exact absurd rfl hc
  | exit => rfl
  | instruction i => rfl

/-- Successors are met with a candidate if all intersections on the way succeed. -/
theorem exists_meetWith_of_calls {l : List Nat} {c : PostDominator} (hc : c ≠ .unset)
    (h : ∀ f ∈ calls o t c l, ∃ e, intersect o t f.1 f.2 = .ok (some e) ∧ e ≠ .unset) :
    ∃ e, meetWith o t c l = .ok (some e) := by
  induction l generalizing c with
  | nil => exact ⟨c, meetWith_nil hc⟩
  | cons j l ih =>
    rw [calls_cons hc] at h
    obtain ⟨e, he, hne⟩ := h _ (List.mem_cons_self ..)
    simp only [he] at h
    obtain ⟨e', he'⟩ := ih hne fun f hf => h f (List.mem_cons_of_mem _ hf)
    exact ⟨e', (meetWith_cons_eq_ok_iff hc).2 (.inr ⟨e, he, he'⟩)⟩

/-- An instruction with a resolved successor has a meet if all its intersections succeed. -/
theorem exists_meet_of_calls {i s : Nat} (hs : Counts g t i s)
    (h : ∀ f ∈ meetCalls g o t i, ∃ e, intersect o t f.1 f.2 = .ok (some e) ∧ e ≠ .unset) :
    ∃ e, meet g o t i = .ok (some e) := by
  have hmem : s ∈ (g.succs i).filter fun j => j ≠ i && (t.entry j).isResolved := by
    simpa [Counts] using hs
  rw [meet]
  rw [meetCalls] at h
  cases hl : (g.succs i).filter fun j => j ≠ i && (t.entry j).isResolved with
  | nil =>
    rw [hl] at hmem
    cases hmem
  | cons j l =>
    rw [hl] at h
    exact exists_meetWith_of_calls (c := .instruction j) (by simp) h

theorem Ascends.entry {v : Int} (h : Ascends o t (.instruction v)) : Ascends o t (t.entry v) := by
  obtain ⟨n, hn, h⟩ := h
  cases h with
  | up _ h => exact ⟨_, by omega, h⟩

/-- Fingers that start on chains to the exit stay on them. -/
theorem Fingers.ascends {f f' : PostDominator × PostDominator} (h : Fingers o t f f')
    (hf : Ascends o t f.1 ∧ Ascends o t f.2) : Ascends o t f'.1 ∧ Ascends o t f'.2 := by
  induction h with
  | refl => exact hf
  | @tail f₁ f₂ _ hstep ih =>
    obtain ⟨a, b⟩ := f₁
    cases a with
    | unset => simp [advance?] at hstep
    | exit => simp [advance?] at hstep
    | instruction i =>
      cases b with
      | unset => simp [advance?] at hstep
      | exit => simp [advance?] at hstep
      | instruction j =>
        simp only [advance?] at hstep
        split at hstep
        · cases hstep
        · split at hstep
          · cases hstep
            exact ⟨ih.1.entry, ih.2⟩
          · cases hstep
            exact ⟨ih.1, ih.2.entry⟩

theorem ascends_of_mem_calls {l : List Nat} {c : PostDominator} (hc : c = .unset ∨ Ascends o t c)
    (hl : ∀ s ∈ l, Ascends o t (.instruction s)) {f : PostDominator × PostDominator}
    (hf : f ∈ calls o t c l) : Ascends o t f.1 ∧ Ascends o t f.2 := by
  induction l generalizing c with
  | nil => simp [calls] at hf
  | cons j l ih =>
    have hj := hl j (by simp)
    have hrest : ∀ s ∈ l, Ascends o t (.instruction s) := fun s hs => hl s (by simp [hs])
    rcases hc with rfl | hc
    · exact ih (.inr hj) hrest hf
    · obtain ⟨e, he, hae⟩ := exists_intersect hj hc
      rw [calls_cons hc.ne_unset, he] at hf
      rcases List.mem_cons.1 hf with rfl | hf
      · exact ⟨hj, hc⟩
      · exact ih (.inr hae) hrest hf

end Table

/-! ## Moments -/

/-- A moment of a run: the table, and the instruction that is handled next unless the run
is over. -/
structure Moment where
  table : Table
  next : Option Nat
  deriving Repr, DecidableEq

/-- The moments before the steps of a pass. -/
def Pass.moments (g : Flow) (o : Numbering) : List Nat → Pass → List Moment
  | [], _ => []
  | i :: l, p => ⟨p.table, some i⟩ :: moments g o l (p.step g o i)

namespace Solver

/-- The solver that an analysis runs. -/
def of (opts : Options) (code : Code) : Solver :=
  init code.flow (.ofFlow code.flow opts.exitRoots) opts.maxPasses

/-- The moments of the passes that the fuel and the cutoff allow, and the end. -/
def loopMoments (cut : Option Cutoff) : (fuel asked : Nat) → Solver → List Moment
  | 0, _, s => [⟨s.table, none⟩]
  | fuel + 1, asked, s =>
    match Cutoff.answer cut asked with
    | some _ => [⟨s.table, none⟩]
    | none =>
      Pass.moments s.flow s.numbering s.numbering.sequence (.start s.table) ++
        match s.pass with
        | (s', true, none) => loopMoments cut fuel (asked + 1) s'
        | (s', _, _) => [⟨s'.table, none⟩]

/-- The moments of a run, in order. -/
def moments (cut : Option Cutoff) (s : Solver) : List Moment := loopMoments cut (s.bound - s.passes) 0 s

theorem getLast?_loopMoments (cut : Option Cutoff) (fuel asked : Nat) (s : Solver) :
    (loopMoments cut fuel asked s).getLast? = some ⟨(loop cut fuel asked s).1.table, none⟩ := by
  induction fuel generalizing asked s with
  | zero => rfl
  | succ fuel ih =>
    rw [loopMoments, loop]
    cases Cutoff.answer cut asked with
    | some c => rfl
    | none =>
      obtain ⟨s', changed, fault⟩ := s.pass
      cases fault with
      | some f => cases changed <;> simp
      | none =>
        cases changed with
        | false => simp
        | true => simp [ih]

end Solver

/-! ## What holds at each moment -/

open Table

variable {g : Flow} {o : Numbering} {order : List Nat} {ms : List Moment} {m : Moment}

/-- The table is acyclic, and the next meet goes through. -/
structure Moment.Sound (g : Flow) (o : Numbering) (m : Moment) : Prop where
  /-- A resolved entry is the exit or another instruction, which is ranked and resolved. -/
  entry : ∀ v : Nat, (m.table.entry v).isResolved = true → m.table.entry v = .exit ∨
    ∃ w : Nat, m.table.entry v = .instruction w ∧ w ≠ v ∧ o.isRanked w = true ∧
      (m.table.entry w).isResolved = true
  /-- The chain of a resolved instruction ends at the exit. -/
  chain : ∀ v : Nat, (m.table.entry v).isResolved = true →
    ∃ k ≤ o.sequence.length, Ascent o m.table (.instruction v) k
  /-- An intersection succeeds, its fingers come to rest at what it gives, and on the way there they
  never come to an unset entry. -/
  calls : ∀ i, m.next = some i → ∀ c ∈ m.table.meetCalls g o i,
    (∃ e, (m.table.intersect o c.1 c.2 = .ok (some e) ∧ e ≠ .unset) ∧
      ∃ f, Fingers o m.table c f ∧ advance? o m.table f = none ∧ Joined f e) ∧
      ∀ f, Fingers o m.table c f → f.1 ≠ .unset ∧ f.2 ≠ .unset
  /-- A meet never fails, and comes to nothing only where no successor is resolved. -/
  meet : ∀ i, m.next = some i → ∃ r, m.table.meet g o i = .ok r ∧
    (r = none → ∀ s, ¬ Counts g m.table i s)

/-- Only chains of resolved instructions are intersected. -/
theorem Table.Grounded.ascends_of_mem_meetCalls {t : Table} (h : Grounded g o t order) {i : Nat}
    {c : PostDominator × PostDominator} (hc : c ∈ t.meetCalls g o i) : Ascends o t c.1 ∧ Ascends o t c.2 := by
  refine ascends_of_mem_calls (.inl rfl) (fun s hs => ?_) hc
  refine h.ascends ((h.mem_order s).2 ?_)
  exact (Bool.and_eq_true_iff.1 (List.mem_filter.1 hs).2).2

theorem Table.Grounded.intersect_of_mem_meetCalls {t : Table} (h : Grounded g o t order) {i : Nat}
    {c : PostDominator × PostDominator} (hc : c ∈ t.meetCalls g o i) :
    ∃ e, t.intersect o c.1 c.2 = .ok (some e) ∧ e ≠ .unset := by
  have hasc := h.ascends_of_mem_meetCalls hc
  obtain ⟨e, he, hae⟩ := exists_intersect hasc.1 hasc.2
  exact ⟨e, he, hae.ne_unset⟩

theorem Table.Grounded.sound (h : Grounded g o m.table order) (ho : o.Orders g) : m.Sound g o where
  entry v hv := by
    refine (h.entry v ((h.mem_order v).2 hv)).imp_right ?_
    rintro ⟨w, hw, he, hlt⟩
    refine ⟨w, he, ?_, by simpa [Numbering.isRanked] using (h.ranked w hw).2, (h.mem_order w).1 hw⟩
    rintro rfl
    exact Nat.lt_irrefl _ hlt
  chain v hv := by
    obtain ⟨k, hk, hasc⟩ := h.ascent ((h.mem_order v).2 hv)
    have hlen := length_le_of_nodup ho h.nodup fun x hx => (h.ranked x hx).2
    exact ⟨k, hk.trans ((Search.place_le order v).trans hlen), hasc⟩
  calls i _ c hc := by
    obtain ⟨e, he, hne⟩ := h.intersect_of_mem_meetCalls hc
    refine ⟨⟨e, ⟨he, hne⟩, exists_joined_of_walk he⟩, fun f hf => ?_⟩
    have hasc := hf.ascends (h.ascends_of_mem_meetCalls hc)
    exact ⟨hasc.1.ne_unset, hasc.2.ne_unset⟩
  meet i _ := by
    by_cases hcount : ∃ s, Counts g m.table i s
    · obtain ⟨s, hs⟩ := hcount
      obtain ⟨e, he⟩ := exists_meet_of_calls hs fun c hc => h.intersect_of_mem_meetCalls hc
      exact ⟨some e, he, by simp⟩
    · exact ⟨none, meet_of_none (not_exists.1 hcount), fun _ => not_exists.1 hcount⟩

/-- Moments with grounded tables whose orders of resolution grow. -/
inductive Progress (g : Flow) (o : Numbering) : List Nat → List Moment → Prop where
  | last {order : List Nat} {m : Moment} : Grounded g o m.table order → Progress g o order [m]
  | next {order order' : List Nat} {m : Moment} {ms : List Moment} : Grounded g o m.table order →
      order ⊆ order' → Progress g o order' ms → Progress g o order (m :: ms)

namespace Progress

theorem grounded (h : Progress g o order ms) (hm : m ∈ ms) :
    ∃ order', Grounded g o m.table order' ∧ order ⊆ order' := by
  induction h with
  | last hgr =>
    cases List.mem_singleton.1 hm
    exact ⟨_, hgr, List.Subset.refl _⟩
  | next hgr hsub _ ih =>
    rcases List.mem_cons.1 hm with rfl | hm
    · exact ⟨_, hgr, List.Subset.refl _⟩
    · obtain ⟨order', hgr', hsub'⟩ := ih hm
      exact ⟨order', hgr', List.Subset.trans hsub hsub'⟩

/-- What is resolved at one moment is resolved at all later ones. -/
theorem pairwise (h : Progress g o order ms) :
    ms.Pairwise fun m m' => ∀ v : Nat, (m.table.entry v).isResolved = true →
      (m'.table.entry v).isResolved = true := by
  induction h with
  | last => simp
  | next hgr hsub hrest ih =>
    refine List.pairwise_cons.2 ⟨fun m' hm' v hv => ?_, ih⟩
    obtain ⟨order', hgr', hsub'⟩ := hrest.grounded hm'
    exact (hgr'.mem_order v).1 (hsub' (hsub ((hgr.mem_order v).2 hv)))

end Progress

/-- A pass makes progress if what comes after it does. -/
theorem Pass.progress_moments (ho : o.Orders g) {l : List Nat} {p : Pass}
    (hl : ∀ i ∈ l, i < g.size ∧ 0 < o.rank i) (h : Grounded g o p.table order) (hf : p.fault = none)
    (hrest : ∀ order, Grounded g o (l.foldl (step g o) p).table order → Progress g o order ms) :
    Progress g o order (moments g o l p ++ ms) := by
  induction l generalizing p order with
  | nil => exact hrest order h
  | cons i l ih =>
    have hi := hl i (by simp)
    obtain ⟨e, he, hstep⟩ := exists_update ho h hf hi.1
    obtain ⟨order', h', hsub⟩ := h.update hi he
    rw [← store_table (h.size_eq ▸ hi.1), ← hstep] at h'
    have hf' : (p.step g o i).fault = none := by
      rw [hstep, store_fault, hf]
    exact .next h hsub (ih (fun j hj => hl j (by simp [hj])) h' hf' hrest)

namespace Solver

variable {cut : Option Cutoff} {s : Solver}

theorem progress_loopMoments (ho : o.Orders g) {fuel asked : Nat} (h : Runs g o s)
    (hgr : Grounded g o s.table order) : Progress g o order (loopMoments cut fuel asked s) := by
  induction fuel generalizing asked s order with
  | zero => exact .last hgr
  | succ fuel ih =>
    rw [loopMoments]
    cases Cutoff.answer cut asked with
    | some c => exact .last hgr
    | none =>
      obtain ⟨s', changed, hpass, h', -⟩ := pass_spec ho h
      have htable : (Pass.run s.flow s.numbering s.table).table = s'.table := by
        simpa [pass] using congrArg (fun r => r.1.table) hpass
      obtain ⟨rfl, rfl, -⟩ := h
      refine Pass.progress_moments ho ho.of_mem hgr rfl fun order' hgr' => ?_
      replace hgr' : Grounded s.flow s.numbering s'.table order' := htable ▸ hgr'
      rw [hpass]
      cases changed with
      | true => exact ih h' hgr'
      | false => exact .last hgr'

/-- A run ends by itself, at the bound or at the cutoff, and in no other way. -/
theorem failure_of_loop (ho : o.Orders g) {fuel asked : Nat} {s' : Solver} {f : Failure} (h : Runs g o s)
    (hl : loop cut fuel asked s = (s', some f)) : f = s'.boundFailure ∨ ∃ c, f = .interrupted c := by
  induction fuel generalizing asked s with
  | zero =>
    cases hl
    exact .inl rfl
  | succ fuel ih =>
    obtain ⟨s₁, changed, hpass, h₁, -⟩ := pass_spec ho h
    rw [loop, hpass] at hl
    cases hcut : Cutoff.answer cut asked with
    | some c =>
      rw [hcut] at hl
      cases hl
      exact .inr ⟨c, rfl⟩
    | none =>
      rw [hcut] at hl
      cases changed with
      | true => exact ih h₁ hl
      | false => cases hl

end Solver

namespace Outcome

variable {opts : Options} {code : Code}

theorem kind_ne_invariant (hc : code.check = .ok ()) {cut : Option Cutoff} {f : Failure}
    (h : (Outcome.of opts cut (some code)).result = .error f) : f.kind ≠ .invariant := by
  have ho := Numbering.ofFlow_orders (Code.flow_wellFormed hc) opts.exitRoots
  obtain ⟨s, hs⟩ := (result_eq_error_iff hc).1 h
  rcases Solver.failure_of_loop ho (Solver.runs_init ..) hs with rfl | ⟨c, rfl⟩
  · simp [Solver.boundFailure, Failure.kind, Failure.root]
  · simp [Failure.kind, Failure.root]

/-- Whatever the bound and the cutoff, at every moment of solving an accepted method the
table is acyclic and the next meet goes through, and nothing resolved is unset again. So
no analysis fails for a broken table. -/
theorem sound_at_every_moment (hc : code.check = .ok ()) (opts : Options) (cut : Option Cutoff) :
    ((Solver.of opts code).moments cut).getLast? = some ⟨((Solver.of opts code).solve cut).1.table, none⟩ ∧
      (∀ m ∈ (Solver.of opts code).moments cut, m.Sound code.flow (.ofFlow code.flow opts.exitRoots)) ∧
      (((Solver.of opts code).moments cut).Pairwise fun m m' =>
        ∀ v : Nat, (m.table.entry v).isResolved = true → (m'.table.entry v).isResolved = true) ∧
      ∀ f, (Outcome.of opts cut (some code)).result = .error f → f.kind ≠ .invariant := by
  have ho := Numbering.ofFlow_orders (Code.flow_wellFormed hc) opts.exitRoots
  have hprogress : Progress _ _ _ ((Solver.of opts code).moments cut) :=
    Solver.progress_loopMoments ho (Solver.runs_init ..) grounded_blank
  refine ⟨Solver.getLast?_loopMoments .., fun m hm => ?_, hprogress.pairwise, fun f => kind_ne_invariant hc⟩
  obtain ⟨order, hgr, -⟩ := hprogress.grounded hm
  exact hgr.sound ho

/-- The loop with two entrances is solved soundly wherever it is cut off, and some of its
meets do intersect chains. -/
theorem sound_at_every_moment_twoEntryLoop :
    twoEntryLoop.check = .ok () ∧
      (((Solver.of {} twoEntryLoop).moments none).any fun m => m.next.any fun i =>
        !(m.table.meetCalls twoEntryLoop.flow (.ofFlow twoEntryLoop.flow true) i).isEmpty) = true ∧
      ∀ cut : Option Cutoff,
        ((Solver.of {} twoEntryLoop).moments cut).getLast? =
            some ⟨((Solver.of {} twoEntryLoop).solve cut).1.table, none⟩ ∧
          (∀ m ∈ (Solver.of {} twoEntryLoop).moments cut,
            m.Sound twoEntryLoop.flow (.ofFlow twoEntryLoop.flow true)) ∧
          (((Solver.of {} twoEntryLoop).moments cut).Pairwise fun m m' =>
            ∀ v : Nat, (m.table.entry v).isResolved = true → (m'.table.entry v).isResolved = true) ∧
          ∀ f, (Outcome.of {} cut (some twoEntryLoop)).result = .error f → f.kind ≠ .invariant := by
  have hc : twoEntryLoop.check = .ok () := by decide +kernel
  exact ⟨hc, by decide +kernel, sound_at_every_moment hc {}⟩

end Outcome

end ControlDependence
