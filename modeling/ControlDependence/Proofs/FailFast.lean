-- SUMMARY: A run that fails fast fails with what some method would have failed with on its own, whatever the schedule.
import ControlDependence.Proofs.Isolation

/-!
# Failing fast

The first failure that is handed in is stored before the run is stopped. So while there is
none, no worker has been told to stop, and the first one is that of a method on its own;
the workers that are told to stop because of it come too late to be blamed.

With one worker, a method is not begun before all methods in front of it have been settled.
The worker of a method that fails leaves only after it has stopped the run, so none is
begun after it.
-/
namespace ControlDependence.Batch

/-- The entry of a method that was not begun because another one had failed. -/
def Method.entrySkipped (m : Method) : Entry := ⟨m.name, .error (.interrupted .canceled)⟩

/-- The entry of a method whose analysis was cut short because another one had failed. -/
def Method.entryCut (m : Method) : Entry := ⟨m.name, .error (.noted m.name (.interrupted .canceled))⟩

/-- The entries that a run that fails fast may have for a method. -/
def Method.Reported (opts : Options) (m : Method) (e : Entry) : Prop :=
  e = m.entryAlone opts ∨ e = m.entrySkipped ∨ e = m.entryCut

/-- A method that fails on its own fails in every run. -/
theorem Verdict.Allowed.exists_error {opts : Options} {stopped : Option Interruption} {m : Method} {v : Verdict}
    {f : Failure} (h : v.Allowed opts stopped m.code) (hf : m.alone opts = .error f) :
    ∃ g, v.result m.name = .error g := by
  rcases h.result m.name with hv | ⟨c, -, hv | hv⟩
  · rw [← Method.alone, hf] at hv
    exact ⟨_, hv⟩
  · exact ⟨_, hv⟩
  · exact ⟨_, hv⟩

namespace Stage

variable {opts : Options} {code : Option Code} {stopped : Option Interruption} {s s' : Stage} {v : Verdict}

/-- A verdict that has been handed in stands. -/
theorem Moves.verdict?_eq (h : s.Moves opts code stopped s') (hv : s.verdict? = some v) : s'.verdict? = some v := by
  cases h with
  | work hs => obtain ⟨rfl | ⟨c, solver, rfl⟩, -⟩ := work?_cases hs <;> cases hv
  | skip | queue | assign | handIn => cases hv
  | leave => exact hv

theorem Moves.ne_settled (h : s.Moves opts code stopped s') : s ≠ .settled v := by
  rintro rfl
  cases h with
  | work hs => cases hs

/-- The method's worker has got an analysis under way. -/
def Begun : Stage → Prop
  | .solving .. | .crashed | .decided (.analyzed _) | .handedIn (.analyzed _) _ | .settled (.analyzed _) => True
  | _ => False

/-- An analysis begins only if the run has not been stopped. -/
theorem Moves.begun (h : s.Moves opts code stopped s') (hs' : s'.Begun) :
    s.Begun ∨ s = .assigned ∧ stopped = none := by
  cases h with
  | skip | queue | assign => cases hs'
  | @handIn v first =>
    cases v with
    | skipped => cases hs'
    | analyzed => exact .inl trivial
  | @leave v first =>
    cases v with
    | skipped => cases hs'
    | analyzed => exact .inl trivial
  | work hs =>
    obtain ⟨rfl | ⟨c, solver, rfl⟩, -⟩ := work?_cases hs
    · cases stopped with
      | none => exact .inr ⟨rfl, rfl⟩
      | some c =>
        cases hs
        cases hs'
    · exact .inl trivial

end Stage

namespace Run

variable {r r' : Run} {a : Action} {i j : Nat} {m n : Method} {s s' t : Stage} {f : Failure}
  {settings : Settings} {methods : List Method}

/-! ## The failure of a run -/

theorem failure?_eq_some_iff {v : Verdict} : r.failure? m v = some f ↔
    r.settings.failFast = true ∧ r.failure = none ∧ ∃ g, v.result m.name = .error g ∧ f = .method m.name g := by
  unfold failure?
  rw [Option.ite_none_right_eq_some, Bool.and_eq_true, Option.isNone_iff_eq_none, and_assoc]
  cases v.result m.name with
  | ok a => simp
  | error g => simp [@eq_comm _ f]

theorem Shift.exists_verdict (h : Shift r r' i m s s') {v : Verdict} (hat : r.At j n t) (hv : t.verdict? = some v) :
    ∃ t', r'.At j n t' ∧ t'.verdict? = some v := by
  by_cases hj : j = i
  · subst hj
    obtain ⟨rfl, rfl⟩ := h.before.unique hat
    exact ⟨s', h.at_iff.2 (.inl ⟨rfl, rfl, rfl⟩), h.moves.verdict?_eq hv⟩
  · exact ⟨t, h.at_iff.2 (.inr ⟨hj, hat⟩), hv⟩

/-- The failure is what a method fails with on its own, and that method's verdict. -/
def Blames (opts : Options) (r : Run) (f : Failure) : Prop :=
  ∃ i m s g, r.At i m s ∧ s.verdict? = some (.analyzed (.of opts none m.code)) ∧
    m.alone opts = .error g ∧ f = .method m.name (.noted m.name g)

/-- What holds of a run that fails fast unless it is stopped from outside. -/
structure Alert (settings : Settings) (methods : List Method) (r : Run) : Prop
    extends Lawful settings methods r where
  canceled : r.canceled = none
  cause : ∀ c, r.stopped = some c → c = .canceled
  raised : r.failure.isSome = true ↔ r.stopped.isSome = true ∨ r.Raised
  blames : ∀ f, r.failure = some f → r.Blames settings.options f
  blamed : ∀ i m s v f, r.At i m s → s.verdict? = some v → v.result m.name = .error f →
    r.failure.isSome = true

theorem alert_start (settings : Settings) (methods : List Method) :
    Alert settings methods (start settings methods none) where
  toLawful := lawful_start settings methods none
  canceled := rfl
  cause c hc := by cases hc
  raised := by
    constructor
    · intro h
      cases h
    · rintro (h | ⟨i, m, v, hat⟩)
      · cases h
      · cases (at_start.1 hat).2
  blames f hf := by cases hf
  blamed i m s v f hat hv := by
    obtain ⟨-, rfl⟩ := at_start.1 hat
    cases hv

theorem Blames.shift {opts : Options} (h : r.Blames opts f) (hshift : Shift r r' i m s s') : r'.Blames opts f := by
  obtain ⟨k, n, t, g, hat, hv, hg, hf⟩ := h
  obtain ⟨t', hat', hv'⟩ := hshift.exists_verdict hat hv
  exact ⟨k, n, t', g, hat', hv', hg, hf⟩

namespace Alert

theorem stopped_eq_none (h : Alert settings methods r) (hf : r.failure = none) : r.stopped = none := by
  cases hstop : r.stopped with
  | none => rfl
  | some c =>
    have hsome := h.raised.2 (.inl (by rw [hstop]; rfl))
    rw [hf] at hsome
    cases hsome

/-- An event that neither makes the run fail nor stops it. -/
theorem shift (h : Alert settings methods r) (hm : r.Moves a r') (hshift : Shift r r' i m s s')
    (hcanceled : r'.canceled = r.canceled) (hstopped : r'.stopped = r.stopped) (hfailure : r'.failure = r.failure)
    (hs : ∀ v, s ≠ .handedIn v true) (hs' : ∀ v, s' ≠ .handedIn v true)
    (hv : ∀ v f, s'.verdict? = some v → v.result m.name = .error f → r.failure.isSome = true) :
    Alert settings methods r' where
  toLawful := h.toLawful.step hm
  canceled := hcanceled.trans h.canceled
  cause c hc := h.cause c (hstopped ▸ hc)
  raised := by
    rw [hfailure, hstopped, hshift.raised_iff hs hs']
    exact h.raised
  blames f hf := (h.blames f (hfailure ▸ hf)).shift hshift
  blamed k n t v f hat hverdict hf := by
    rw [hfailure]
    rcases hshift.at_iff.1 hat with ⟨-, rfl, rfl⟩ | ⟨-, hat⟩
    · exact hv v f hverdict hf
    · exact h.blamed k n t v f hat hverdict hf

/-- The first failure that is handed in is the method's own: nothing has stopped the run yet. -/
theorem handIn_first (h : Alert settings methods r) {v : Verdict} (hm : r.Moves (.handIn i) r')
    (hshift : Shift r r' i m (.decided v) (.handedIn v true)) (hnone : r.failure = none)
    (hf : v.result m.name = .error f)
    (hcanceled : r'.canceled = r.canceled) (hstopped : r'.stopped = r.stopped)
    (hfailure : r'.failure = some (.method m.name f)) : Alert settings methods r' where
  toLawful := h.toLawful.step hm
  canceled := hcanceled.trans h.canceled
  cause c hc := h.cause c (hstopped ▸ hc)
  raised := by
    have hraised : r'.Raised := ⟨i, m, v, hshift.at_iff.2 (.inl ⟨rfl, rfl, rfl⟩)⟩
    simp [hfailure, hraised]
  blames g hg := by
    have hv : v.Allowed settings.options none m.code :=
      h.stopped_eq_none hnone ▸ h.sound i m _ hshift.before
    obtain rfl := hv.eq_whole
    cases hown : m.alone settings.options with
    | ok a =>
      rw [Verdict.result, ← Method.alone, hown] at hf
      cases hf
    | error own =>
      rw [Verdict.result, ← Method.alone, hown] at hf
      cases hf
      rw [hfailure] at hg
      cases hg
      exact ⟨i, m, _, own, hshift.at_iff.2 (.inl ⟨rfl, rfl, rfl⟩), rfl, hown, rfl⟩
  blamed _ _ _ _ _ _ _ _ := by
    rw [hfailure]
    rfl

theorem leave_first (h : Alert settings methods r) {v : Verdict} (hm : r.Moves (.leave i) r')
    (hshift : Shift r r' i m (.handedIn v true) (.settled v))
    (hcanceled : r'.canceled = r.canceled) (hstopped : r'.stopped = r.stopped.or (some .canceled))
    (hfailure : r'.failure = r.failure) : Alert settings methods r' := by
  have hsome : r.failure.isSome = true := h.raised.2 (.inr ⟨i, m, v, hshift.before⟩)
  refine ⟨h.toLawful.step hm, hcanceled.trans h.canceled, ?_, ?_, ?_, ?_⟩
  · intro c hc
    rw [hstopped] at hc
    cases hstop : r.stopped with
    | none =>
      rw [hstop] at hc
      cases hc
      rfl
    | some c' =>
      rw [hstop] at hc
      cases hc
      exact h.cause c hstop
  · simp [hfailure, hsome, hstopped]
  · intro f hf
    exact (h.blames f (hfailure ▸ hf)).shift hshift
  · intro k n t v f _ _ _
    rw [hfailure]
    exact hsome

theorem step (h : Alert settings methods r) (hff : settings.failFast = true) (ha : ∀ c, a ≠ .cancel c)
    (hm : r.Moves a r') : Alert settings methods r' := by
  have hmoves := hm
  cases hm with
  | cancel c => exact absurd rfl (ha c)
  | skip hat hc =>
    refine h.shift hmoves ⟨hat, .skip hc, rfl, rfl⟩ rfl rfl rfl (by simp) (by simp) ?_
    intro v f _ _
    exact h.raised.2 (.inl (by rw [hc]; rfl))
  | queue hat _ =>
    exact h.shift hmoves ⟨hat, .queue, rfl, rfl⟩ rfl rfl rfl (by simp) (by simp) (by simp [Stage.verdict?])
  | assign hat _ =>
    exact h.shift hmoves ⟨hat, .assign, rfl, rfl⟩ rfl rfl rfl (by simp) (by simp) (by simp [Stage.verdict?])
  | work hat hs =>
    refine h.shift hmoves ⟨hat, .work hs, rfl, rfl⟩ rfl rfl rfl ?_ ?_ ?_
    · rintro v rfl
      cases hs
    · rintro v rfl
      cases Stage.verdict?_of_work? hs
    · intro v f hv
      rw [Stage.verdict?_of_work? hs] at hv
      cases hv
  | @handIn i m v hat =>
    rcases Option.eq_none_or_eq_some (r.failure? m v) with hnew | ⟨g, hnew⟩
    · refine h.shift hmoves ⟨hat, .handIn, rfl, rfl⟩ rfl rfl (by simp [hnew]) (by simp) (by simp [hnew]) ?_
      intro v' f hv' hf
      cases hv'
      by_contra hfailure
      have hsome := failure?_eq_some_iff.2 ⟨h.settings_eq ▸ hff, by simpa using hfailure, f, hf, rfl⟩
      rw [hnew] at hsome
      cases hsome
    · obtain ⟨-, hfailure, f, hf, rfl⟩ := failure?_eq_some_iff.1 hnew
      simp only [hnew, hfailure] at hmoves ⊢
      exact h.handIn_first hmoves ⟨hat, .handIn, rfl, rfl⟩ hfailure hf rfl rfl rfl
  | @leave i m v first hat =>
    cases first with
    | false =>
      refine h.shift hmoves ⟨hat, .leave, rfl, rfl⟩ rfl rfl rfl (by simp) (by simp) ?_
      intro v' f hv' hf
      exact h.blamed i m _ v' f hat hv' hf
    | true => exact h.leave_first hmoves ⟨hat, .leave, rfl, rfl⟩ rfl rfl rfl

/-! ## The report of a run that failed -/

variable (h : Alert settings methods r) (hover : r.isOver = true)

include h hover

theorem failure_isSome_iff :
    r.failure.isSome = true ↔ ∃ m ∈ methods, ∃ f, m.alone settings.options = .error f := by
  constructor
  · intro hsome
    obtain ⟨f, hf⟩ := Option.isSome_iff_exists.1 hsome
    obtain ⟨i, m, s, g, hat, -, hg, -⟩ := h.blames f hf
    exact ⟨m, List.mem_of_getElem? (h.getElem?_methods hat), g, hg⟩
  · rintro ⟨m, hm, f, hf⟩
    obtain ⟨i, hi⟩ := List.getElem?_of_mem hm
    obtain ⟨s, hat⟩ := h.exists_at hi
    obtain ⟨v, rfl⟩ := isOver_iff.1 hover i m s hat
    obtain ⟨g, hg⟩ := Verdict.Allowed.exists_error (h.sound i m _ hat) hf
    exact h.blamed i m _ v g hat rfl hg

theorem blames_entry (hf : r.failure = some f) :
    ∃ (i : Nat) (m : Method) (g : Failure), methods[i]? = some m ∧ m.alone settings.options = .error g ∧
      f = .method m.name (.noted m.name g) ∧ r.entries[i]? = some (m.entryAlone settings.options) := by
  obtain ⟨i, m, s, g, hat, hv, hg, rfl⟩ := h.blames f hf
  obtain ⟨v, rfl, hentry⟩ := hat.getElem?_entries hover
  cases hv
  exact ⟨i, m, g, h.getElem?_methods hat, hg, rfl, hentry⟩

theorem reported : List.Forall₂ (Method.Reported settings.options) methods r.entries := by
  rw [List.forall₂_iff_get]
  refine ⟨(h.length_entries hover).symm, ?_⟩
  intro i hi hi'
  obtain ⟨s, hat⟩ := h.exists_at (List.getElem?_eq_getElem hi)
  obtain ⟨v, rfl, hentry⟩ := hat.getElem?_entries hover
  obtain ⟨_, hget⟩ := List.getElem?_eq_some_iff.1 hentry
  rw [List.get_eq_getElem, List.get_eq_getElem, hget]
  unfold Method.Reported Verdict.entry
  rcases Verdict.Allowed.result (h.sound i _ _ hat) methods[i].name with hv | ⟨c, hc, hv | hv⟩
  · exact .inl (by rw [hv]; rfl)
  · obtain rfl := h.cause c hc
    exact .inr (.inl (by rw [hv]; rfl))
  · obtain rfl := h.cause c hc
    exact .inr (.inr (by rw [hv]; rfl))

end Alert

/-! ## One worker -/

/-- A lone worker has one method at a time. -/
theorem At.eq_of_isBusy (hbusy : r.busy ≤ 1) (hi : r.At i m s) (hs : s.isBusy = true) (hj : r.At j n t)
    (ht : t.isBusy = true) : i = j := by
  by_contra hne
  let figure : Job → Nat := fun k => if k.stage.isBusy then 1 else 0
  have hput := hj.tally_put .pending figure
  have hle := ((at_put hj).2 (.inr ⟨hne, hi⟩) : (r.put j .pending).At i m s).le_tally figure
  have hfigures : figure ⟨m, s⟩ = 1 ∧ figure ⟨n, t⟩ = 1 ∧ figure ⟨n, .pending⟩ = 0 :=
    ⟨if_pos hs, if_pos ht, rfl⟩
  have hbusy : r.tally figure ≤ 1 := hbusy
  omega

/-- Where an analysis is under way or done, those of the methods before it have succeeded. -/
def InTurn (r : Run) : Prop :=
  ∀ j n t, r.At j n t → t.Begun → ∀ i m s, i < j → r.At i m s →
    ∃ v a, s = .settled v ∧ v.result m.name = .ok a

/-- When a lone worker begins, the methods before its own have been settled, and none has failed. -/
theorem Alert.settled_before (h : Alert settings methods r) (hw : settings.workers = 1)
    (hj : r.At j n .assigned) (hstopped : r.stopped = none) (hij : i < j) (hi : r.At i m s) :
    ∃ v a, s = .settled v ∧ v.result m.name = .ok a := by
  have hbusy : r.busy ≤ 1 := hw ▸ h.busy_le
  have hnext := h.ordered.lt_next hj (.of_isBusy rfl)
  have htaken := h.ordered.before i m s hi (by omega)
  cases hs : s.isBusy with
  | true =>
    have heq := hi.eq_of_isBusy hbusy hs hj rfl
    omega
  | false =>
    cases s with
    | pending => exact absurd rfl htaken.1
    | queued => exact absurd rfl htaken.2
    | assigned | solving | crashed | decided | handedIn => cases hs
    | settled v =>
      cases hv : v.result m.name with
      | ok a => exact ⟨v, a, rfl, hv⟩
      | error f =>
        rcases h.raised.1 (h.blamed i m _ v f hi rfl hv) with hsome | ⟨k, l, w, hk⟩
        · rw [hstopped] at hsome
          cases hsome
        · obtain rfl := hk.eq_of_isBusy hbusy rfl hj rfl
          cases (hk.unique hj).2

theorem InTurn.step (h : r.InTurn) (halert : Alert settings methods r) (hw : settings.workers = 1)
    (hshift : Shift r r' i m s s') : r'.InTurn := by
  intro j n t hj ht k l u hkj hk
  rcases hshift.at_iff.1 hj with ⟨rfl, rfl, rfl⟩ | ⟨-, hj⟩
  · -- The method that moves on is the later one.
    rcases hshift.at_iff.1 hk with ⟨rfl, -, -⟩ | ⟨-, hk⟩
    · omega
    · rcases hshift.moves.begun ht with hbegun | ⟨rfl, hstopped⟩
      · exact h j n s hshift.before hbegun k l u hkj hk
      · exact halert.settled_before hw hshift.before hstopped hkj hk
  · -- The earlier one cannot move on, as it has been settled.
    rcases hshift.at_iff.1 hk with ⟨rfl, rfl, rfl⟩ | ⟨-, hk⟩
    · obtain ⟨v, a, rfl, -⟩ := h j n t hj ht k l s hkj hshift.before
      exact absurd rfl hshift.moves.ne_settled
    · exact h j n t hj ht k l u hkj hk

section FirstFailure

variable (h : Alert settings methods r) (hturn : r.InTurn) (hover : r.isOver = true)
  (hm : methods[i]? = some m) (hf : m.alone settings.options = .error f)
  (hfirst : ∀ k n, k < i → methods[k]? = some n → ∃ a, n.alone settings.options = .ok a)

include h hturn hover hm hf hfirst

/-- A lone worker comes to the first method that fails, and the run fails with it. -/
theorem Alert.first_failure :
    r.failure = some (.method m.name (.noted m.name f)) ∧
      r.At i m (.settled (.analyzed (.of settings.options none m.code))) := by
  have hsome := (h.failure_isSome_iff hover).2 ⟨m, List.mem_of_getElem? hm, f, hf⟩
  obtain ⟨e, he⟩ := Option.isSome_iff_exists.1 hsome
  obtain ⟨j, n, s, g, hj, hv, hg, rfl⟩ := h.blames e he
  obtain ⟨v, rfl⟩ := isOver_iff.1 hover j n s hj
  cases hv
  rcases Nat.lt_trichotomy j i with hlt | rfl | hlt
  · obtain ⟨a, ha⟩ := hfirst j n hlt (h.getElem?_methods hj)
    rw [hg] at ha
    cases ha
  · cases hm.symm.trans (h.getElem?_methods hj)
    cases hf.symm.trans hg
    exact ⟨he, hj⟩
  · obtain ⟨s, hi⟩ := h.exists_at hm
    obtain ⟨v, a, rfl, ha⟩ := hturn j n _ hj trivial i m s hlt hi
    obtain ⟨g', hg'⟩ := Verdict.Allowed.exists_error (h.sound i m _ hi) hf
    rw [ha] at hg'
    cases hg'

theorem Alert.entry_before {k : Nat} {v : Verdict} (hk : r.At k n (.settled v)) (hki : k ≤ i) :
    v.entry n.name = n.entryAlone settings.options := by
  obtain ⟨-, hi⟩ := h.first_failure hturn hover hm hf hfirst
  rcases Nat.lt_or_eq_of_le hki with hlt | rfl
  · obtain ⟨w, a, heq, ha⟩ := hturn i m _ hi trivial k n _ hlt hk
    cases heq
    rcases Verdict.Allowed.result (h.sound k n _ hk) n.name with hv | ⟨c, -, hv | hv⟩
    · rw [Verdict.entry, hv]
      rfl
    · cases ha.symm.trans hv
    · cases ha.symm.trans hv
  · obtain ⟨rfl, heq⟩ := hi.unique hk
    cases heq
    rfl

theorem Alert.entry_after {k : Nat} {v : Verdict} (hk : r.At k n (.settled v)) (hik : i < k) :
    v.entry n.name = n.entrySkipped := by
  obtain ⟨-, hi⟩ := h.first_failure hturn hover hm hf hfirst
  cases v with
  | skipped c =>
    cases h.sound k n _ hk with
    | skipped hc =>
      obtain rfl := h.cause c hc
      rfl
  | analyzed o =>
    obtain ⟨w, a, heq, ha⟩ := hturn k n _ hk trivial i m _ hik hi
    cases heq
    rw [Verdict.result, ← Method.alone, hf] at ha
    cases ha

end FirstFailure

theorem Alert.entries_eq_of_first_failure {before after : List Method}
    (h : Alert settings (before ++ m :: after) r) (hturn : r.InTurn) (hover : r.isOver = true)
    (hbefore : ∀ n ∈ before, ∃ a, n.alone settings.options = .ok a) (hf : m.alone settings.options = .error f) :
    r.failure = some (.method m.name (.noted m.name f)) ∧
      r.entries = (before ++ [m]).map (·.entryAlone settings.options) ++ after.map (·.entrySkipped) := by
  have hm : (before ++ m :: after)[before.length]? = some m := by simp
  have hfirst : ∀ k n, k < before.length → (before ++ m :: after)[k]? = some n →
      ∃ a, n.alone settings.options = .ok a := by
    intro k n hk hn
    rw [List.getElem?_append_left hk] at hn
    exact hbefore n (List.mem_of_getElem? hn)
  refine ⟨(h.first_failure hturn hover hm hf hfirst).1, ?_⟩
  apply h.entries_eq hover (by simp)
  intro k n v hk
  have hn := h.getElem?_methods hk
  rw [List.append_cons] at hn
  by_cases hle : k ≤ before.length
  · rw [List.getElem?_append_left (by simpa using Nat.lt_succ_of_le hle)] at hn
    rw [List.getElem?_append_left (by simpa using Nat.lt_succ_of_le hle), List.getElem?_map, hn,
      h.entry_before hturn hover hm hf hfirst hk hle]
    rfl
  · rw [List.getElem?_append_right (by simp; omega)] at hn
    rw [List.getElem?_append_right (by simp; omega), List.getElem?_map, List.length_map, hn,
      h.entry_after hturn hover hm hf hfirst hk (Nat.lt_of_not_le hle)]
    rfl

/-! ## Every schedule -/

section Schedule

variable {schedule : List Action} (hff : settings.failFast = true) (hu : Undisturbed schedule)
  (h : (start settings methods none).steps? schedule = some r)

include hff hu h

theorem alert_of_steps? : Alert settings methods r :=
  steps?_induction (fun _ _ _ ha hm hr => hr.step hff ha hm) hu h (alert_start settings methods)

theorem inTurn_of_steps? (hw : settings.workers = 1) : r.InTurn := by
  have hboth : Alert settings methods r ∧ r.InTurn := by
    apply steps?_induction (P := fun r => Alert settings methods r ∧ r.InTurn) ?_ hu h
    · refine ⟨alert_start settings methods, ?_⟩
      intro j n t hat ht
      obtain ⟨-, rfl⟩ := at_start.1 hat
      cases ht
    · rintro r a r' ha hm ⟨halert, hturn⟩
      obtain ⟨i, m, s, s', hshift⟩ := hm.exists_shift ha
      exact ⟨halert.step hff ha hm, hturn.step halert hw hshift⟩
  exact hboth.2

end Schedule

/-- A run that is to fail fast, and that is not stopped from outside, ends unless a worker crashes
over code that was not checked. It fails under every schedule if and only if some method
fails on its own. Then its failure names such a method and holds what that method fails
with, and every entry is that of the method on its own or says that the run was stopped.
With one worker, the entries up to the first method that fails are those of the methods on
their own, and all others have been skipped. -/
theorem fails_with_own_failure (settings : Settings) (methods : List Method) (hff : settings.failFast = true) :
    (1 ≤ settings.workers → Safe settings methods → (start settings methods none).Ends) ∧
    ∀ schedule r, Undisturbed schedule → (start settings methods none).steps? schedule = some r →
      r.isOver = true →
      (r.error?.isSome = true ↔ ∃ m ∈ methods, ∃ f, m.alone settings.options = .error f) ∧
      (∀ e, r.error? = some e → e.kind ≠ .canceled ∧
        ∃ (i : Nat) (m : Method) (f : Failure), methods[i]? = some m ∧ m.alone settings.options = .error f ∧
          e = .method m.name (.noted m.name f) ∧ r.entries[i]? = some (m.entryAlone settings.options)) ∧
      List.Forall₂ (Method.Reported settings.options) methods r.entries ∧
      (settings.workers = 1 → ∀ before m after f, methods = before ++ m :: after →
        (∀ n ∈ before, ∃ a, n.alone settings.options = .ok a) → m.alone settings.options = .error f →
        r.error? = some (.method m.name (.noted m.name f)) ∧
        r.entries = (before ++ [m]).map (·.entryAlone settings.options) ++ after.map (·.entrySkipped)) := by
  refine ⟨ends_start none, ?_⟩
  intro schedule r hu h hover
  have halert := alert_of_steps? hff hu h
  have herror : r.error? = r.failure := by simp [error?, halert.canceled]
  rw [herror]
  refine ⟨halert.failure_isSome_iff hover, ?_, halert.reported hover, ?_⟩
  · intro e he
    obtain ⟨i, m, f, hm, hf, rfl, hentry⟩ := halert.blames_entry hover he
    have hkind : f.kind ≠ .canceled := Outcome.kind_ne_canceled hf
    exact ⟨hkind, i, m, f, hm, hf, rfl, hentry⟩
  · rintro hw before m after f rfl hbefore hf
    exact halert.entries_eq_of_first_failure (inTurn_of_steps? hff hu h hw) hover hbefore hf

/-- Two workers have the first two methods. The second one fails while the first is between
two passes and the third waits, so the first is cut short and the third skipped. -/
def overtaken : List Action :=
  [.submit, .start, .submit, .start, .submit, .work 1, .work 0, .handIn 1, .work 0, .leave 1, .start,
    .work 2, .work 0, .handIn 0, .handIn 2, .leave 2, .leave 0]

/-- One worker has the methods in turn, and each waits for the one before it. -/
def queuedUp : List Action :=
  [.submit, .start, .submit, .work 0, .work 0, .work 0, .handIn 0, .leave 0, .start, .submit, .work 1,
    .handIn 1, .leave 1, .start, .work 2, .handIn 2, .leave 2]

theorem fails_threeMethods :
    (∃ r, (start ⟨2, true, {}⟩ threeMethods none).steps? overtaken = some r ∧ r.isOver = true ∧
      r.error?.isSome = true ∧ (∀ e, r.error? = some e → e.kind ≠ .canceled) ∧
      List.Forall₂ (Method.Reported {}) threeMethods r.entries) ∧
    ∃ r, (start ⟨1, true, {}⟩ threeMethods none).steps? queuedUp = some r ∧ r.isOver = true ∧
      r.error? = some (.method "idle" (.noted "idle" .nilBody)) ∧
      r.entries = (threeMethods.take 2).map (·.entryAlone {}) ++ (threeMethods.drop 2).map (·.entrySkipped) := by
  constructor
  · have hover : ((start ⟨2, true, {}⟩ threeMethods none).steps? overtaken).any isOver = true := by
      decide +kernel
    obtain ⟨r, hr, hover⟩ := (Option.any_eq_true _ _).1 hover
    obtain ⟨hiff, herror, hreported, -⟩ := (fails_with_own_failure ⟨2, true, {}⟩ threeMethods rfl).2
      overtaken r (by simp [Undisturbed, overtaken]) hr hover
    have hfails : ∃ m ∈ threeMethods, ∃ f, m.alone {} = .error f :=
      ⟨⟨"idle", none⟩, by simp [threeMethods], .nilBody, rfl⟩
    exact ⟨r, hr, hover, hiff.2 hfails, fun e he => (herror e he).1, hreported⟩
  · have hover : ((start ⟨1, true, {}⟩ threeMethods none).steps? queuedUp).any isOver = true := by
      decide +kernel
    obtain ⟨r, hr, hover⟩ := (Option.any_eq_true _ _).1 hover
    obtain ⟨-, -, -, hone⟩ := (fails_with_own_failure ⟨1, true, {}⟩ threeMethods rfl).2
      queuedUp r (by simp [Undisturbed, queuedUp]) hr hover
    have hbefore : ∀ n ∈ threeMethods.take 1, ∃ a, n.alone {} = .ok a := by
      intro n hn
      obtain rfl := List.mem_singleton.1 hn
      exact Outcome.exists_result_trapAndTwoExits.2
    obtain ⟨herror, hentries⟩ := hone rfl (threeMethods.take 1) ⟨"idle", none⟩ (threeMethods.drop 2) .nilBody
      rfl hbefore rfl
    exact ⟨r, hr, hover, herror, hentries⟩

end Run

end ControlDependence.Batch
