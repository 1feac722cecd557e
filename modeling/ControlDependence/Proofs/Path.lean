-- SUMMARY: Paths of a flow graph, post-dominance as a property of all of them, and its order.
import Mathlib.Data.List.Nodup
import ControlDependence.Graph.Flow

/-!
# Paths and post-dominance

Everything here speaks of the graph alone. `g.Path X p` says that `p` follows
successor edges and ends in an element of `X`; an instruction post-dominates
another if it lies on every such path from it. Post-dominance is a partial order on
the instructions that can reach `X`: a path can be made free of repetition, and on
such a path two instructions cannot each come after the other.
-/
namespace ControlDependence.Flow

variable {g : Flow} {X : Nat → Prop}

/-! ## Paths -/

/-- The list follows successor edges and ends in an element of `X`. -/
inductive Path (g : Flow) (X : Nat → Prop) : List Nat → Prop where
  | stop {x : Nat} : X x → Path g X [x]
  | step {v s : Nat} {p : List Nat} : s ∈ g.succs v → Path g X (s :: p) → Path g X (v :: s :: p)

/-- Some path leads from `v` to an element of `X`. -/
def Reaches (g : Flow) (X : Nat → Prop) (v : Nat) : Prop := ∃ p, g.Path X (v :: p)

theorem Path.drop {p q : List Nat} {v : Nat} (h : g.Path X (p ++ v :: q)) : g.Path X (v :: q) := by
  induction p with
  | nil => exact h
  | cons u p ih =>
    cases p with
    | nil =>
      cases h with
      | step _ h => exact h
    | cons w p =>
      cases h with
      | step _ h => exact ih h

/-- A path may go on along another path from any of its instructions, to another set. -/
theorem Path.splice {Y : Nat → Prop} {p q r : List Nat} {v : Nat} (h : g.Path X (p ++ v :: q))
    (h' : g.Path Y (v :: r)) : g.Path Y (p ++ v :: r) := by
  induction p with
  | nil => exact h'
  | cons u p ih =>
    cases p with
    | nil =>
      cases h with
      | step hs _ => exact .step hs h'
    | cons w p =>
      cases h with
      | step hs h => exact .step hs (ih h)

/-- The part of a path up to one of its instructions. -/
theorem Path.take {Y : Nat → Prop} {p l r : List Nat} {v u : Nat} (h : g.Path X (v :: p))
    (hp : v :: p = l ++ u :: r) (hu : Y u) : ∃ q, v :: q = l ++ [u] ∧ g.Path Y (v :: q) := by
  have hpath : g.Path Y (l ++ [u]) := Path.splice (hp ▸ h) (.stop hu)
  cases l with
  | nil =>
    cases hp
    exact ⟨[], rfl, hpath⟩
  | cons w l =>
    cases hp
    exact ⟨l ++ [u], rfl, hpath⟩

theorem Path.eq_append_singleton {m : Nat} {p : List Nat} (h : g.Path (· = m) p) :
    ∃ l, p = l ++ [m] := by
  induction h with
  | @stop x hx => exact ⟨[], hx ▸ rfl⟩
  | @step v s p _ _ ih =>
    obtain ⟨l, hl⟩ := ih
    exact ⟨v :: l, by rw [hl, List.cons_append]⟩

/-- Cutting out the loops of a path leaves a path that repeats nothing. -/
theorem Path.exists_nodup {v : Nat} {p : List Nat} (h : g.Path X (v :: p)) :
    ∃ q, g.Path X (v :: q) ∧ (v :: q).Nodup ∧ q ⊆ p := by
  induction hn : p.length using Nat.strongRecOn generalizing v p with
  | ind n ih =>
    cases h with
    | stop hx => exact ⟨[], .stop hx, by simp, by simp⟩
    | @step _ s p hs h =>
      obtain ⟨q, hq, hnd, hsub⟩ := ih p.length (by simp at hn; omega) h rfl
      by_cases hv : v ∈ s :: q
      · -- The rest comes back to `v`: start over from there.
        obtain ⟨a, b, hab⟩ := List.append_of_mem hv
        rw [hab] at hq hnd
        refine ⟨b, hq.drop, (List.nodup_append.1 hnd).2.1, fun x hx => ?_⟩
        have hx' : x ∈ s :: q := by rw [hab]; simp [hx]
        exact (List.mem_cons.1 hx').elim (by simp +contextual) fun h => List.mem_cons_of_mem _ (hsub h)
      · refine ⟨s :: q, .step hs hq, List.nodup_cons.2 ⟨hv, hnd⟩, ?_⟩
        exact List.cons_subset_cons _ hsub

theorem Reaches.of_path_mem {p : List Nat} {v : Nat} (h : g.Path X p) (hv : v ∈ p) :
    g.Reaches X v := by
  obtain ⟨a, b, rfl⟩ := List.append_of_mem hv
  exact ⟨b, h.drop⟩

/-! ## Post-dominance -/

/-- `v` can reach `X`, and `y` lies on every path by which it does. -/
def PostDominates (g : Flow) (X : Nat → Prop) (y v : Nat) : Prop :=
  g.Reaches X v ∧ ∀ p, g.Path X (v :: p) → y ∈ v :: p

/-- `y` is the nearest of the instructions other than `v` that post-dominate it. -/
def ImmediatelyPostDominates (g : Flow) (X : Nat → Prop) (y v : Nat) : Prop :=
  y ≠ v ∧ g.PostDominates X y v ∧ ∀ z, z ≠ v → z ≠ y → g.PostDominates X z v → g.PostDominates X z y

namespace PostDominates

theorem refl {v : Nat} (h : g.Reaches X v) : g.PostDominates X v v :=
  ⟨h, fun _ _ => List.mem_cons_self ..⟩

/-- A post-dominator can itself reach `X`. -/
theorem reaches {y v : Nat} (h : g.PostDominates X y v) : g.Reaches X y := by
  obtain ⟨⟨p, hp⟩, hall⟩ := h
  exact .of_path_mem hp (hall p hp)

/-- A path that agrees with one from `v` at its start is one from `v`. -/
theorem mem_of_append {y v a : Nat} {p l r c : List Nat} (h : g.PostDominates X y v)
    (hp : v :: p = l ++ a :: r) (hc : g.Path X (l ++ a :: c)) : y ∈ l ++ a :: c := by
  cases l with
  | nil =>
    cases hp
    exact h.2 _ hc
  | cons _ l =>
    cases hp
    exact h.2 _ hc

theorem trans {y v z : Nat} (h : g.PostDominates X y v) (h' : g.PostDominates X z y) :
    g.PostDominates X z v := by
  refine ⟨h.1, fun p hp => ?_⟩
  obtain ⟨a, b, hab⟩ := List.append_of_mem (h.2 p hp)
  rw [hab] at hp ⊢
  exact List.mem_append_right _ (h'.2 b hp.drop)

theorem antisymm {y v : Nat} (h : g.PostDominates X y v) (h' : g.PostDominates X v y) : y = v := by
  obtain ⟨p, hp⟩ := h.1
  obtain ⟨q, hq, hnd, -⟩ := hp.exists_nodup
  rcases List.mem_cons.1 (h.2 q hq) with rfl | hy
  · rfl
  · -- After `y` the path would have to come back to `v`.
    obtain ⟨a, b, rfl⟩ := List.append_of_mem hy
    have hv := h'.2 b (Path.drop (p := v :: a) hq)
    exact absurd (List.mem_append_right a hv) (List.nodup_cons.1 hnd).1

/-- Of two post-dominators of an instruction one post-dominates the other. -/
theorem total {y z v : Nat} (hy : g.PostDominates X y v) (hz : g.PostDominates X z v) :
    g.PostDominates X y z ∨ g.PostDominates X z y := by
  obtain ⟨p, hp⟩ := hy.1
  obtain ⟨q, hq, hnd, -⟩ := hp.exists_nodup
  -- Whichever comes second on a path without repetition is met after any detour from the first.
  have hsecond : ∀ {a b : Nat} {l r : List Nat}, v :: q = l ++ a :: r → b ∈ a :: r →
      g.PostDominates X b v → g.Reaches X a → g.PostDominates X b a := by
    intro a b l r hqr hb hbv ha
    refine ⟨ha, fun c hc => ?_⟩
    have hmem := hbv.mem_of_append hqr ((hqr ▸ hq).splice hc)
    refine (List.mem_append.1 hmem).resolve_left fun hbl => ?_
    rw [hqr] at hnd
    exact (List.nodup_append.1 hnd).2.2 b hbl b hb rfl
  obtain ⟨l, r, hqr⟩ := List.append_of_mem (hy.2 q hq)
  by_cases hzr : z ∈ y :: r
  · exact .inr (hsecond hqr hzr hz hy.reaches)
  · have hzl : z ∈ l := (List.mem_append.1 (hqr ▸ hz.2 q hq)).resolve_right hzr
    obtain ⟨a, b, rfl⟩ := List.append_of_mem hzl
    rw [List.append_assoc, List.cons_append] at hqr
    exact .inl (hsecond hqr (by simp) hy hz.reaches)

/-- What post-dominates an instruction, other than itself, post-dominates every
successor that can reach `X`. -/
theorem of_succ {y v s : Nat} (h : g.PostDominates X y v) (hne : y ≠ v) (hs : s ∈ g.succs v)
    (hr : g.Reaches X s) : g.PostDominates X y s :=
  ⟨hr, fun _ hp => (List.mem_cons.1 (h.2 _ (.step hs hp))).resolve_left hne⟩

/-- A post-dominator that is in turn post-dominated by `m` is passed on the way to `m`. -/
theorem exists_shorter {m w v : Nat} {p : List Nat} (hw : g.PostDominates X w v) (hwv : w ≠ v)
    (hm : g.PostDominates X m w) (hwm : w ≠ m) (hp : g.Path (· = m) (v :: p)) :
    ∃ q, q.length < p.length ∧ g.Path (· = m) (w :: q) := by
  obtain ⟨r, hr⟩ := hm.reaches
  obtain ⟨r, hr, hnd, -⟩ := hr.exists_nodup
  obtain ⟨l, hl⟩ := hp.eq_append_singleton
  -- Past `m` the path goes on to `X` without coming back to it, so `w` is not there.
  have hwr : w ∉ r := by
    intro hwr
    obtain ⟨a, b, rfl⟩ := List.append_of_mem hwr
    have hmb := hm.2 b (Path.drop (p := m :: a) hr)
    exact (List.nodup_cons.1 hnd).1 (List.mem_append_right _ hmb)
  have hwhole : g.Path X (l ++ m :: r) := Path.splice (hl ▸ hp) hr
  have hwl : w ∈ l := by simpa [hwm, hwr] using hw.mem_of_append hl hwhole
  obtain ⟨a, b, rfl⟩ := List.append_of_mem hwl
  have hlen := congrArg List.length hl
  rw [List.append_assoc, List.cons_append] at hl
  refine ⟨b ++ [m], ?_, Path.drop (hl ▸ hp)⟩
  cases a with
  | nil => exact absurd (List.cons.inj hl).1.symm hwv
  | cons =>
    simp only [List.length_cons, List.length_append, List.length_nil] at hlen ⊢
    omega

end PostDominates

/-- Of the post-dominators of an instruction other than itself, the first on any path is
the nearest. -/
theorem exists_immediatelyPostDominates {y v : Nat} (h : g.PostDominates X y v) (hne : y ≠ v) :
    ∃ m, g.ImmediatelyPostDominates X m v := by
  classical
  obtain ⟨p, hp⟩ := h.1
  have hyp : y ∈ p := (List.mem_cons.1 (h.2 p hp)).resolve_left hne
  obtain ⟨m, a, b, hfirst, hm, rfl, -⟩ :=
    List.exists_of_eraseP (p := fun x => g.PostDominates X x v ∧ x ≠ v) hyp (by simp [h, hne])
  simp only [decide_eq_true_eq] at hfirst hm
  refine ⟨m, hm.2, hm.1, fun z hzv hzm hz => ⟨hm.1.reaches, fun r hr => ?_⟩⟩
  -- A path from `m` continues one from `v` that meets no post-dominator before `m`.
  have hmem := hz.2 _ (Path.splice (p := v :: a) hp hr)
  rcases List.mem_cons.1 hmem with rfl | hmem
  · exact absurd rfl hzv
  · exact (List.mem_append.1 hmem).resolve_left fun hza => hfirst z hza ⟨hz, hzv⟩

end ControlDependence.Flow
