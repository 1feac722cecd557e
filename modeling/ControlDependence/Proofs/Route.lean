-- SUMMARY: Routes to the ranked exits, and the instructions that guard them with respect to rank.
import Mathlib.Data.List.Chain
import ControlDependence.Proofs.Forest
import ControlDependence.Proofs.Path

/-!
# Routes and guards

A route is a path to a ranked exit on which no instruction directly follows itself. An
instruction guards another if on every route from it there is nothing of the guard's
rank or above before the guard. A guard post-dominates what it guards; the converse
needs every instruction to have a way to an exit along rising ranks.

The fixpoint computes guards and not post-dominators. That is because the walk along
two chains advances the finger of lower rank, and so passes over any meeting point that
lies below an instruction it has reached.
-/
namespace ControlDependence

variable {g : Flow} {o : Numbering}

/-- The exits that the numbering reached. -/
def Numbering.Ends (g : Flow) (o : Numbering) (x : Nat) : Prop := 0 < o.rank x ∧ g.succs x = []

/-- A path to a ranked exit that never stays where it is. -/
def Route (g : Flow) (o : Numbering) (p : List Nat) : Prop := g.Path (o.Ends g) p ∧ p.IsChain (· ≠ ·)

/-- The list comes to `y`, and everything before ranks below it. -/
def Hits (o : Numbering) (y : Nat) : List Nat → Prop
  | [] => False
  | v :: p => v = y ∨ o.rank v < o.rank y ∧ Hits o y p

/-- Every route from `v` hits `y`. -/
def Guards (g : Flow) (o : Numbering) (y v : Nat) : Prop := ∀ p, Route g o (v :: p) → Hits o y (v :: p)

/-- Every route from `v` hits `y` once it has left `v`. -/
def GuardsAfter (g : Flow) (o : Numbering) (y v : Nat) : Prop :=
  ∀ s p, Route g o (v :: s :: p) → Hits o y (s :: p)

/-- Some route from `x` does not go through `y`. -/
def Avoids (g : Flow) (o : Numbering) (y x : Nat) : Prop := ∃ p, Route g o (x :: p) ∧ y ∉ x :: p

/-- The number of steps that do not go up in rank. -/
def retreats (o : Numbering) : List Nat → Nat
  | v :: s :: p => (if o.rank v < o.rank s then 0 else 1) + retreats o (s :: p)
  | _ => 0

/-! ## Routes -/

theorem route_singleton {x : Nat} : Route g o [x] ↔ o.Ends g x := by
  refine ⟨fun h => ?_, fun h => ⟨.stop h, by simp⟩⟩
  cases h.1 with
  | stop hx => exact hx

theorem route_cons_cons {v s : Nat} {p : List Nat} :
    Route g o (v :: s :: p) ↔ s ∈ g.succs v ∧ s ≠ v ∧ Route g o (s :: p) := by
  constructor
  · rintro ⟨hp, hc⟩
    rw [List.isChain_cons_cons] at hc
    cases hp with
    | step hs hp => exact ⟨hs, Ne.symm hc.1, hp, hc.2⟩
  · rintro ⟨hs, hne, hp, hc⟩
    exact ⟨.step hs hp, List.isChain_cons_cons.2 ⟨Ne.symm hne, hc⟩⟩

namespace Route

theorem drop {p q : List Nat} {v : Nat} (h : Route g o (p ++ v :: q)) : Route g o (v :: q) :=
  ⟨h.1.drop, (List.isChain_split.1 h.2).2⟩

theorem splice {p q r : List Nat} {v : Nat} (h : Route g o (p ++ v :: q)) (h' : Route g o (v :: r)) :
    Route g o (p ++ v :: r) :=
  ⟨h.1.splice h'.1, List.isChain_split.2 ⟨(List.isChain_split.1 h.2).1, h'.2⟩⟩

theorem ranked (ho : o.Orders g) {p : List Nat} (h : Route g o p) {v : Nat} (hv : v ∈ p) : 0 < o.rank v := by
  obtain ⟨hp, -⟩ := h
  induction hp generalizing v with
  | stop hx =>
    cases List.mem_singleton.1 hv
    exact hx.1
  | step hs _ ih =>
    rcases List.mem_cons.1 hv with rfl | hv
    · exact ho.pred_ranked _ _ hs (ih (List.mem_cons_self ..))
    · exact ih hv

theorem of_mem {p : List Nat} {v : Nat} (h : Route g o p) (hv : v ∈ p) : ∃ r, Route g o (v :: r) := by
  obtain ⟨a, b, rfl⟩ := List.append_of_mem hv
  exact ⟨b, h.drop⟩

theorem of_path {v : Nat} {p : List Nat} (h : g.Path (o.Ends g) (v :: p)) :
    ∃ q, Route g o (v :: q) ∧ (v :: q).Nodup ∧ q ⊆ p := by
  obtain ⟨q, hq, hnd, hsub⟩ := h.exists_nodup
  exact ⟨q, ⟨hq, hnd.isChain⟩, hnd, hsub⟩

end Route

/-- An exit's only route stays there; from anything else a route goes on. -/
theorem exists_route_cons {v : Nat} {p : List Nat} (h : Route g o (v :: p)) (hx : g.succs v ≠ []) :
    ∃ s q, p = s :: q := by
  cases p with
  | nil => exact absurd (route_singleton.1 h).2 hx
  | cons s q => exact ⟨s, q, rfl⟩

/-! ## Hitting -/

theorem hits_iff {y : Nat} {l : List Nat} :
    Hits o y l ↔ ∃ q r, l = q ++ y :: r ∧ ∀ x ∈ q, o.rank x < o.rank y := by
  induction l with
  | nil => simp [Hits]
  | cons v l ih =>
    rw [Hits, ih]
    constructor
    · rintro (rfl | ⟨hlt, q, r, rfl, hq⟩)
      · exact ⟨[], l, rfl, by simp⟩
      · exact ⟨v :: q, r, rfl, List.forall_mem_cons.2 ⟨hlt, hq⟩⟩
    · rintro ⟨q, r, hl, hq⟩
      cases q with
      | nil => exact .inl (List.cons.inj hl).1
      | cons x q =>
        obtain ⟨rfl, rfl⟩ := List.cons.inj hl
        exact .inr ⟨hq v (by simp), q, r, rfl, fun x hx => hq x (by simp [hx])⟩

theorem Hits.mem {y : Nat} {l : List Nat} (h : Hits o y l) : y ∈ l := by
  obtain ⟨q, r, rfl, -⟩ := hits_iff.1 h
  simp

theorem Hits.rank_le {y v : Nat} {l : List Nat} (h : Hits o y (v :: l)) : o.rank v ≤ o.rank y := by
  rcases h with rfl | ⟨hlt, -⟩
  · exact le_rfl
  · exact hlt.le

/-- To hit an instruction that ranks no lower, go on from the one that is hit first. -/
theorem hits_append {w f : Nat} {q r : List Nat} (hq : ∀ x ∈ q, o.rank x < o.rank f)
    (h : Hits o w (f :: r)) : Hits o w (q ++ f :: r) := by
  have hle := h.rank_le
  induction q with
  | nil => exact h
  | cons x q ih =>
    refine .inr ⟨Nat.lt_of_lt_of_le (hq x (by simp)) hle, ih fun u hu => hq u (by simp [hu])⟩

/-! ## Guards -/

namespace Guards

theorem of_succ {y v s : Nat} (h : GuardsAfter g o y v) (hs : s ∈ g.succs v) (hne : s ≠ v) :
    Guards g o y s :=
  fun p hp => h s p (route_cons_cons.2 ⟨hs, hne, hp⟩)

/-- A guard other than the instruction itself ranks above it and guards it from then on. -/
theorem of_ne {y v : Nat} {p : List Nat} (h : Guards g o y v) (hne : v ≠ y) (hr : Route g o (v :: p)) :
    o.rank v < o.rank y ∧ g.succs v ≠ [] ∧ GuardsAfter g o y v := by
  refine ⟨((h p hr).resolve_left hne).1, fun hx => ?_, fun s q hq => ?_⟩
  · have hstop : Route g o [v] := route_singleton.2 ⟨?_, hx⟩
    · exact ((h [] hstop).resolve_left hne).2
    · cases p with
      | nil => exact (route_singleton.1 hr).1
      | cons s p => exact absurd (route_cons_cons.1 hr).1 (by simp [hx])
  · exact ((h _ hq).resolve_left hne).2

theorem antisymm {y v : Nat} {p : List Nat} (h : Guards g o y v) (h' : Guards g o v y)
    (hr : Route g o (v :: p)) : y = v := by
  by_contra hne
  obtain ⟨hlt, -⟩ := h.of_ne (Ne.symm hne) hr
  obtain ⟨q, r, hqr, -⟩ := hits_iff.1 (h p hr)
  rw [hqr] at hr
  exact absurd ((h' r hr.drop).rank_le) (by omega)

end Guards

/-! ## Avoiding -/

/-- A route that contains an instruction and does not hit it rises above it first. -/
theorem exists_above_of_not_hits (ho : o.Orders g) {y : Nat} (hy : 0 < o.rank y) {m : List Nat} (hmem : y ∈ m)
    (h : ¬ Hits o y m) : ∃ (l : List Nat) (u : Nat) (r : List Nat), m = l ++ u :: r ∧ y ∉ l ∧ o.rank y < o.rank u := by
  induction m with
  | nil => simp at hmem
  | cons v m ih =>
    obtain ⟨hne, hor⟩ := not_or.1 h
    by_cases hlt : o.rank v < o.rank y
    · obtain ⟨l, u, r, rfl, hl, hu⟩ := ih ((List.mem_cons.1 hmem).resolve_left (Ne.symm hne))
        fun hm => hor ⟨hlt, hm⟩
      exact ⟨v :: l, u, r, rfl, by simp [hl, Ne.symm hne], hu⟩
    · have hr : o.rank y ≠ o.rank v := fun he => hne (ho.eq_of_rank_eq hy he).symm
      exact ⟨[], v, m, rfl, by simp, by omega⟩

theorem mem_of_not_avoids {y v : Nat} {p : List Nat} (h : ¬ Avoids g o y v) (hr : Route g o (v :: p)) :
    y ∈ v :: p := by
  by_contra hy
  exact h ⟨p, hr, hy⟩

theorem Avoids.of_append {y v x : Nat} {q l r : List Nat} (hr : Route g o (v :: q)) (hq : v :: q = l ++ x :: r)
    (hl : y ∉ l) (hx : Avoids g o y x) : Avoids g o y v := by
  obtain ⟨p, hp, hy⟩ := hx
  have hsplice : Route g o (l ++ x :: p) := Route.splice (hq ▸ hr) hp
  have hmem : y ∉ l ++ x :: p := by simp only [List.mem_append, not_or]; exact ⟨hl, hy⟩
  cases l with
  | nil =>
    cases hq
    exact ⟨p, hsplice, hmem⟩
  | cons u l =>
    cases hq
    exact ⟨_, hsplice, hmem⟩

/-- What can be avoided from an instruction that a route comes to before it can be avoided
from the start. -/
theorem Avoids.of_mem {y v x b : Nat} {q l r : List Nat} (hr : Route g o (v :: q)) (hq : v :: q = l ++ b :: r)
    (hl : y ∉ l) (hx : x ∈ l) (h : Avoids g o y x) : Avoids g o y v := by
  obtain ⟨l', l'', rfl⟩ := List.append_of_mem hx
  rw [List.append_assoc] at hq
  exact .of_append hr hq (fun hy => hl (List.mem_append_left _ hy)) h

/-- Past an instruction a route need not come back to it. -/
theorem Route.exists_after {y : Nat} {p : List Nat} (h : Route g o (y :: p)) :
    ∃ q, Route g o (y :: q) ∧ (y :: q).Nodup ∧ ∀ z ∈ q, Avoids g o y z := by
  obtain ⟨q, hq, hnd, -⟩ := Route.of_path h.1
  refine ⟨q, hq, hnd, fun z hz => ?_⟩
  obtain ⟨a, b, rfl⟩ := List.append_of_mem hz
  refine ⟨b, Route.drop (p := y :: a) hq, fun hy => ?_⟩
  exact (List.nodup_cons.1 hnd).1 (List.mem_append_right _ hy)

/-- Post-dominators are the instructions that no route avoids. -/
theorem postDominates_iff {y v : Nat} :
    g.PostDominates (o.Ends g) y v ↔ (∃ p, Route g o (v :: p)) ∧ ¬ Avoids g o y v := by
  constructor
  · rintro ⟨⟨p, hp⟩, hall⟩
    obtain ⟨q, hq, -⟩ := Route.of_path hp
    exact ⟨⟨q, hq⟩, fun ⟨r, hr, hy⟩ => hy (hall r hr.1)⟩
  · rintro ⟨⟨p, hp⟩, hnot⟩
    refine ⟨⟨p, hp.1⟩, fun r hr => ?_⟩
    obtain ⟨q, hq, -, hsub⟩ := Route.of_path hr
    by_contra hy
    exact hnot ⟨q, hq, fun hmem => hy (List.cons_subset_cons _ hsub hmem)⟩

theorem Guards.postDominates {y v : Nat} {p : List Nat} (h : Guards g o y v) (hr : Route g o (v :: p)) :
    g.PostDominates (o.Ends g) y v :=
  postDominates_iff.2 ⟨⟨p, hr⟩, fun ⟨q, hq, hy⟩ => hy (h q hq).mem⟩

end ControlDependence
