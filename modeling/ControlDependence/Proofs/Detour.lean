-- SUMMARY: A route that misses an instruction can be chosen with fewer retreats than there are ranks.
import ControlDependence.Proofs.Route

/-!
# Detours

How many retreats does it take to miss an instruction `y`? If some route avoids `y`
altogether, one without repetition does. Otherwise the route has to get above `y`, come
down again to `y` and go on to an exit. The search forest makes both moves cheap. Until
it can rise above `y` for free the route visits instructions that cannot (`Escapes`); on
the way down it visits instructions that can, up to the first below `y` in the forest,
from where it rises to `y` for free; and after `y` it visits instructions from which `y`
can be avoided. No instruction is of two of these kinds, so the retreats of the three
stretches together are fewer than the ranked instructions.
-/
namespace ControlDependence

variable {g : Flow} {o : Numbering} {lo : Nat → Nat} {y : Nat}

theorem retreats_lt_length {v : Nat} {p : List Nat} : retreats o (v :: p) < (v :: p).length := by
  induction p generalizing v with
  | nil => simp [retreats]
  | cons s p ih =>
    have := ih (v := s)
    simp only [retreats, List.length_cons] at this ⊢
    split <;> omega

theorem retreats_append_le {l r : List Nat} {b : Nat} :
    retreats o (l ++ b :: r) ≤ l.length + retreats o (b :: r) := by
  induction l with
  | nil => simp
  | cons v l ih =>
    cases l with
    | nil =>
      simp only [List.cons_append, List.nil_append, retreats, List.length_cons, List.length_nil]
      split <;> omega
    | cons s l =>
      simp only [List.cons_append, retreats, List.length_cons] at ih ⊢
      split <;> omega

theorem hits_of_append {l m : List Nat} (hl : y ∉ l) (h : Hits o y (l ++ m)) : Hits o y m := by
  induction l with
  | nil => exact h
  | cons v l ih =>
    obtain ⟨hne, hl⟩ := not_or.1 (mt List.mem_cons.2 hl)
    exact ih hl (h.resolve_left (Ne.symm hne)).2

/-! ## Legs -/

/-- The way to the first instruction in `X`, without repetition. What holds at the start
and is kept along the way holds of all it visits. -/
theorem exists_leg {X I : Nat → Prop} {a : Nat} {p : List Nat} (h : g.Path X (a :: p)) (ha : I a)
    (hI : ∀ v s, s ∈ g.succs v → v ∈ a :: p → s ∈ a :: p → ¬ X v → I v → I s) :
    ∃ l b, X b ∧ l.Nodup ∧ (∀ x ∈ l, ¬ X x ∧ I x ∧ x ∈ a :: p) ∧ b ∈ a :: p ∧
      ∀ r, Route g o (b :: r) → ∃ q, a :: q = l ++ b :: r ∧ Route g o (a :: q) := by
  obtain ⟨q, hq, hnd, hsub⟩ := h.exists_nodup
  replace hsub : a :: q ⊆ a :: p := List.cons_subset_cons _ hsub
  suffices hleg : ∃ l b, X b ∧ l.Nodup ∧ (∀ x ∈ l, ¬ X x ∧ I x ∧ x ∈ a :: q) ∧ b ∈ a :: q ∧
      ∀ r, Route g o (b :: r) → ∃ q, a :: q = l ++ b :: r ∧ Route g o (a :: q) by
    obtain ⟨l, b, hb, hlnd, hl, hbq, hroute⟩ := hleg
    exact ⟨l, b, hb, hlnd, fun x hx => ⟨(hl x hx).1, (hl x hx).2.1, hsub (hl x hx).2.2⟩, hsub hbq, hroute⟩
  clear h
  generalize a :: p = whole at hI hsub
  induction q generalizing a with
  | nil =>
    cases hq with
    | stop hx => exact ⟨[], a, hx, .nil, by simp, by simp, fun r hr => ⟨r, rfl, hr⟩⟩
  | cons s q ih =>
    by_cases hx : X a
    · exact ⟨[], a, hx, .nil, by simp, by simp, fun r hr => ⟨r, rfl, hr⟩⟩
    · cases hq with
      | step hs hq =>
        obtain ⟨hout, hnd⟩ := List.nodup_cons.1 hnd
        obtain ⟨hmem, hsub⟩ := List.cons_subset.1 hsub
        have hIs : I s := hI a s hs hmem (hsub (by simp)) hx ha
        obtain ⟨l, b, hb, hlnd, hl, hbq, hroute⟩ := ih hIs hq hnd hsub
        refine ⟨a :: l, b, hb, List.nodup_cons.2 ⟨fun hal => hout (hl a hal).2.2, hlnd⟩, ?_,
          List.mem_cons_of_mem _ hbq, fun r hr => ?_⟩
        · refine List.forall_mem_cons.2 ⟨⟨hx, ha, by simp⟩, fun x hxl => ?_⟩
          exact ⟨(hl x hxl).1, (hl x hxl).2.1, List.mem_cons_of_mem _ (hl x hxl).2.2⟩
        · obtain ⟨q', hq', hr'⟩ := hroute r hr
          refine ⟨s :: q', by simp [hq'], route_cons_cons.2 ⟨hs, ?_, hr'⟩⟩
          rintro rfl
          exact hout (by simp)

/-! ## Rising -/

/-- A way up in rank from one instruction to another, by instructions that satisfy `P`. -/
inductive Rises (g : Flow) (o : Numbering) (P : Nat → Prop) (u : Nat) : Nat → Prop where
  | here : Rises g o P u u
  | up {v s : Nat} : P v → s ∈ g.succs v → o.rank v < o.rank s → Rises g o P u s → Rises g o P u v

theorem Rises.mono {P Q : Nat → Prop} {u v : Nat} (h : Rises g o P u v) (hPQ : ∀ x, P x → Q x) :
    Rises g o Q u v := by
  induction h with
  | here => exact .here
  | up hP hs hlt _ ih => exact .up (hPQ _ hP) hs hlt ih

/-- A route can be prolonged downwards along a rise at no cost. -/
theorem Rises.route {P : Nat → Prop} {u v : Nat} {r : List Nat} (h : Rises g o P u v)
    (hr : Route g o (u :: r)) :
    ∃ l q, v :: q = l ++ u :: r ∧ (∀ x ∈ l, P x) ∧ Route g o (v :: q) ∧
      retreats o (v :: q) = retreats o (u :: r) := by
  induction h with
  | here => exact ⟨[], r, rfl, by simp, hr, rfl⟩
  | @up v s hP hs hlt _ ih =>
    obtain ⟨l, q, hq, hl, hroute, hcost⟩ := ih
    refine ⟨v :: l, s :: q, by simp [hq], List.forall_mem_cons.2 ⟨hP, hl⟩, route_cons_cons.2 ⟨hs, ?_, hroute⟩, ?_⟩
    · rintro rfl
      omega
    · simp [retreats, hlt, hcost]

/-- Inside an interval of the forest there is a way up to its top, and all on the way has
the start in its own interval. -/
theorem rises_of_forest (hg : g.WellFormed) (ho : o.Orders g)
    (hf : Search.Forest g (fun v => o.rank v) lo 0 o.sequence) {x z h : Nat} (hz : z ∈ o.sequence)
    (hh : h ∈ o.sequence) (hxz : lo z ≤ o.rank x ∧ o.rank x ≤ o.rank z)
    (hzh : lo h ≤ o.rank x ∧ o.rank z ≤ o.rank h) :
    Rises g o (fun w => lo w ≤ o.rank x ∧ o.rank x ≤ o.rank w) h z := by
  induction hk : o.rank h - o.rank z using Nat.strongRecOn generalizing z with
  | ind k ih =>
    by_cases heq : o.rank z = o.rank h
    · rw [ho.eq_of_rank_eq (ho.of_mem z hz).2 heq]
      exact .here
    · obtain ⟨p, hp, hpz, hlt, hle, hlo⟩ := hf.parent h hh z hz (by omega) (by omega)
      have hnest := hf.nested p hp z hz hlo hlt.le
      exact .up hxz ((hg.mem_preds ..).1 hpz) hlt
        (ih _ (by omega) hp ⟨by omega, by omega⟩ ⟨hzh.1, hle⟩ rfl)

/-! ## Missing an instruction -/

/-- From `x` there is a rise around `y` to something above it that has a route. -/
def Escapes (g : Flow) (o : Numbering) (y x : Nat) : Prop :=
  ∃ u : Nat, o.rank y < o.rank u ∧ (∃ r, Route g o (u :: r)) ∧ Rises g o (· ≠ y) u x

/-- `x` is in the interval of something above `y` that has a route. -/
def Under (g : Flow) (o : Numbering) (lo : Nat → Nat) (y x : Nat) : Prop :=
  ∃ a : Nat, o.rank y < o.rank a ∧ (∃ r, Route g o (a :: r)) ∧ lo a ≤ o.rank x ∧ o.rank x ≤ o.rank a

theorem length_le_of_nodup (ho : o.Orders g) {l : List Nat} (hnd : l.Nodup) (hl : ∀ x ∈ l, 0 < o.rank x) :
    l.length ≤ o.sequence.length :=
  (hnd.subperm fun x hx => (ho.mem_sequence x).2 (hl x hx)).length_le

section Forest

variable (hg : g.WellFormed) (ho : o.Orders g)
  (hf : Search.Forest g (fun v => o.rank v) lo 0 o.sequence)

include ho hf hg in
theorem Under.escapes {x : Nat} (h : Under g o lo y x) (hx : 0 < o.rank x)
    (hout : ¬ (lo y ≤ o.rank x ∧ o.rank x ≤ o.rank y)) : Escapes g o y x := by
  obtain ⟨a, hya, ⟨r, hr⟩, hlo, hle⟩ := h
  have hxs := (ho.mem_sequence x).2 hx
  have has := (ho.mem_sequence a).2 (hr.ranked ho (by simp))
  refine ⟨a, hya, ⟨r, hr⟩, (rises_of_forest hg ho hf hxs has ⟨(hf.bounds x hxs).2, le_rfl⟩ ⟨hlo, hle⟩).mono ?_⟩
  rintro w hw rfl
  exact hout hw

include ho hf hg in
/-- An edge leads out of no interval but upwards. -/
theorem Under.succ {v s : Nat} {r : List Nat} (h : Under g o lo y v) (hs : s ∈ g.succs v)
    (hr : Route g o (s :: r)) : Under g o lo y s := by
  obtain ⟨a, hya, ⟨ra, hra⟩, hlo, hle⟩ := h
  have hsr := hr.ranked ho (v := s) (by simp)
  have hss := (ho.mem_sequence s).2 hsr
  have hvs := (ho.mem_sequence v).2 (ho.pred_ranked v s hs hsr)
  have has := (ho.mem_sequence a).2 (hra.ranked ho (by simp))
  by_cases hlt : o.rank v < o.rank s
  · by_cases hys : o.rank y < o.rank s
    · exact ⟨s, hys, ⟨r, hr⟩, (hf.bounds s hss).2, le_rfl⟩
    · exact ⟨a, hya, ⟨ra, hra⟩, by omega, by omega⟩
  · have hedge := (hf.edge s hss v hvs ((hg.mem_preds ..).2 hs)).resolve_left hlt
    have hnest := hf.nested a has v hvs hlo hle
    exact ⟨a, hya, ⟨ra, hra⟩, by omega, by omega⟩

include ho in
theorem exists_route_of_avoids {v : Nat} (h : Avoids g o y v) :
    ∃ q, Route g o (v :: q) ∧ ¬ Hits o y (v :: q) ∧ retreats o (v :: q) < o.sequence.length := by
  obtain ⟨p, hp, hy⟩ := h
  obtain ⟨q, hq, hnd, hsub⟩ := Route.of_path hp.1
  refine ⟨q, hq, fun hhits => hy (List.cons_subset_cons _ hsub hhits.mem), ?_⟩
  have := retreats_lt_length (o := o) (v := v) (p := q)
  have := length_le_of_nodup ho hnd fun x hx => hq.ranked ho hx
  omega

include ho hf hg in
/-- From above `y` down to `y` and on to an exit. -/
theorem exists_descent {u : Nat} {r : List Nat} (hr : Route g o (u :: r)) (hu : o.rank y < o.rank u)
    (hav : ¬ Avoids g o y u) :
    ∃ l zs q, l.Nodup ∧ (y :: zs).Nodup ∧ (∀ x ∈ l, Escapes g o y x ∧ ¬ Avoids g o y x) ∧ y ∉ l ∧
      (∀ z ∈ zs, Avoids g o y z) ∧ Route g o (u :: q) ∧ (∀ x ∈ l ++ y :: zs, 0 < o.rank x) ∧
      retreats o (u :: q) ≤ l.length + zs.length := by
  have hymem := mem_of_not_avoids hav hr
  obtain ⟨c, d, hcd⟩ := List.append_of_mem hymem
  have hyr : 0 < o.rank y := hr.ranked ho hymem
  have hys := (ho.mem_sequence y).2 hyr
  have hryd : Route g o (y :: d) := Route.drop (hcd ▸ hr)
  obtain ⟨zs, hzs, hznd, hzav⟩ := hryd.exists_after
  -- Go down to the first instruction in the interval of `y`; what comes before escapes.
  have hbounds := hf.bounds y hys
  obtain ⟨p, hp, hpath⟩ := hr.1.take (Y := fun x => lo y ≤ o.rank x ∧ o.rank x ≤ o.rank y) hcd
    ⟨hbounds.2, le_rfl⟩
  have hmem : ∀ x ∈ u :: p, x ∈ u :: r := by
    intro x hx
    rw [hp, List.mem_append, List.mem_singleton] at hx
    rw [hcd, List.mem_append, List.mem_cons]
    exact hx.imp_right .inl
  have hus := (ho.mem_sequence u).2 (hr.ranked ho (by simp))
  have hUu : Under g o lo y u := ⟨u, hu, ⟨r, hr⟩, (hf.bounds u hus).2, le_rfl⟩
  obtain ⟨l, b, hb, hlnd, hl, hbmem, hroute⟩ := exists_leg (o := o) hpath hUu fun v s hs _ hsmem _ hU => by
    obtain ⟨r', hr'⟩ := hr.of_mem (hmem s hsmem)
    exact hU.succ hg ho hf hs hr'
  have hbs := (ho.mem_sequence b).2 (hr.ranked ho (hmem b hbmem))
  obtain ⟨-, qb, -, -, hqb, hcost⟩ :=
    (rises_of_forest hg ho hf hbs hys ⟨(hf.bounds b hbs).2, le_rfl⟩ hb).route hzs
  obtain ⟨q, hq, hrq⟩ := hroute qb hqb
  have hyl : y ∉ l := fun hmem => (hl y hmem).1 ⟨hbounds.2, le_rfl⟩
  refine ⟨l, zs, q, hlnd, hznd, fun x hx => ⟨?_, fun hxav => hav (.of_mem hrq hq hyl hx hxav)⟩, hyl, hzav,
    hrq, fun x hx => ?_, ?_⟩
  · obtain ⟨hout, hU, hxmem⟩ := hl x hx
    exact hU.escapes hg ho hf (hr.ranked ho (hmem x hxmem)) hout
  · rcases List.mem_append.1 hx with hx | hx
    · exact hr.ranked ho (hmem x (hl x hx).2.2)
    · exact hzs.ranked ho hx
  · have hle := retreats_append_le (o := o) (l := l) (b := b) (r := qb)
    have hlt := retreats_lt_length (o := o) (v := y) (p := zs)
    rw [List.length_cons] at hlt
    rw [hq]
    omega

include ho in
/-- From below `y`, around it and up above it. -/
theorem exists_ascent {v u : Nat} {p c r : List Nat} (hr : Route g o (v :: p)) (hp : v :: p = c ++ u :: r)
    (hc : y ∉ c) (hu : o.rank y < o.rank u) (hav : ¬ Avoids g o y v) :
    ∃ (l : List Nat) (w : Nat), l.Nodup ∧ (∀ x ∈ l, ¬ Escapes g o y x ∧ ¬ Avoids g o y x) ∧ y ∉ l ∧
      (∀ x ∈ l, 0 < o.rank x) ∧ o.rank y < o.rank w ∧ (∃ r, Route g o (w :: r)) ∧ ¬ Avoids g o y w ∧
      ∀ r, Route g o (w :: r) →
        ∃ q, Route g o (v :: q) ∧ ¬ Hits o y (v :: q) ∧ retreats o (v :: q) ≤ l.length + retreats o (w :: r) := by
  have hru : Route g o (u :: r) := Route.drop (hp ▸ hr)
  have hesc : Escapes g o y u := ⟨u, hu, ⟨r, hru⟩, .here⟩
  obtain ⟨p', hp', hpath⟩ := hr.1.take hp hesc
  have hmem : ∀ x ∈ v :: p', x ∈ c ∨ x = u := fun x hx => by
    rw [hp'] at hx
    simpa using hx
  have hyv : y ∉ v :: p' := fun hy => (hmem y hy).elim hc fun he => by
    rw [he] at hu
    omega
  obtain ⟨l, b, ⟨w, hw, ⟨rw, hrw⟩, hrise⟩, hlnd, hl, -, hroute⟩ :=
    exists_leg (I := fun _ => True) (o := o) hpath trivial fun _ _ _ _ _ _ _ => trivial
  have hyl : y ∉ l := fun hy => hyv (hl y hy).2.2
  -- Any route from `w` continues one from `v` that keeps clear of `y` until it is at `w`.
  have hback : ∀ r, Route g o (w :: r) → ∃ (m qb q : List Nat), b :: qb = m ++ w :: r ∧ y ∉ m ∧
      v :: q = l ++ b :: qb ∧ Route g o (b :: qb) ∧ Route g o (v :: q) ∧
      retreats o (b :: qb) = retreats o (w :: r) := by
    intro r hr
    obtain ⟨m, qb, hqb, hm, hrb, hcost⟩ := hrise.route hr
    obtain ⟨q, hq, hrq⟩ := hroute qb hrb
    exact ⟨m, qb, q, hqb, fun hy => hm y hy rfl, hq, hrb, hrq, hcost⟩
  refine ⟨l, w, hlnd, fun x hx => ⟨(hl x hx).1, fun hxav => ?_⟩, hyl, fun x hx => ?_, hw, ⟨rw, hrw⟩,
    fun hwav => ?_, fun r hr => ?_⟩
  · obtain ⟨m, qb, q, -, -, hq, -, hrq, -⟩ := hback rw hrw
    exact hav (.of_mem hrq hq hyl hx hxav)
  · refine hr.ranked ho ?_
    rw [hp, List.mem_append, List.mem_cons]
    exact (hmem x (hl x hx).2.2).imp_right .inl
  · obtain ⟨m, qb, q, hqb, hm, hq, hrb, hrq, -⟩ := hback rw hrw
    exact hav (.of_append hrq hq hyl (.of_append hrb hqb hm hwav))
  · obtain ⟨m, qb, q, hqb, hm, hq, -, hrq, hcost⟩ := hback r hr
    refine ⟨q, hrq, fun hhits => ?_, ?_⟩
    · have hle := (hits_of_append hm (hqb ▸ hits_of_append hyl (hq ▸ hhits))).rank_le
      omega
    · have hle := retreats_append_le (o := o) (l := l) (b := b) (r := qb)
      rw [hq]
      omega

include ho hf hg in
/-- If an instruction can be missed at all, it can be missed with fewer retreats than
there are ranked instructions. -/
theorem exists_detour {v : Nat} {p : List Nat} (hr : Route g o (v :: p)) (hn : ¬ Hits o y (v :: p)) :
    ∃ q, Route g o (v :: q) ∧ ¬ Hits o y (v :: q) ∧ retreats o (v :: q) < o.sequence.length := by
  by_cases hav : Avoids g o y v
  · exact exists_route_of_avoids ho hav
  · have hymem := mem_of_not_avoids hav hr
    obtain ⟨c, u, r, hp, hc, hu⟩ := exists_above_of_not_hits ho (hr.ranked ho hymem) hymem hn
    obtain ⟨l₁, w, hnd₁, hl₁, hy₁, hr₁, hw, ⟨rw, hrw⟩, hwav, hup⟩ := exists_ascent ho hr hp hc hu hav
    obtain ⟨l₂, zs, q₂, hnd₂, hndz, hl₂, hy₂, hz, hrq₂, hr₂, hcost₂⟩ := exists_descent hg ho hf hrw hw hwav
    obtain ⟨q, hrq, hnq, hcost⟩ := hup q₂ hrq₂
    refine ⟨q, hrq, hnq, ?_⟩
    have hnd : (l₁ ++ (l₂ ++ y :: zs)).Nodup := by
      refine List.nodup_append.2 ⟨hnd₁, List.nodup_append.2 ⟨hnd₂, hndz, ?_⟩, ?_⟩
      · rintro x hx _ hmem rfl
        rcases List.mem_cons.1 hmem with rfl | hmem
        · exact hy₂ hx
        · exact (hl₂ x hx).2 (hz x hmem)
      · rintro x hx _ hmem rfl
        rcases List.mem_append.1 hmem with hmem | hmem
        · exact (hl₁ x hx).1 (hl₂ x hmem).1
        · rcases List.mem_cons.1 hmem with rfl | hmem
          · exact hy₁ hx
          · exact (hl₁ x hx).2 (hz x hmem)
    have hlen := length_le_of_nodup ho hnd fun x hx => (List.mem_append.1 hx).elim (hr₁ x) (hr₂ x)
    simp only [List.length_append, List.length_cons] at hlen
    omega

end Forest

end ControlDependence
