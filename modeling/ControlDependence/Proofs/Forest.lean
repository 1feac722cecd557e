-- SUMMARY: The search forest: what an instruction's exploration leaves is an interval of ranks below it.
import ControlDependence.Proofs.Contract
import ControlDependence.Proofs.Exploration

/-!
# The search forest

The instructions left between meeting and leaving `h` are those ranked from some `lo h`
up to `h` itself. These intervals nest; from inside one an edge leads up towards `h`;
and an edge against the ranks ends inside the interval of its source. The last fact is
what a numbering in post-order has over an arbitrary one: going down in rank is never a
way out of a subtree.
-/
namespace ControlDependence.Search

variable {g : Flow} {n : Nat} {s s' : Search} {rank : Nat → Nat}

/-- The instructions of `new`, all ranked above `base`, form a forest of intervals. -/
structure Forest (g : Flow) (rank lo : Nat → Nat) (base : Nat) (new : List Nat) : Prop where
  bounds : ∀ h ∈ new, base < lo h ∧ lo h ≤ rank h
  nested : ∀ h ∈ new, ∀ x ∈ new, lo h ≤ rank x → rank x ≤ rank h → lo h ≤ lo x
  /-- Below `h` in its interval, an edge leads to a parent that is no higher than `h`. -/
  parent : ∀ h ∈ new, ∀ x ∈ new, lo h ≤ rank x → rank x < rank h →
    ∃ p ∈ new, x ∈ g.preds p ∧ rank x < rank p ∧ rank p ≤ rank h ∧ lo p ≤ rank x
  /-- An edge goes up, or stays in the interval of its source. -/
  edge : ∀ p ∈ new, ∀ v ∈ new, v ∈ g.preds p → rank v < rank p ∨ lo v ≤ rank p

/-! ## Ranks as places -/

/-- Ranks agree with the places of what the search has left. -/
def Ranks (rank : Nat → Nat) (s : Search) : Prop := ∀ v ∈ s.left, rank v = place s.left v

theorem place_le (l : List Nat) (v : Nat) : place l v ≤ l.length := by
  induction l with
  | nil => simp [place]
  | cons u l ih =>
    by_cases h : u = v
    · simp [place, h]
    · simp only [place, h, if_false, List.length_cons]
      omega

theorem lt_place {l l' : List Nat} {v : Nat} (h : v ∈ l) : l'.length < place (l ++ l') v := by
  induction l with
  | nil => simp at h
  | cons u l ih =>
    by_cases huv : u = v
    · simp only [List.cons_append, place, huv, if_true, List.length_append]
      omega
    · simp only [List.cons_append, place, huv, if_false]
      exact ih ((List.mem_cons.1 h).resolve_left (Ne.symm huv))

theorem Ranks.le (h : Ranks rank s) {v : Nat} (hv : v ∈ s.left) : rank v ≤ s.left.length :=
  h v hv ▸ place_le s.left v

theorem Ranks.of_leave {v : Nat} (h : Ranks rank (s.leave v)) (hc : Coherent n (s.leave v)) :
    Ranks rank s ∧ rank v = s.left.length + 1 := by
  refine ⟨fun u hu => ?_, by rw [h v (by simp)]; simp [place]⟩
  have hne : v ≠ u := fun he => (List.nodup_cons.1 hc.left_nodup).1 (he ▸ hu)
  rw [h u (by simp [hu]), left_leave, place, if_neg hne]

theorem Extends.ranks {new : List Nat} (h : Extends n s s' new) (hr : Ranks rank s') : Ranks rank s := by
  intro v hv
  have hnd := h.coherent.left_nodup
  rw [h.left_eq] at hnd
  have hnew : v ∉ new := fun hmem => (List.nodup_append.1 hnd).2.2 v hmem v hv rfl
  rw [hr v (by simp [h.left_eq, hv]), h.left_eq, place_append hnew]

theorem Extends.lt_rank {new : List Nat} (h : Extends n s s' new) (hr : Ranks rank s') {v : Nat}
    (hv : v ∈ new) : s.left.length < rank v := by
  rw [hr v (by simp [h.left_eq, hv]), h.left_eq]
  exact lt_place hv

/-! ## Growing the forest -/

/-- Lower ends of intervals when `v`, of rank `m + 1`, becomes the parent of the trees
grown since rank `base` and further trees follow. -/
def graft (rank lo₁ lo₂ : Nat → Nat) (base m u : Nat) : Nat :=
  if rank u ≤ m then lo₁ u else if rank u = m + 1 then base + 1 else lo₂ u

/-- Each instruction of `new` is one of the `roots` or has a parent. -/
def Rooted (g : Flow) (rank lo : Nat → Nat) (roots new : List Nat) : Prop :=
  ∀ x ∈ new, x ∈ roots ∨ ∃ p ∈ new, x ∈ g.preds p ∧ rank x < rank p ∧ lo p ≤ rank x

section Graft

variable {lo₁ lo₂ : Nat → Nat} {base m v : Nat} {new₁ new₂ roots : List Nat}

theorem graft_below {u : Nat} (h : rank u ≤ m) : graft rank lo₁ lo₂ base m u = lo₁ u := by
  simp [graft, h]

theorem graft_at {u : Nat} (h : rank u = m + 1) : graft rank lo₁ lo₂ base m u = base + 1 := by
  simp [graft, h]

theorem graft_above {u : Nat} (h : m + 1 < rank u) : graft rank lo₁ lo₂ base m u = lo₂ u := by
  have h₁ : ¬ rank u ≤ m := by omega
  have h₂ : rank u ≠ m + 1 := by omega
  simp [graft, h₁, h₂]

theorem Rooted.graft (hroot : Rooted g rank lo₁ (g.preds v) new₁) (hroot₂ : Rooted g rank lo₂ roots new₂)
    (hv : rank v = m + 1) (hr₁ : ∀ u ∈ new₁, base < rank u ∧ rank u ≤ m)
    (hr₂ : ∀ u ∈ new₂, m + 1 < rank u) :
    Rooted g rank (graft rank lo₁ lo₂ base m) (v :: roots) (new₂ ++ v :: new₁) := by
  intro x hx
  simp only [List.mem_append, List.mem_cons] at hx ⊢
  rcases hx with hx | rfl | hx
  · obtain hx' | ⟨p, hp, hpx, hlt, hle⟩ := hroot₂ x hx
    · exact .inl (.inr hx')
    · exact .inr ⟨p, .inl hp, hpx, hlt, by rwa [graft_above (hr₂ p hp)]⟩
  · exact .inl (.inl rfl)
  · have hrx := hr₁ x hx
    obtain hx' | ⟨p, hp, hpx, hlt, hle⟩ := hroot x hx
    · exact .inr ⟨v, .inr (.inl rfl), hx', by omega, by rw [graft_at hv]; omega⟩
    · exact .inr ⟨p, .inr (.inr hp), hpx, hlt, by rwa [graft_below (hr₁ p hp).2]⟩

/-- The trees of `new₁` go below `v`, those of `new₂` stay beside it. -/
theorem Forest.graft (h₁ : Forest g rank lo₁ base new₁) (h₂ : Forest g rank lo₂ (m + 1) new₂)
    (hm : base ≤ m) (hv : rank v = m + 1) (hr₁ : ∀ u ∈ new₁, base < rank u ∧ rank u ≤ m)
    (hr₂ : ∀ u ∈ new₂, m + 1 < rank u) (hroot : Rooted g rank lo₁ (g.preds v) new₁)
    (hclosed : ∀ p ∈ v :: new₁, ∀ u ∈ g.preds p, u ∉ new₂) :
    Forest g rank (graft rank lo₁ lo₂ base m) base (new₂ ++ v :: new₁) where
  bounds h hh := by
    simp only [List.mem_append, List.mem_cons] at hh
    rcases hh with hh | rfl | hh
    · have := h₂.bounds h hh
      rw [graft_above (hr₂ h hh)]
      omega
    · rw [graft_at hv]
      omega
    · rw [graft_below (hr₁ h hh).2]
      exact h₁.bounds h hh
  nested h hh x hx hle hge := by
    simp only [List.mem_append, List.mem_cons] at hh hx
    rcases hh with hh | rfl | hh
    · have hlo := h₂.bounds h hh
      rw [graft_above (hr₂ h hh)] at hle ⊢
      have hx' : x ∈ new₂ := by grind
      rw [graft_above (hr₂ x hx')]
      exact h₂.nested h hh x hx' hle hge
    · rw [graft_at hv]
      rcases hx with hx | rfl | hx
      · have := hr₂ x hx
        omega
      · rw [graft_at hv]
      · rw [graft_below (hr₁ x hx).2]
        exact (h₁.bounds x hx).1
    · have hrh := hr₁ h hh
      rw [graft_below hrh.2] at hle ⊢
      have hx' : x ∈ new₁ := by grind
      rw [graft_below (hr₁ x hx').2]
      exact h₁.nested h hh x hx' hle hge
  parent h hh x hx hle hlt := by
    simp only [List.mem_append, List.mem_cons] at hh hx ⊢
    rcases hh with hh | rfl | hh
    · have hlo := h₂.bounds h hh
      rw [graft_above (hr₂ h hh)] at hle
      obtain ⟨p, hp, hpx, hxp, hph, hlop⟩ := h₂.parent h hh x (by grind) hle hlt
      exact ⟨p, .inl hp, hpx, hxp, hph, by rwa [graft_above (hr₂ p hp)]⟩
    · have hx' : x ∈ new₁ := by grind
      have hrx := hr₁ x hx'
      obtain hpx | ⟨p, hp, hpx, hxp, hlop⟩ := hroot x hx'
      · exact ⟨h, .inr (.inl rfl), hpx, hlt, le_rfl, by rw [graft_at hv]; omega⟩
      · have hrp := hr₁ p hp
        exact ⟨p, .inr (.inr hp), hpx, hxp, by omega, by rwa [graft_below hrp.2]⟩
    · have hrh := hr₁ h hh
      rw [graft_below hrh.2] at hle
      obtain ⟨p, hp, hpx, hxp, hph, hlop⟩ := h₁.parent h hh x (by grind) hle hlt
      exact ⟨p, .inr (.inr hp), hpx, hxp, hph, by rwa [graft_below (hr₁ p hp).2]⟩
  edge p hp u hu hpu := by
    simp only [List.mem_append, List.mem_cons] at hp hu
    rcases hu with hu | rfl | hu
    · -- A late source: its edge cannot end among what was closed before.
      rw [graft_above (hr₂ u hu)]
      rcases hp with hp | hp
      · exact h₂.edge p hp u hu hpu
      · exact absurd hu (hclosed p (List.mem_cons.2 hp) u hpu)
    · rw [graft_at hv]
      rcases hp with hp | rfl | hp
      · have := hr₂ p hp
        omega
      · omega
      · have := hr₁ p hp
        omega
    · have hru := hr₁ u hu
      rw [graft_below hru.2]
      rcases hp with hp | rfl | hp
      · have := hr₂ p hp
        omega
      · omega
      · exact h₁.edge p hp u hu hpu

end Graft

/-- What the exploration of a list leaves: a forest whose roots are in the list and
which holds, or finds already met, every predecessor. -/
structure Grows (n : Nat) (g : Flow) (rank lo : Nat → Nat) (s : Search) (l : List Nat) (s' : Search)
    (new : List Nat) : Prop where
  extends_ : Extends n s s' new
  forest : Forest g rank lo s.left.length new
  rooted : Rooted g rank lo l new
  preds_met : ∀ p ∈ new, ∀ v ∈ g.preds p, s'.hasMet v = true

theorem Rooted.mono {lo : Nat → Nat} {l l' new : List Nat} (h : Rooted g rank lo l new) (hl : l ⊆ l') :
    Rooted g rank lo l' new :=
  fun x hx => (h x hx).imp_left (hl ·)

theorem Explores.grows {l : List Nat} (h : Explores g s l s') (hc : Coherent n s) (hr : Ranks rank s') :
    ∃ new lo, Grows n g rank lo s l s' new := by
  induction h with
  | @done s =>
    refine ⟨[], rank, ⟨⟨hc, by simp, by simp, by simp⟩, ?_, ?_, by simp⟩⟩
    · constructor <;> simp
    · simp [Rooted]
  | skip _ _ ih =>
    obtain ⟨new, lo, hg⟩ := ih hc hr
    exact ⟨new, lo, hg.extends_, hg.forest, hg.rooted.mono (by simp), hg.preds_met⟩
  | @visit s s₁ s₂ v l hv h₁ h₂ ih₁ ih₂ =>
    obtain ⟨_, hext⟩ := h₁.extends (hc.mark v)
    have hc₁ := hext.coherent.leave (hext.isOpen hc hv)
    obtain ⟨new₂, lo₂, hg₂⟩ := ih₂ hc₁ hr
    obtain ⟨hr₁, hrv⟩ := (hg₂.extends_.ranks hr).of_leave hc₁
    obtain ⟨new₁, lo₁, hg₁⟩ := ih₁ (hc.mark v) hr₁
    have hb₁ : ∀ u ∈ new₁, s.left.length < rank u ∧ rank u ≤ s₁.left.length := fun u hu =>
      ⟨hg₁.extends_.lt_rank hr₁ hu, hr₁.le (by simp [hg₁.extends_.left_eq, hu])⟩
    have hb₂ : ∀ u ∈ new₂, s₁.left.length + 1 < rank u := fun u hu => hg₂.extends_.lt_rank hr hu
    -- A predecessor of `v` is explored below `v`, or was met before.
    have hmet₁ : ∀ p ∈ v :: new₁, ∀ u ∈ g.preds p, s₁.hasMet u = true := by
      intro p hp u hu
      rcases List.mem_cons.1 hp with rfl | hp
      · by_cases hm : (s.mark p).hasMet u = true
        · exact h₁.hasMet_mono (hc.mark p) hm
        · exact h₁.hasMet_of_mem (hc.mark p) (mem_fresh.2 ⟨hu, by simpa using hm⟩)
      · exact hg₁.preds_met p hp u hu
    have hroot : Rooted g rank lo₁ (g.preds v) new₁ :=
      hg₁.rooted.mono fun u hu => (mem_fresh.1 hu).1
    refine ⟨new₂ ++ v :: new₁, graft rank lo₁ lo₂ s.left.length s₁.left.length, ?_, ?_, ?_, ?_⟩
    · exact hg₁.extends_.trans hc hv hg₂.extends_
    · refine hg₁.forest.graft hg₂.forest ?_ hrv hb₁ hb₂ hroot ?_
      · simp [hg₁.extends_.left_eq]
      · intro p hp u hu hmem
        simpa [hmet₁ p hp u hu] using (hg₂.extends_.unmet u hmem).2
    · exact hroot.graft hg₂.rooted hrv hb₁ hb₂
    · intro p hp u hu
      rcases List.mem_append.1 hp with hp | hp
      · exact hg₂.preds_met p hp u hu
      · exact h₂.hasMet_mono hc₁ (hmet₁ p hp u hu)

end ControlDependence.Search

namespace ControlDependence

/-- Where paths may end: at an exit, and unless all exits count only at the last
instruction. -/
def Flow.Exit (g : Flow) (useExits : Bool) (x : Nat) : Prop :=
  x < g.size ∧ g.succs x = [] ∧ (useExits = true ∨ x + 1 = g.size)

namespace Numbering

open Search

variable {g : Flow}

/-- The sequence lists the ranked instructions by descending rank, and with an
instruction all its predecessors are ranked. -/
structure Orders (g : Flow) (o : Numbering) : Prop where
  mem_sequence : ∀ v : Nat, v ∈ o.sequence ↔ 0 < o.rank v
  lt_size : ∀ v ∈ o.sequence, v < g.size
  descending : o.sequence.Pairwise fun u v : Nat => o.rank v < o.rank u
  pred_ranked : ∀ v s : Nat, s ∈ g.succs v → 0 < o.rank s → 0 < o.rank v

theorem rank_natCast (o : Numbering) (v : Nat) : o.rank v = o.ranks.getD v 0 := by
  simp [rank]

theorem rank_of_neg (o : Numbering) {i : Int} (h : i < 0) : o.rank i = 0 := by
  simp [rank, h]

theorem Orders.rank_injective {o : Numbering} (h : o.Orders g) (i j : Int)
    (hi : o.isRanked i = true) (hij : o.rank i = o.rank j) : i = j := by
  have hpos : 0 < o.rank i := by simpa [isRanked] using hi
  obtain ⟨u, rfl⟩ : ∃ u : Nat, i = u := Int.eq_ofNat_of_zero_le (by
    by_contra hneg
    simp [o.rank_of_neg (Int.not_le.1 hneg)] at hpos)
  obtain ⟨v, rfl⟩ : ∃ v : Nat, j = v := Int.eq_ofNat_of_zero_le (by
    by_contra hneg
    simp [hij, o.rank_of_neg (Int.not_le.1 hneg)] at hpos)
  have hu := (h.mem_sequence u).2 hpos
  have hv := (h.mem_sequence v).2 (hij ▸ hpos)
  have hnodup : (o.sequence.map fun w : Nat => o.rank w).Nodup :=
    List.pairwise_map.2 (h.descending.imp fun hlt => Nat.ne_of_gt hlt)
  rw [List.inj_on_of_nodup_map hnodup hu hv hij]

theorem Orders.eq_of_rank_eq {o : Numbering} (h : o.Orders g) {u v : Nat} (hu : 0 < o.rank u)
    (huv : o.rank u = o.rank v) : u = v :=
  Int.natCast_inj.1 (h.rank_injective u v (by simpa [isRanked] using hu) huv)

theorem Orders.of_mem {o : Numbering} (h : o.Orders g) (v : Nat) (hv : v ∈ o.sequence) :
    v < g.size ∧ 0 < o.rank v :=
  ⟨h.lt_size v hv, (h.mem_sequence v).1 hv⟩

theorem pairwise_place {l : List Nat} (h : l.Nodup) : l.Pairwise fun u v => place l v < place l u := by
  induction l with
  | nil => exact .nil
  | cons u l ih =>
    obtain ⟨hu, hl⟩ := List.nodup_cons.1 h
    have hplace : ∀ v ∈ l, place (u :: l) v = place l v := fun v hv =>
      if_neg (ne_of_mem_of_not_mem hv hu).symm
    refine List.pairwise_cons.2 ⟨fun v hv => ?_, (ih hl).imp_of_mem fun ha hb hab => ?_⟩
    · rw [hplace v hv, place, if_pos rfl]
      exact Nat.lt_succ_of_le (place_le l v)
    · rwa [hplace _ ha, hplace _ hb]

/-- All that is needed of the search behind the numbering. -/
theorem exists_grows (g : Flow) (useExits : Bool) :
    ∃ s lo, Grows g.size g (fun v => (ofFlow g useExits).rank v) lo (Search.start g.size)
        (roots g useExits) s s.left ∧
      ofFlow g useExits = { sequence := s.left, ranks := s.ranks } ∧
      (∀ v ∈ roots g useExits, s.hasMet v = true) := by
  obtain ⟨s, hs, heq⟩ := exists_explores g useExits
  have hc := Coherent.start g.size
  obtain ⟨new, hnew⟩ := hs.extends hc
  have hr : Ranks (fun v => (ofFlow g useExits).rank v) s := fun v _ => by
    simp only [heq, rank_natCast]
    exact hnew.coherent.rank_eq v
  obtain ⟨new', lo, hg⟩ := hs.grows hc hr
  have hleft : new' = s.left := by simp [hg.extends_.left_eq, Search.start]
  exact ⟨s, lo, hleft ▸ hg, heq, fun v hv => hs.hasMet_of_mem hc hv⟩

theorem rank_pos_iff_mem_left {n : Nat} {s : Search} (hc : Coherent n s) {o : Numbering}
    (ho : o = { sequence := s.left, ranks := s.ranks }) {v : Nat} : 0 < o.rank v ↔ v ∈ s.left := by
  rw [ho, rank_natCast, hc.rank_eq, Nat.pos_iff_ne_zero, ne_eq, place_eq_zero, not_not]

/-- In the end the search has left whatever it has met. -/
theorem mem_left_of_hasMet {n : Nat} {s : Search} (h : Extends n (Search.start n) s s.left) {v : Nat}
    (hv : v < n) (hm : s.hasMet v = true) : v ∈ s.left := by
  refine ((h.met_iff v).1 hm).resolve_left ?_
  simp [hasMet, Search.start, hv]

theorem ofFlow_orders (hg : g.WellFormed) (useExits : Bool) : (ofFlow g useExits).Orders g := by
  obtain ⟨s, lo, hgr, heq, -⟩ := exists_grows g useExits
  have hc := hgr.extends_.coherent
  have hmem := fun v => rank_pos_iff_mem_left (v := v) hc heq
  refine ⟨fun v => by rw [hmem, heq], fun v hv => ?_, ?_, fun v p hp hpos => ?_⟩
  · rw [heq] at hv
    exact (hc.left_met v hv).1
  · rw [heq]
    simp only [rank_natCast, hc.rank_eq]
    exact pairwise_place hc.left_nodup
  · have hmet := hgr.preds_met p ((hmem p).1 hpos) v ((hg.mem_preds ..).2 hp)
    exact (hmem v).2 (mem_left_of_hasMet hgr.extends_ (Flow.lt_of_mem_succs hp) hmet)

theorem ofFlow_rank_le (g : Flow) (useExits : Bool) (v : Nat) :
    (ofFlow g useExits).rank v ≤ (ofFlow g useExits).sequence.length := by
  obtain ⟨s, lo, hgr, heq, -⟩ := exists_grows g useExits
  rw [heq, rank_natCast, hgr.extends_.coherent.rank_eq]
  exact place_le s.left v

theorem exists_forest (g : Flow) (useExits : Bool) :
    ∃ lo, Forest g (fun v => (ofFlow g useExits).rank v) lo 0 (ofFlow g useExits).sequence := by
  obtain ⟨s, lo, hgr, heq, -⟩ := exists_grows g useExits
  exact ⟨lo, by simpa [heq, Search.start] using hgr.forest⟩

/-- Every ranked instruction is a root or has a successor of higher rank. -/
theorem ofFlow_rooted (hg : g.WellFormed) (useExits : Bool) {v : Nat}
    (hv : 0 < (ofFlow g useExits).rank v) :
    v ∈ roots g useExits ∨ ∃ p ∈ g.succs v, (ofFlow g useExits).rank v < (ofFlow g useExits).rank p := by
  obtain ⟨s, lo, hgr, heq, -⟩ := exists_grows g useExits
  have hmem := (rank_pos_iff_mem_left hgr.extends_.coherent heq).1 hv
  refine (hgr.rooted v hmem).imp_right ?_
  rintro ⟨p, -, hp, hlt, -⟩
  exact ⟨p, (hg.mem_preds ..).1 hp, hlt⟩

theorem rank_pos_of_mem_roots {useExits : Bool} {v : Nat} (hv : v ∈ roots g useExits)
    (hlt : v < g.size) : 0 < (ofFlow g useExits).rank v := by
  obtain ⟨s, lo, hgr, heq, hroots⟩ := exists_grows g useExits
  rw [rank_pos_iff_mem_left hgr.extends_.coherent heq]
  exact mem_left_of_hasMet hgr.extends_ hlt (hroots v hv)

theorem mem_roots {useExits : Bool} {v : Nat} :
    v ∈ roots g useExits ↔
      v = g.size - 1 ∨ useExits = true ∧ v < g.size - 1 ∧ g.succs v = [] := by
  cases useExits <;> simp [roots, exitRoots, Flow.isExit]

/-- The exits that count are the ranked ones. -/
theorem exit_iff (hg : g.WellFormed) {useExits : Bool} {x : Nat} :
    g.Exit useExits x ↔ 0 < (ofFlow g useExits).rank x ∧ g.succs x = [] := by
  constructor
  · rintro ⟨hlt, hsuccs, hor⟩
    refine ⟨rank_pos_of_mem_roots (mem_roots.2 ?_) hlt, hsuccs⟩
    by_cases hlast : x = g.size - 1
    · exact .inl hlast
    · exact .inr ⟨hor.resolve_right (by omega), by omega, hsuccs⟩
  · rintro ⟨hpos, hsuccs⟩
    have ho := ofFlow_orders hg useExits
    have hlt := ho.lt_size x ((ho.mem_sequence x).2 hpos)
    refine ⟨hlt, hsuccs, ?_⟩
    obtain hroot | ⟨p, hp, -⟩ := ofFlow_rooted hg useExits hpos
    · rcases mem_roots.1 hroot with rfl | ⟨huse, -⟩
      · exact .inr (by omega)
      · exact .inl huse
    · simp [hsuccs] at hp

end Numbering

end ControlDependence
