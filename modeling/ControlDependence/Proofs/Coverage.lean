-- SUMMARY: The numbering ranks exactly what can reach a root, densely, and towards the roots ranks go up.
import ControlDependence.Proofs.Forest
import ControlDependence.Proofs.Unresolved

/-!
# What the numbering covers

A ranked instruction is a root or has a successor of higher rank, and going up in rank
leads to a root in the end. The other way around, roots are ranked, and with an instruction
all its predecessors. So the ranked instructions are those from which a root can be
reached.
-/
namespace ControlDependence

/-- Where the search may start: at the last instruction and, if they are asked for, at exits. -/
def Flow.Root (g : Flow) (useExits : Bool) (r : Nat) : Prop :=
  r < g.size ∧ (r + 1 = g.size ∨ useExits = true ∧ g.succs r = [])

namespace Numbering

open Search

variable {g : Flow} {useExits : Bool} {v : Nat}

theorem mem_roots_iff_root (hv : v < g.size) : v ∈ roots g useExits ↔ g.Root useExits v := by
  rw [mem_roots, Flow.Root]
  constructor
  · rintro (hlast | ⟨huse, -, hsuccs⟩)
    · exact ⟨hv, .inl (by omega)⟩
    · exact ⟨hv, .inr ⟨huse, hsuccs⟩⟩
  · rintro ⟨-, hlast | ⟨huse, hsuccs⟩⟩
    · exact .inl (by omega)
    · by_cases hlast : v = g.size - 1
      · exact .inl hlast
      · exact .inr ⟨huse, by omega, hsuccs⟩

theorem Orders.nodup_sequence {o : Numbering} (h : o.Orders g) : o.sequence.Nodup := by
  refine h.descending.imp ?_
  rintro u v hlt rfl
  exact Nat.lt_irrefl _ hlt

theorem root_or_exists_higher (hg : g.WellFormed) (hv : 0 < (ofFlow g useExits).rank v) :
    g.Root useExits v ∨ ∃ s ∈ g.succs v, (ofFlow g useExits).rank v < (ofFlow g useExits).rank s := by
  have ho := ofFlow_orders hg useExits
  have hlt := ho.lt_size v ((ho.mem_sequence v).2 hv)
  exact (ofFlow_rooted hg useExits hv).imp_left (mem_roots_iff_root hlt).1

/-- Going up in rank ends at a root, since ranks are bounded. -/
theorem reaches_root (hg : g.WellFormed) (hv : 0 < (ofFlow g useExits).rank v) :
    g.Reaches (g.Root useExits) v := by
  induction hk : (ofFlow g useExits).sequence.length - (ofFlow g useExits).rank v
    using Nat.strongRecOn generalizing v with
  | ind k ih =>
    obtain hroot | ⟨s, hs, hlt⟩ := root_or_exists_higher hg hv
    · exact ⟨[], .stop hroot⟩
    · have hle := ofFlow_rank_le g useExits s
      have hdown : (ofFlow g useExits).sequence.length - (ofFlow g useExits).rank s < k := by omega
      obtain ⟨p, hp⟩ := ih _ hdown (Nat.zero_lt_of_lt hlt) rfl
      exact ⟨s :: p, .step hs hp⟩

theorem rank_pos_of_path (hg : g.WellFormed) {p : List Nat} (hp : g.Path (g.Root useExits) (v :: p)) :
    0 < (ofFlow g useExits).rank v := by
  induction p generalizing v with
  | nil =>
    cases hp with
    | stop hroot => exact rank_pos_of_mem_roots ((mem_roots_iff_root hroot.1).2 hroot) hroot.1
  | cons s p ih =>
    cases hp with
    | step hs hp => exact (ofFlow_orders hg useExits).pred_ranked v s hs (ih hp)

theorem place_add_of_getElem? {l : List Nat} (h : l.Nodup) {k : Nat} (hk : l[k]? = some v) :
    place l v + k = l.length := by
  induction l generalizing k with
  | nil => simp at hk
  | cons u l ih =>
    obtain ⟨hu, hl⟩ := List.nodup_cons.1 h
    cases k with
    | zero =>
      cases hk
      simp [place]
    | succ k =>
      have hk' : l[k]? = some v := by simpa using hk
      have hne : u ≠ v := (ne_of_mem_of_not_mem (List.mem_of_getElem? hk') hu).symm
      rw [place, if_neg hne, ← Nat.add_assoc, ih hl hk', List.length_cons]

theorem rank_add_of_getElem? {k : Nat} (hk : (ofFlow g useExits).sequence[k]? = some v) :
    (ofFlow g useExits).rank v + k = (ofFlow g useExits).sequence.length := by
  obtain ⟨s, lo, hgr, heq, -⟩ := exists_grows g useExits
  have hc := hgr.extends_.coherent
  rw [heq] at hk ⊢
  rw [rank_natCast, hc.rank_eq]
  exact place_add_of_getElem? hc.left_nodup hk

/-- The sequence of a numbering lists, once each, the instructions from which a root can be
reached; ranks count it from its end. -/
structure Covers (g : Flow) (useExits : Bool) (o : Numbering) : Prop where
  nodup : o.sequence.Nodup
  mem_iff : ∀ v, v ∈ o.sequence ↔ g.Reaches (g.Root useExits) v
  rank_eq : ∀ k v : Nat, o.sequence[k]? = some v → o.rank v = o.sequence.length - k
  rank_eq_zero : ∀ v : Nat, v ∉ o.sequence → o.rank v = 0
  /-- From an instruction that is no root some edge goes up. -/
  higher : ∀ v : Nat, 0 < o.rank v → ¬ g.Root useExits v → ∃ s ∈ g.succs v, o.rank v < o.rank s

/-- Of any code that passes its check, with or without exits as roots, the numbering covers
what can reach a root and nothing else, and ranks go up towards the roots. -/
theorem covers_reaching_instructions {code : Code} (hc : code.check = .ok ()) (useExits : Bool) :
    (ofFlow code.flow useExits).Covers code.flow useExits := by
  have hg := Code.flow_wellFormed hc
  have ho := ofFlow_orders hg useExits
  refine ⟨ho.nodup_sequence, ?_, ?_, ?_, ?_⟩
  · intro v
    rw [ho.mem_sequence]
    constructor
    · exact reaches_root hg
    · rintro ⟨p, hp⟩
      exact rank_pos_of_path hg hp
  · intro k v hk
    have hrank := rank_add_of_getElem? hk
    omega
  · intro v hv
    exact Nat.eq_zero_of_not_pos (mt (ho.mem_sequence v).2 hv)
  · intro v hv hroot
    exact (root_or_exists_higher hg hv).resolve_left hroot

/-- Unless exits are roots, an exit from which the last instruction is out of reach is not
covered. -/
theorem covers_trapInLastPlace :
    Outcome.trapInLastPlace.check = .ok () ∧
      (ofFlow Outcome.trapInLastPlace.flow true).Covers Outcome.trapInLastPlace.flow true ∧
      (ofFlow Outcome.trapInLastPlace.flow false).Covers Outcome.trapInLastPlace.flow false ∧
      (ofFlow Outcome.trapInLastPlace.flow true).sequence = [2, 3, 0, 1] ∧
      (ofFlow Outcome.trapInLastPlace.flow false).sequence = [3, 0, 1] := by
  have hc : Outcome.trapInLastPlace.check = .ok () := by decide +kernel
  exact ⟨hc, covers_reaching_instructions hc true, covers_reaching_instructions hc false,
    by decide +kernel, by decide +kernel⟩

end Numbering

end ControlDependence
