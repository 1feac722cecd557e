-- SUMMARY: The graph contract in its own words, and that the check accepts exactly the wirings that honour it.
import ControlDependence.Proofs.Contract

/-!
# The contract and its check

`Wiring.Contract` says what is asked of a wiring, neighbour by neighbour and without any
order of scanning. The check resolves neighbours to positions as it goes along; a wiring
honours the contract exactly if its lists are lists of own positions (`Wiring.Reads`), and
these are the wirings that the check accepts.
-/
namespace ControlDependence

/-- The adjacency list of a role. -/
def Node.neighbours (n : Node) : Role → List Neighbour
  | .successor => n.succs
  | .predecessor => n.preds

namespace Wiring

variable {w : Wiring} {i j : Nat} {n : Node} {a : Neighbour} {succs preds : Nat → List Nat}

/-- The neighbour is the very instruction that the wiring holds at the index it carries. -/
def IsOwn (w : Wiring) (a : Neighbour) : Prop :=
  ∃ j : Nat, w.indexOf a = some (j : Int) ∧ w.isAt j a = true

/-- The list names the instruction that the wiring holds at a position. -/
def Names (w : Wiring) (as : List Neighbour) (j : Nat) : Prop := ∃ a ∈ as, w.isAt j a = true

/-- What is asked of an instruction graph. -/
structure Contract (w : Wiring) : Prop where
  /-- Every position holds an instruction that carries it as its index. -/
  placed : ∀ i < w.size, ∃ n, w.node? i = some n ∧ n.index = i
  /-- Every neighbour is an instruction of the wiring. -/
  own : ∀ i n, w.node? i = some n → ∀ role, ∀ a ∈ n.neighbours role, w.IsOwn a
  /-- No list names an instruction twice. -/
  nodup : ∀ i n, w.node? i = some n → ∀ role, (n.neighbours role).Nodup
  /-- An instruction is a successor of those that are its predecessors. -/
  mirror : ∀ i j m n, w.node? i = some m → w.node? j = some n →
    (w.Names m.succs j ↔ w.Names n.preds i)

/-! ## Instructions of the wiring -/

theorem lt_size_of_node? (h : w.node? i = some n) : i < w.size := by
  by_contra hi
  have hnone : w.nodes[i]? = none := Array.getElem?_eq_none (Nat.le_of_not_lt hi)
  simp [node?, hnone] at h

theorem isAt_iff : w.isAt j a = true ↔ a = .own j ∧ ∃ n, w.node? j = some n := by
  cases a with
  | absent => simp [isAt]
  | own p => simp [isAt, Option.isSome_iff_exists]
  | outside k => simp [isAt]

theorem names_iff (hj : w.node? j = some n) {as : List Neighbour} : w.Names as j ↔ .own j ∈ as := by
  constructor
  · rintro ⟨a, ha, hat⟩
    obtain ⟨rfl, -⟩ := isAt_iff.1 hat
    exact ha
  · intro hmem
    exact ⟨.own j, hmem, isAt_iff.2 ⟨rfl, n, hj⟩⟩

/-- A list of own instructions is a list of positions. -/
theorem exists_positions {as : List Neighbour} (h : ∀ a ∈ as, w.IsOwn a) :
    ∃ js : List Nat, as = js.map .own ∧ ∀ j ∈ js, j < w.size := by
  induction as with
  | nil => exact ⟨[], rfl, by simp⟩
  | cons a as ih =>
    obtain ⟨j, -, hat⟩ := h a (by simp)
    obtain ⟨rfl, n, hn⟩ := isAt_iff.1 hat
    obtain ⟨js, rfl, hjs⟩ := ih fun b hb => h b (by simp [hb])
    refine ⟨j :: js, rfl, ?_⟩
    intro k hk
    rcases List.mem_cons.1 hk with rfl | hk
    · exact lt_size_of_node? hn
    · exact hjs k hk

theorem own_injective : Function.Injective Neighbour.own := by
  intro i j h
  cases h
  rfl

/-! ## The contract and the positions that a wiring reads -/

section Reads

theorem Reads.node_eq (h : w.Reads succs preds) (hn : w.node? i = some n) :
    n.index = i ∧ n.succs = (succs i).map .own ∧ n.preds = (preds i).map .own := by
  obtain ⟨m, hm, hall⟩ := h.node i (lt_size_of_node? hn)
  cases hm.symm.trans hn
  exact hall

theorem Reads.isOwn (h : w.Reads succs preds) (hj : j < w.size) : w.IsOwn (.own j) := by
  obtain ⟨n, hn, hidx, -⟩ := h.node j hj
  exact ⟨j, by simp [indexOf, hn, hidx], isAt_iff.2 ⟨rfl, n, hn⟩⟩

theorem Reads.contract (h : w.Reads succs preds) (hnd : ∀ i < w.size, (preds i).Nodup) : w.Contract where
  placed i hi := by
    obtain ⟨n, hn, hidx, -⟩ := h.node i hi
    exact ⟨n, hn, hidx⟩
  own i n hn role a ha := by
    obtain ⟨-, hs, hp⟩ := h.node_eq hn
    have hi := lt_size_of_node? hn
    cases role with
    | successor =>
      obtain ⟨j, hj, rfl⟩ := List.mem_map.1 (hs ▸ ha : a ∈ (succs i).map .own)
      exact h.isOwn (h.succs_lt i hi j hj)
    | predecessor =>
      obtain ⟨j, hj, rfl⟩ := List.mem_map.1 (hp ▸ ha : a ∈ (preds i).map .own)
      exact h.isOwn (h.preds_lt i hi j hj)
  nodup i n hn role := by
    obtain ⟨-, hs, hp⟩ := h.node_eq hn
    have hi := lt_size_of_node? hn
    cases role with
    | successor =>
      unfold Node.neighbours
      rw [hs]
      exact (h.succs_nodup i hi).map own_injective
    | predecessor =>
      unfold Node.neighbours
      rw [hp]
      exact (hnd i hi).map own_injective
  mirror i j m n hm hn := by
    obtain ⟨-, hs, -⟩ := h.node_eq hm
    obtain ⟨-, -, hp⟩ := h.node_eq hn
    rw [names_iff hn, names_iff hm, hs, hp, List.mem_map_of_injective own_injective,
      List.mem_map_of_injective own_injective]
    exact (h.mirror i (lt_size_of_node? hm) j (lt_size_of_node? hn)).symm

theorem Contract.exists_reads (h : w.Contract) :
    ∃ succs preds, w.Reads succs preds ∧ ∀ i < w.size, (preds i).Nodup := by
  have hlists : ∀ role i, ∃ js : List Nat, ∀ n, w.node? i = some n →
      n.neighbours role = js.map .own ∧ ∀ j ∈ js, j < w.size := by
    intro role i
    cases hn : w.node? i with
    | none => exact ⟨[], by simp⟩
    | some n =>
      obtain ⟨js, hjs⟩ := exists_positions (h.own i n hn role)
      refine ⟨js, ?_⟩
      rintro _ ⟨⟩
      exact hjs
  choose positions hpositions using hlists
  have hnodup : ∀ role, ∀ i < w.size, (positions role i).Nodup := by
    intro role i hi
    obtain ⟨n, hn, -⟩ := h.placed i hi
    have hnd := h.nodup i n hn role
    rw [(hpositions role i n hn).1] at hnd
    exact hnd.of_map _
  have hlt : ∀ role, ∀ i < w.size, ∀ j ∈ positions role i, j < w.size := by
    intro role i hi
    obtain ⟨n, hn, -⟩ := h.placed i hi
    exact (hpositions role i n hn).2
  refine ⟨positions .successor, positions .predecessor, ⟨?_, hlt _, hlt _, hnodup _, ?_⟩, hnodup _⟩
  · intro i hi
    obtain ⟨n, hn, hidx⟩ := h.placed i hi
    exact ⟨n, hn, hidx, (hpositions .successor i n hn).1, (hpositions .predecessor i n hn).1⟩
  · intro i hi j hj
    obtain ⟨m, hm, -⟩ := h.placed i hi
    obtain ⟨n, hn, -⟩ := h.placed j hj
    have hs : m.succs = (positions .successor i).map .own := (hpositions .successor i m hm).1
    have hp : n.preds = (positions .predecessor j).map .own := (hpositions .predecessor j n hn).1
    have hmirror := h.mirror i j m n hm hn
    rw [names_iff hn, names_iff hm, hs, hp, List.mem_map_of_injective own_injective,
      List.mem_map_of_injective own_injective] at hmirror
    exact hmirror.symm

end Reads

/-- In whatever order it goes through the edges that are left, the check accepts a wiring exactly
if it honours the contract. -/
theorem checkIn_eq_ok_iff_contract (order : Traversal) (w : Wiring) : w.checkIn order = .ok () ↔ w.Contract := by
  constructor
  · intro hcheck
    obtain ⟨succs, preds, hreads, hnd⟩ := checkIn_ok hcheck
    exact hreads.contract hnd
  · intro hcontract
    obtain ⟨succs, preds, hreads, hnd⟩ := hcontract.exists_reads
    exact hreads.checkIn hnd order

end Wiring

end ControlDependence
