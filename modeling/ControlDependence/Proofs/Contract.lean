-- SUMMARY: What a body that passes the contract check looks like as a flow graph.
import Mathlib.Data.List.Nodup
import ControlDependence.Proofs.Scans

/-!
# What the check guarantees

A wiring that passes `Wiring.check` names only its own instructions, each list names
an instruction at most once, and the two kinds of lists mirror each other. Any wiring
that is so passes. The analysis never looks at the wiring again, so the same facts are
stated for the flow graph that it reads: `Code.flow_wellFormed`.
-/
namespace ControlDependence

/-- A flow graph whose edges stay inside it and whose lists mirror each other. -/
structure Flow.WellFormed (g : Flow) : Prop where
  mem_preds : ∀ u v, u ∈ g.preds v ↔ v ∈ g.succs u
  succs_lt : ∀ u v, v ∈ g.succs u → v < g.size
  succs_nodup : ∀ u, (g.succs u).Nodup

theorem Flow.lt_of_mem_succs {g : Flow} {u v : Nat} (h : v ∈ g.succs u) : u < g.size := by
  by_contra hu
  have : g.links[u]? = none := Array.getElem?_eq_none (by simpa [Flow.size] using hu)
  simp [Flow.succs, this] at h

namespace Wiring

variable {w : Wiring}

/-! ## Resolving neighbours -/

theorem resolve_ok {owner j : Nat} {role : Role} {n : Neighbour}
    (h : w.resolve owner role n = .ok j) : n = .own j ∧ j < w.size := by
  unfold resolve at h
  split at h
  · cases h
  · rename_i k _
    split at h
    · cases h
    · rename_i hk
      split at h
      · rename_i hat
        cases h
        cases n with
        | own p =>
          simp only [isAt, Bool.and_eq_true, decide_eq_true_eq] at hat
          exact ⟨by rw [hat.1], by omega⟩
        | absent => simp [isAt] at hat
        | outside i => simp [isAt] at hat
      · cases h

/-- The positions that an adjacency list resolves to come after those seen before. -/
theorem resolveAll_ok {owner : Nat} {role : Role} {accept : Nat → Except Fault Unit}
    {seen out : List Nat} {ns : List Neighbour}
    (h : w.resolveAll owner role accept seen ns = .ok out) (hseen : seen.Nodup) :
    ∃ js, out = seen.reverse ++ js ∧ ns = js.map .own ∧ out.Nodup ∧
      ∀ j ∈ js, j < w.size ∧ accept j = .ok () := by
  induction ns generalizing seen with
  | nil =>
    cases h
    exact ⟨[], by simp, rfl, List.nodup_reverse.2 hseen, by simp⟩
  | cons n ns ih =>
    simp only [resolveAll, bind, Except.bind] at h
    cases hj : w.resolve owner role n with
    | error f => simp [hj] at h
    | ok j =>
      obtain ⟨rfl, hlt⟩ := resolve_ok hj
      rw [hj] at h
      by_cases hmem : j ∈ seen
      · simp [hmem, throw, throwThe, MonadExceptOf.throw] at h
      · cases ha : accept j with
        | error f => simp [hmem, ha] at h
        | ok u =>
          simp only [hmem, ha, if_false] at h
          obtain ⟨js, rfl, rfl, hnd, hjs⟩ := ih h (List.nodup_cons.2 ⟨hmem, hseen⟩)
          refine ⟨j :: js, by simp, rfl, hnd, fun i hi => ?_⟩
          rcases List.mem_cons.1 hi with rfl | hi
          · exact ⟨hlt, ha⟩
          · exact hjs i hi

/-! ## Reading a wiring that passes the check -/

/-- The wiring's instructions carry their positions, and their lists name the own
instructions at the positions that `succs` and `preds` give. -/
structure Reads (w : Wiring) (succs preds : Nat → List Nat) : Prop where
  node : ∀ i < w.size, ∃ n, w.node? i = some n ∧ n.index = i ∧
    n.succs = (succs i).map .own ∧ n.preds = (preds i).map .own
  succs_lt : ∀ i < w.size, ∀ j ∈ succs i, j < w.size
  preds_lt : ∀ i < w.size, ∀ j ∈ preds i, j < w.size
  succs_nodup : ∀ i < w.size, (succs i).Nodup
  mirror : ∀ i < w.size, ∀ j < w.size, i ∈ preds j ↔ j ∈ succs i

theorem scanSuccs_ok {i : Nat} {js : List Nat} (h : w.scanSuccs i = .ok js) :
    ∃ n, w.node? i = some n ∧ n.index = i ∧ n.succs = js.map .own ∧ js.Nodup ∧
      ∀ j ∈ js, j < w.size := by
  unfold scanSuccs at h
  split at h
  · cases h
  · rename_i n hn
    split at h
    · cases h
    · rename_i hidx
      obtain ⟨js', rfl, hns, hnd, hjs⟩ := resolveAll_ok h List.nodup_nil
      exact ⟨n, hn, by simpa using hidx, by simpa using hns, hnd, fun j hj => (hjs j (by simpa using hj)).1⟩

theorem scanPreds_ok {succs : Array (List Nat)} {i : Nat} {js : List Nat}
    (h : w.scanPreds succs i = .ok js) :
    ∃ n, w.node? i = some n ∧ n.preds = js.map .own ∧ js.Nodup ∧
      ∀ j ∈ js, j < w.size ∧ i ∈ succs.getD j [] := by
  unfold scanPreds at h
  split at h
  · cases h
  · rename_i n hn
    obtain ⟨js', rfl, hns, hnd, hjs⟩ := resolveAll_ok h List.nodup_nil
    refine ⟨n, hn, by simpa using hns, hnd, fun j hj => ?_⟩
    obtain ⟨hlt, hacc⟩ := hjs j (by simpa using hj)
    refine ⟨hlt, ?_⟩
    split at hacc
    · assumption
    · cases hacc

theorem mapM_ok {f : Nat → Except Fault (List Nat)} {l : List Nat} {out : List (List Nat)}
    (h : l.mapM f = .ok out) {k x : Nat} (hx : l[k]? = some x) : f x = .ok (out.getD k []) := by
  induction l generalizing out k with
  | nil => simp at hx
  | cons y l ih =>
    simp only [List.mapM_cons, bind, Except.bind, pure, Except.pure] at h
    cases hy : f y with
    | error e => simp [hy] at h
    | ok z =>
      cases hl : l.mapM f with
      | error e => simp [hy, hl] at h
      | ok zs =>
        simp only [hy, hl] at h
        cases h
        cases k with
        | zero =>
          obtain rfl : y = x := by simpa using hx
          simpa using hy
        | succ k => simpa using ih hl (by simpa using hx)

/-- Scanning every position gives one list for each. -/
theorem mapM_range_ok {n : Nat} {f : Nat → Except Fault (List Nat)} {a : Array (List Nat)}
    (h : (Array.range n).mapM f = .ok a) (i : Nat) (hi : i < n) : f i = .ok (a.getD i []) := by
  rw [Array.mapM_eq_mapM_toList, Array.toList_range] at h
  cases hl : (List.range n).mapM f with
  | error e => simp [hl] at h
  | ok out =>
    simp only [hl] at h
    cases h
    simpa using mapM_ok hl (List.getElem?_range hi)

theorem checkIn_ok {order : Traversal} (h : w.checkIn order = .ok ()) :
    ∃ succs preds, w.Reads succs preds ∧ ∀ i < w.size, (preds i).Nodup := by
  rw [checkIn_eq_plainCheck] at h
  simp only [plainCheck, bind, Except.bind] at h
  cases hs : (Array.range w.size).mapM w.scanSuccs with
  | error e => simp [hs] at h
  | ok succs =>
    cases hp : (Array.range w.size).mapM (w.scanPreds succs) with
    | error e => simp [hs, hp] at h
    | ok preds =>
      simp only [hs, hp] at h
      have hsuccs := fun i hi => scanSuccs_ok (mapM_range_ok hs i hi)
      have hpreds := fun i hi => scanPreds_ok (mapM_range_ok hp i hi)
      -- No successor edge is left without its mirror image.
      have hleft : ∀ i < w.size, ∀ j ∈ succs.getD i [], i ∈ preds.getD j [] := by
        intro i hi j hj
        by_contra hmem
        split at h
        · cases h
        · rename_i hnone
          have hi' := List.findSome?_eq_none_iff.1 hnone i (List.mem_range.2 hi)
          simp only [unanswered?, Option.map_eq_none_iff, List.min?_eq_none_iff] at hi'
          exact List.filter_eq_nil_iff.1 hi' j hj (by simpa using hmem)
      refine ⟨fun i => succs.getD i [], fun i => preds.getD i [], ⟨?_, ?_, ?_, ?_, ?_⟩, ?_⟩
      · intro i hi
        obtain ⟨n, hn, hidx, hsn, -⟩ := hsuccs i hi
        obtain ⟨n', hn', hpn, -⟩ := hpreds i hi
        cases hn.symm.trans hn'
        exact ⟨n, hn, hidx, hsn, hpn⟩
      · exact fun i hi => (hsuccs i hi).choose_spec.2.2.2.2
      · exact fun i hi j hj => ((hpreds i hi).choose_spec.2.2.2 j hj).1
      · exact fun i hi => (hsuccs i hi).choose_spec.2.2.2.1
      · exact fun i hi j hj => ⟨fun h => ((hpreds j hj).choose_spec.2.2.2 i h).2, hleft i hi j⟩
      · exact fun i hi => (hpreds i hi).choose_spec.2.2.1

/-! ## The flow graph of a wiring that passes the check -/

theorem Reads.positions {succs preds : Nat → List Nat} (h : w.Reads succs preds) {js : List Nat}
    (hjs : ∀ j ∈ js, j < w.size) : w.positions (js.map .own) = js := by
  induction js with
  | nil => rfl
  | cons j js ih =>
    have hj := hjs j (by simp)
    obtain ⟨n, hn, hidx, -⟩ := h.node j hj
    have hown : w.indexOf (.own j) = some (.ofNat j) := by simp [indexOf, hn, hidx]
    rw [List.map_cons, Wiring.positions, List.filterMap_cons]
    simp only [hown, hj, if_true]
    exact congrArg (j :: ·) (ih fun i hi => hjs i (by simp [hi]))

theorem Reads.links {succs preds : Nat → List Nat} (h : w.Reads succs preds) {i : Nat}
    (hi : i < w.size) : w.flow.links[i]? = some ⟨succs i, preds i⟩ := by
  obtain ⟨n, hn, -, hs, hp⟩ := h.node i hi
  have hi' : i < w.nodes.size := hi
  have hnode : w.nodes[i] = some n := by
    simpa [node?, Array.getElem?_eq_getElem hi'] using hn
  simp [flow, hi', hnode, hs, hp, h.positions (h.succs_lt i hi), h.positions (h.preds_lt i hi)]

/-! ## Wirings that pass the check -/

section Accepts

variable {succs preds : Nat → List Nat}

theorem Reads.resolve (h : w.Reads succs preds) {j : Nat} (hj : j < w.size) (owner : Nat) (role : Role) :
    w.resolve owner role (.own j) = .ok j := by
  obtain ⟨n, hn, hidx, -⟩ := h.node j hj
  have hown : w.indexOf (.own j) = some (j : Int) := by simp [indexOf, hn, hidx]
  have hat : w.isAt j (.own j) = true := by simp [isAt, hn]
  simpa [Wiring.resolve, hown, hat] using hj

/-- A list of own instructions without repetition resolves to their positions. -/
theorem Reads.resolveAll (h : w.Reads succs preds) (owner : Nat) (role : Role)
    (accept : Nat → Except Fault Unit) (seen : List Nat) {js : List Nat} (hnd : (seen.reverse ++ js).Nodup)
    (hjs : ∀ j ∈ js, j < w.size ∧ accept j = .ok ()) :
    w.resolveAll owner role accept seen (js.map .own) = .ok (seen.reverse ++ js) := by
  induction js generalizing seen with
  | nil => simp [Wiring.resolveAll]
  | cons j js ih =>
    obtain ⟨hj, hacc⟩ := hjs j (by simp)
    have hseen : j ∉ seen := by
      intro hmem
      exact (List.nodup_append.1 hnd).2.2 j (List.mem_reverse.2 hmem) j (by simp) rfl
    have hrest := ih (j :: seen) (by simpa using hnd) fun i hi => hjs i (by simp [hi])
    rw [List.map_cons, Wiring.resolveAll, h.resolve hj]
    simp only [bind, Except.bind, hseen, if_false, hacc]
    simpa using hrest

theorem Reads.scanSuccs (h : w.Reads succs preds) {i : Nat} (hi : i < w.size) :
    w.scanSuccs i = .ok (succs i) := by
  obtain ⟨n, hn, hidx, hs, -⟩ := h.node i hi
  have hall := h.resolveAll i .successor (fun _ => .ok ()) []
    (by simpa using h.succs_nodup i hi) fun j hj => ⟨h.succs_lt i hi j hj, rfl⟩
  rw [Wiring.scanSuccs, hn]
  simpa [hidx, hs] using hall

theorem Reads.scanPreds (h : w.Reads succs preds) (hnd : ∀ i < w.size, (preds i).Nodup)
    {found : Array (List Nat)} (hfound : ∀ i < w.size, found.getD i [] = succs i) {i : Nat} (hi : i < w.size) :
    w.scanPreds found i = .ok (preds i) := by
  obtain ⟨n, hn, -, -, hp⟩ := h.node i hi
  rw [Wiring.scanPreds, hn]
  simp only [hp]
  refine h.resolveAll i .predecessor _ [] (by simpa using hnd i hi) fun j hj => ?_
  have hj' := h.preds_lt i hi j hj
  have hmem : i ∈ found.getD j [] := by
    rw [hfound j hj']
    exact (h.mirror j hj' i hi).1 hj
  exact ⟨hj', if_pos hmem⟩

theorem mapM_eq_ok {f : Nat → Except Fault (List Nat)} {k : Nat → List Nat} {l : List Nat}
    (h : ∀ i ∈ l, f i = .ok (k i)) : l.mapM f = .ok (l.map k) := by
  induction l with
  | nil => rfl
  | cons i l ih =>
    rw [List.mapM_cons, h i (by simp), ih fun j hj => h j (by simp [hj])]
    rfl

theorem mapM_range_eq_ok {n : Nat} {f : Nat → Except Fault (List Nat)} {k : Nat → List Nat}
    (h : ∀ i < n, f i = .ok (k i)) :
    ∃ a : Array (List Nat), (Array.range n).mapM f = .ok a ∧ ∀ i < n, a.getD i [] = k i := by
  refine ⟨((List.range n).map k).toArray, ?_, fun i hi => by simp [hi]⟩
  rw [Array.mapM_eq_mapM_toList, Array.toList_range, mapM_eq_ok fun i hi => h i (List.mem_range.1 hi)]
  rfl

/-- A wiring passes the check if its lists mirror each other and repeat nothing. -/
theorem Reads.checkIn (h : w.Reads succs preds) (hnd : ∀ i < w.size, (preds i).Nodup) (order : Traversal) :
    w.checkIn order = .ok () := by
  rw [checkIn_eq_plainCheck]
  obtain ⟨found, hfound, hsuccs⟩ := mapM_range_eq_ok fun i hi => h.scanSuccs (i := i) hi
  obtain ⟨found', hfound', hpreds⟩ := mapM_range_eq_ok fun i hi => h.scanPreds hnd hsuccs (i := i) hi
  have hleast : ((List.range w.size).findSome? fun i => (unanswered? found found' i).map (i, ·)) = none := by
    rw [List.findSome?_eq_none_iff]
    intro i hi
    have hi := List.mem_range.1 hi
    simp only [unanswered?, Option.map_eq_none_iff, List.min?_eq_none_iff, List.filter_eq_nil_iff]
    intro j hj
    rw [hsuccs i hi] at hj
    have hj' := h.succs_lt i hi j hj
    simp [hpreds j hj', (h.mirror i hi j hj').2 hj]
  simp only [plainCheck, hfound, hfound', bind, Except.bind, hleast]
  rfl

end Accepts

end Wiring

/-- The graph with the links that `succs` and `preds` give, if these mirror each other. -/
theorem Flow.wellFormed_of_links {g : Flow} {w : Wiring} {succs preds : Nat → List Nat}
    (h : w.Reads succs preds) (hsize : g.size = w.size)
    (hlinks : ∀ i < w.size, g.links[i]? = some ⟨succs i, preds i⟩) : g.WellFormed := by
  have hsuccs : ∀ i < w.size, g.succs i = succs i := fun i hi => by simp [Flow.succs, hlinks i hi]
  have hpreds : ∀ i < w.size, g.preds i = preds i := fun i hi => by simp [Flow.preds, hlinks i hi]
  have hout : ∀ i, ¬ i < w.size → g.links[i]? = none := fun i hi =>
    Array.getElem?_eq_none (by rw [← hsize] at hi; simpa [Flow.size] using hi)
  refine ⟨fun u v => ?_, fun u v hv => ?_, fun u => ?_⟩
  · by_cases hu : u < w.size <;> by_cases hv : v < w.size
    · rw [hsuccs u hu, hpreds v hv]
      exact h.mirror u hu v hv
    · have : v ∉ succs u := fun hmem => hv (h.succs_lt u hu v hmem)
      simp [Flow.preds, hout v hv, hsuccs u hu, this]
    · have : u ∉ preds v := fun hmem => hu (h.preds_lt v hv u hmem)
      simp [Flow.succs, hout u hu, hpreds v hv, this]
    · simp [Flow.preds, Flow.succs, hout u hu, hout v hv]
  · have hu : u < w.size := hsize ▸ Flow.lt_of_mem_succs hv
    rw [hsuccs u hu] at hv
    exact hsize ▸ h.succs_lt u hu v hv
  · by_cases hu : u < w.size
    · rw [hsuccs u hu]
      exact h.succs_nodup u hu
    · simp [Flow.succs, hout u hu]

/-- A body names its own instructions, so its links are those its wiring reads. -/
theorem Body.links_of_reads {b : Body} {succs preds : Nat → List Nat}
    (h : b.wiring.Reads succs preds) (i : Nat) (hi : i < b.wiring.size) :
    b.flow.links[i]? = some ⟨succs i, preds i⟩ := by
  obtain ⟨n, hn, -, hs, hp⟩ := h.node i hi
  have hi' : i < b.instructions.size := by simpa [Wiring.size, Body.wiring] using hi
  have hown : Function.Injective Neighbour.own := fun a b hab => by cases hab; rfl
  simp only [Wiring.node?, Body.wiring, Array.getElem?_mapIdx, Array.getElem?_eq_getElem hi',
    Option.map_some, Option.join_some, Option.some.injEq] at hn
  subst hn
  have hs' := List.map_injective_iff.2 hown hs
  have hp' := List.map_injective_iff.2 hown hp
  simp [Body.flow, hi', hs', hp']

/-- Code that passes the check lacks nothing that it names. -/
theorem Code.isReadable_of_check {c : Code} (h : c.check = .ok ()) : c.isReadable = true := by
  obtain ⟨succs, preds, hr, -⟩ := Wiring.checkIn_ok h
  unfold isReadable Wiring.isReadable
  rw [Array.all_eq_true]
  intro i hi
  obtain ⟨n, hn, -, hs, hp⟩ := hr.node i hi
  have hnode : c.wiring.nodes[i] = some n := by simpa [Wiring.node?, Array.getElem?_eq_getElem hi] using hn
  simp [hnode, hs, hp, hr.positions (hr.succs_lt i hi), hr.positions (hr.preds_lt i hi)]

theorem Code.flow_wellFormed {c : Code} (h : c.check = .ok ()) : c.flow.WellFormed := by
  obtain ⟨succs, preds, hr, -⟩ := Wiring.checkIn_ok h
  cases c with
  | built b =>
    exact Flow.wellFormed_of_links hr (by simp [Code.flow, Body.flow, Flow.size, Code.wiring,
      Body.wiring, Wiring.size]) (Body.links_of_reads hr)
  | wired w =>
    exact Flow.wellFormed_of_links hr (by simp [Code.flow, Wiring.flow, Flow.size, Code.wiring,
      Wiring.size]) fun i hi => hr.links hi

end ControlDependence
