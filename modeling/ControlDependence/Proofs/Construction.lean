-- SUMMARY: What a body built edge by edge holds, when an edge is refused, and that every such body is accepted.
import ControlDependence.Proofs.Contract

/-!
# Bodies built edge by edge

A body holds a list of edges: the successors of an instruction are the targets of its
edges in the order in which they were added, and likewise for predecessors, and the set
has the same edges. `Body.Takes` says what each edit does that is not refused: adding an
instruction keeps the list and adding an edge extends it, unless the body is frozen, an
end is no instruction, or the edge is there already. A refused edit writes nothing. So a
body that grew in this way passes the check, whatever was added to it.
-/
namespace ControlDependence.Body

variable {b b' : Body} {edges : List (Nat × Nat)} {u v : Nat} {e : Edit}

/-- The body has exactly the given edges, in the order in which they were added. -/
structure Holds (b : Body) (edges : List (Nat × Nat)) : Prop where
  succs_eq : ∀ u, b.flow.succs u = (edges.filter (·.1 = u)).map (·.2)
  preds_eq : ∀ v, b.flow.preds v = (edges.filter (·.2 = v)).map (·.1)
  mem_edges : ∀ e, e ∈ b.edges ↔ e ∈ edges
  edgeCount_eq : b.edgeCount = edges.length
  nodup : edges.Nodup
  lt_size : ∀ e ∈ edges, e.1 < b.size ∧ e.2 < b.size

theorem flow_succs (b : Body) (u : Nat) : b.flow.succs u = (b.instructions[u]?.map (·.succs)).getD [] := by
  cases h : b.instructions[u]? <;> simp [flow, Flow.succs, h]

theorem flow_preds (b : Body) (u : Nat) : b.flow.preds u = (b.instructions[u]?.map (·.preds)).getD [] := by
  cases h : b.instructions[u]? <;> simp [flow, Flow.preds, h]

theorem flow_size (b : Body) : b.flow.size = b.size := by
  simp [flow, Flow.size, size]

theorem position?_eq_some {i : Int} : b.position? i = some u ↔ i = u ∧ u < b.size := by
  rw [position?]
  split
  · simp only [Option.some.injEq]
    omega
  · simp only [reduceCtorEq, false_iff]
    omega

/-! ## Adding an edge -/

/-- The body with one more edge. -/
def link (b : Body) (u v : Nat) : Body :=
  ({ b with edges := b.edges.insert (u, v) }.appendSucc u v).appendPred v u

@[simp] theorem size_link : (b.link u v).size = b.size := by
  simp [link, appendSucc, appendPred, size]

theorem mem_edges_link {e : Nat × Nat} : e ∈ (b.link u v).edges ↔ e = (u, v) ∨ e ∈ b.edges := by
  rw [link, appendPred, appendSucc, Std.TreeSet.mem_insert, Std.LawfulEqCmp.compare_eq_iff_eq, eq_comm]

/-- A set that has the edge already would not grow. -/
theorem edgeCount_link (hnew : (u, v) ∉ b.edges) : (b.link u v).edgeCount = b.edgeCount + 1 := by
  rw [edgeCount, link, appendPred, appendSucc, Std.TreeSet.size_insert, if_neg (by simpa using hnew), edgeCount]

theorem succs_link (hu : u < b.size) (w : Nat) :
    (b.link u v).flow.succs w = if w = u then b.flow.succs w ++ [v] else b.flow.succs w := by
  simp only [flow_succs, link, appendSucc, appendPred, Array.getElem?_modify]
  have hu' : u < b.instructions.size := hu
  by_cases hw : w = u
  · subst hw
    by_cases hv : v = w <;> simp [hv, hu']
  · by_cases hv : v = w
    · subst hv
      cases b.instructions[v]? <;> simp [hw, Ne.symm hw]
    · simp [hw, Ne.symm hw, hv]

theorem preds_link (hv : v < b.size) (w : Nat) :
    (b.link u v).flow.preds w = if w = v then b.flow.preds w ++ [u] else b.flow.preds w := by
  simp only [flow_preds, link, appendSucc, appendPred, Array.getElem?_modify]
  have hv' : v < b.instructions.size := hv
  by_cases hw : w = v
  · subst hw
    by_cases hu : u = w <;> simp [hu, hv']
  · by_cases hu : u = w
    · subst hu
      cases b.instructions[u]? <;> simp [hw, Ne.symm hw]
    · simp [hw, Ne.symm hw, hu]

theorem Holds.link (h : b.Holds edges) (hu : u < b.size) (hv : v < b.size) (hnew : (u, v) ∉ edges) :
    (b.link u v).Holds (edges ++ [(u, v)]) where
  succs_eq w := by
    rw [succs_link hu, h.succs_eq]
    by_cases hw : w = u
    · subst hw; simp
    · simp [hw, Ne.symm hw]
  preds_eq w := by
    rw [preds_link hv, h.preds_eq]
    by_cases hw : w = v
    · subst hw; simp
    · simp [hw, Ne.symm hw]
  mem_edges e := by
    rw [mem_edges_link, h.mem_edges, List.mem_append, List.mem_singleton, or_comm]
  edgeCount_eq := by
    rw [edgeCount_link (mt (h.mem_edges _).1 hnew), h.edgeCount_eq, List.length_append, List.length_singleton]
  nodup := List.nodup_append.2 ⟨h.nodup, by simp, by
    rintro e he _ hmem rfl
    exact hnew (List.mem_singleton.1 hmem ▸ he)⟩
  lt_size e he := by
    rw [size_link]
    rcases List.mem_append.1 he with he | he
    · exact h.lt_size e he
    · cases List.mem_singleton.1 he
      exact ⟨hu, hv⟩

/-! ## Adding instructions -/

/-- The body with one more instruction. -/
def append (b : Body) (label : String) : Body :=
  { b with instructions := b.instructions.push { label, succs := [], preds := [] } }

@[simp] theorem size_append (label : String) : (b.append label).size = b.size + 1 := by
  simp [append, size]

theorem Holds.append (h : b.Holds edges) (label : String) : (b.append label).Holds edges where
  succs_eq w := by
    rw [← h.succs_eq, flow_succs, flow_succs, Body.append, Array.getElem?_push]
    by_cases hw : w = b.instructions.size
    · simp [hw]
    · simp [hw]
  preds_eq w := by
    rw [← h.preds_eq, flow_preds, flow_preds, Body.append, Array.getElem?_push]
    by_cases hw : w = b.instructions.size
    · simp [hw]
    · simp [hw]
  mem_edges := h.mem_edges
  edgeCount_eq := h.edgeCount_eq
  nodup := h.nodup
  lt_size e he := by
    have hlt := h.lt_size e he
    rw [size_append]
    omega

theorem holds_empty : empty.Holds [] where
  succs_eq u := by simp [flow_succs, empty]
  preds_eq v := by simp [flow_preds, empty]
  mem_edges e := by simp [empty]
  edgeCount_eq := rfl
  nodup := .nil
  lt_size := by simp

theorem Holds.freeze (h : b.Holds edges) : b.freeze.Holds edges :=
  ⟨h.succs_eq, h.preds_eq, h.mem_edges, h.edgeCount_eq, h.nodup, h.lt_size⟩

/-! ## Edits -/

theorem run_addInstruction (b : Body) (label : String) :
    (addInstruction label).run b = if b.frozen then .error .frozen b else .ok b.size (b.append label) := by
  cases hf : b.frozen <;> simp [addInstruction, append, hf, -bind_pure_comp]

/-- An edge is written to the set and to both lists once all that could be said against it has been
looked at. -/
theorem run_addEdge (b : Body) (source target : Int) : (addEdge source target).run b =
    if b.frozen then .error .frozen b
    else
      match b.position? source with
      | none => .error (.noSource source) b
      | some u =>
        match b.position? target with
        | none => .error (.noTarget target) b
        | some v => if (u, v) ∈ b.edges then .error (.duplicateEdge u v) b else .ok () (b.link u v) := by
  cases hf : b.frozen with
  | true => simp [addEdge, hf]
  | false =>
    cases hs : b.position? source with
    | none => simp [addEdge, hf, hs]
    | some u =>
      cases ht : b.position? target with
      | none => simp [addEdge, hf, hs, ht]
      | some v => by_cases hmem : (u, v) ∈ b.edges <;> simp [addEdge, link, hf, hs, ht, hmem]

/-- The edit is taken, and makes this of the body. -/
inductive Takes : Body → Edit → Body → Prop where
  | addInstruction {b : Body} {label : String} (hf : b.frozen = false) :
    Takes b (.addInstruction label) (b.append label)
  | addEdge {b : Body} {u v : Nat} (hf : b.frozen = false) (hu : u < b.size) (hv : v < b.size)
      (hnew : (u, v) ∉ b.edges) : Takes b (.addEdge u v) (b.link u v)
  | freeze {b : Body} : Takes b .freeze b.freeze

theorem Takes.run_apply (h : b.Takes e b') : (apply e).run b = .ok () b' := by
  cases h with
  | addInstruction hf => simp [apply, run_addInstruction, hf, -bind_pure_comp]
  | addEdge hf hu hv hnew =>
    simp [apply, run_addEdge, hf, position?_eq_some.2 ⟨rfl, hu⟩, position?_eq_some.2 ⟨rfl, hv⟩, hnew]
  | freeze => simp [apply]

/-- An edit is taken, or it is refused and leaves the body as it was. -/
theorem takes_or_refuses (b : Body) (e : Edit) : (∃ b', b.Takes e b') ∨ ∃ f, (apply e).run b = .error f b := by
  cases e with
  | addInstruction label =>
    cases hf : b.frozen with
    | false => exact .inl ⟨_, .addInstruction hf⟩
    | true => exact .inr ⟨.frozen, by simp [apply, run_addInstruction, hf, -bind_pure_comp]⟩
  | addEdge source target =>
    cases hf : b.frozen with
    | true => exact .inr ⟨.frozen, by simp [apply, run_addEdge, hf]⟩
    | false =>
      cases hs : b.position? source with
      | none => exact .inr ⟨.noSource source, by simp [apply, run_addEdge, hf, hs]⟩
      | some u =>
        cases ht : b.position? target with
        | none => exact .inr ⟨.noTarget target, by simp [apply, run_addEdge, hf, hs, ht]⟩
        | some v =>
          by_cases hmem : (u, v) ∈ b.edges
          · exact .inr ⟨.duplicateEdge u v, by simp [apply, run_addEdge, hf, hs, ht, hmem]⟩
          · obtain ⟨rfl, hu⟩ := position?_eq_some.1 hs
            obtain ⟨rfl, hv⟩ := position?_eq_some.1 ht
            exact .inl ⟨_, .addEdge hf hu hv hmem⟩
  | freeze => exact .inl ⟨_, .freeze⟩

theorem run_apply_eq_ok_iff : (apply e).run b = .ok () b' ↔ b.Takes e b' := by
  constructor
  · intro h
    rcases takes_or_refuses b e with ⟨b'', htakes⟩ | ⟨f, hrefused⟩
    · cases htakes.run_apply.symm.trans h
      exact htakes
    · cases hrefused.symm.trans h
  · exact Takes.run_apply

theorem edit_eq_ok_iff : b.edit e = .ok b' ↔ b.Takes e b' := by
  rw [← run_apply_eq_ok_iff, edit]
  cases (apply e).run b <;> simp

/-! ## The check -/

theorem Holds.mem_succs (h : b.Holds edges) : v ∈ b.flow.succs u ↔ (u, v) ∈ edges := by
  rw [h.succs_eq]
  simp

theorem Holds.mem_preds (h : b.Holds edges) : u ∈ b.flow.preds v ↔ (u, v) ∈ edges := by
  rw [h.preds_eq]
  simp

theorem Holds.succs_nodup (h : b.Holds edges) (u : Nat) : (b.flow.succs u).Nodup := by
  rw [h.succs_eq]
  refine (h.nodup.filter _).map_on fun e he e' he' heq => ?_
  simp only [List.mem_filter, decide_eq_true_eq] at he he'
  exact Prod.ext (he.2.trans he'.2.symm) heq

theorem Holds.preds_nodup (h : b.Holds edges) (v : Nat) : (b.flow.preds v).Nodup := by
  rw [h.preds_eq]
  refine (h.nodup.filter _).map_on fun e he e' he' heq => ?_
  simp only [List.mem_filter, decide_eq_true_eq] at he he'
  exact Prod.ext heq (he.2.trans he'.2.symm)

theorem size_wiring (b : Body) : b.wiring.size = b.size := by
  simp [wiring, Wiring.size, size]

theorem node?_wiring {i : Nat} (hi : i < b.size) :
    b.wiring.node? i = some ⟨i, (b.flow.succs i).map .own, (b.flow.preds i).map .own⟩ := by
  have hi' : i < b.instructions.size := hi
  simp [wiring, Wiring.node?, flow_succs, flow_preds, hi']

/-- A body that was built edge by edge passes the check. -/
theorem Holds.checkIn (h : b.Holds edges) (order : Traversal) : b.wiring.checkIn order = .ok () := by
  have hreads : b.wiring.Reads b.flow.succs b.flow.preds := {
    node i hi := ⟨_, node?_wiring (b.size_wiring ▸ hi), rfl, rfl, rfl⟩
    succs_lt i _ j hj := b.size_wiring ▸ (h.lt_size _ (h.mem_succs.1 hj)).2
    preds_lt i _ j hj := b.size_wiring ▸ (h.lt_size _ (h.mem_preds.1 hj)).1
    succs_nodup i _ := h.succs_nodup i
    mirror i _ j _ := h.mem_preds.trans h.mem_succs.symm }
  exact hreads.checkIn (fun i _ => h.preds_nodup i) order

theorem Holds.check (h : b.Holds edges) : (Code.built b).check = .ok () := h.checkIn .ascending

/-! ## Bodies from labels and edges -/

/-- The labels of the instructions, in order. -/
def labels (b : Body) : List String := b.instructions.toList.map (·.label)

theorem label_natCast (b : Body) (i : Nat) : b.label i = b.labels.getD i "" := by
  by_cases hi : i < b.size
  · have hi' : i < b.instructions.size := hi
    simp [label, instruction?, position?_eq_some.2 ⟨rfl, hi⟩, labels, hi']
  · have hnone : b.position? i = none := by
      cases h : b.position? i with
      | none => rfl
      | some u => exact absurd (Int.natCast_inj.1 (position?_eq_some.1 h).1 ▸ (position?_eq_some.1 h).2) hi
    have hi' : b.instructions.size ≤ i := Nat.le_of_not_lt hi
    simp [label, instruction?, hnone, labels, hi']

theorem labels_link : (b.link u v).labels = b.labels := by
  refine List.ext_getElem? fun i => ?_
  simp only [labels, link, appendSucc, appendPred, List.getElem?_map, Array.getElem?_toList, Array.getElem?_modify]
  cases b.instructions[i]? <;> split <;> split <;> simp

theorem labels_append (label : String) : (b.append label).labels = b.labels ++ [label] := by
  simp [labels, append]

theorem foldlM_addInstruction (hf : b.frozen = false) (ls : List String) :
    (ls.map Edit.addInstruction).foldlM edit b = .ok (ls.foldl append b) := by
  induction ls generalizing b with
  | nil => rfl
  | cons l ls ih =>
    rw [List.map_cons, List.foldlM_cons, edit_eq_ok_iff.2 (.addInstruction hf)]
    exact ih hf

theorem foldl_append_spec (h : b.Holds edges) (ls : List String) :
    (ls.foldl append b).Holds edges ∧ (ls.foldl append b).labels = b.labels ++ ls ∧
      (ls.foldl append b).size = b.size + ls.length ∧ (ls.foldl append b).frozen = b.frozen := by
  induction ls generalizing b with
  | nil => simp [h]
  | cons l ls ih =>
    obtain ⟨hholds, hlabels, hsize, hf⟩ := ih (h.append l)
    refine ⟨hholds, ?_, ?_, hf⟩
    · simp [hlabels, labels_append]
    · rw [List.foldl_cons, hsize, size_append, List.length_cons]
      omega

/-- An edge between two positions, as it is asked for. -/
def request (e : Nat × Nat) : Int × Int := (e.1, e.2)

/-- The edits that ask for edges. -/
def additions (l : List (Int × Int)) : List Edit := l.map fun e => .addEdge e.1 e.2

/-- Edges that are all added are new and between instructions. -/
theorem holds_of_foldlM_addEdge (h : b.Holds edges) {l : List (Int × Int)}
    (hl : (additions l).foldlM edit b = .ok b') :
    ∃ new, l = new.map request ∧ b'.Holds (edges ++ new) ∧ b'.labels = b.labels ∧ b'.size = b.size := by
  induction l generalizing b edges with
  | nil =>
    cases hl
    exact ⟨[], rfl, by simpa using h, rfl, rfl⟩
  | cons e l ih =>
    obtain ⟨source, target⟩ := e
    rw [additions, List.map_cons, List.foldlM_cons] at hl
    cases hadd : b.edit (.addEdge source target) with
    | error f =>
      rw [hadd] at hl
      cases hl
    | ok b₁ =>
      rw [hadd] at hl
      cases edit_eq_ok_iff.1 hadd with
      | addEdge hf hu hv hnew =>
        obtain ⟨new, rfl, hholds, hlabels, hsize⟩ := ih (h.link hu hv (mt (h.mem_edges _).2 hnew)) hl
        exact ⟨(_, _) :: new, rfl, by simpa using hholds, hlabels.trans labels_link, hsize.trans size_link⟩

theorem exists_foldlM_addEdge (h : b.Holds edges) (hf : b.frozen = false) {new : List (Nat × Nat)}
    (hnd : (edges ++ new).Nodup) (hlt : ∀ e ∈ new, e.1 < b.size ∧ e.2 < b.size) :
    ∃ b', (additions (new.map request)).foldlM edit b = .ok b' := by
  induction new generalizing b edges with
  | nil => exact ⟨b, rfl⟩
  | cons e new ih =>
    obtain ⟨u, v⟩ := e
    obtain ⟨hu, hv⟩ := hlt (u, v) (by simp)
    have hnew : (u, v) ∉ edges := fun hmem => (List.nodup_append.1 hnd).2.2 _ hmem _ (by simp) rfl
    have hadd : b.edit (.addEdge u v) = .ok (b.link u v) :=
      edit_eq_ok_iff.2 (.addEdge hf hu hv (mt (h.mem_edges _).1 hnew))
    obtain ⟨b', hb'⟩ := ih (h.link hu hv hnew) hf (by simpa using hnd) fun e he => by
      rw [size_link]
      exact hlt e (by simp [he])
    refine ⟨b', ?_⟩
    rw [List.map_cons, additions, List.map_cons, List.foldlM_cons, request, hadd]
    exact hb'

theorem ofEdges_eq (ls : List String) (l : List (Int × Int)) :
    ofEdges ls l = (additions l).foldlM edit (ls.foldl append empty) := by
  rw [ofEdges, List.foldlM_append, foldlM_addInstruction rfl]
  rfl

/-- What a body made from labels and edges holds. -/
theorem holds_of_ofEdges {ls : List String} {l : List (Int × Int)} (hl : ofEdges ls l = .ok b) :
    ∃ edges, l = edges.map request ∧ b.Holds edges ∧ b.labels = ls ∧ b.size = ls.length := by
  obtain ⟨hholds, hlabels, hsize, -⟩ := foldl_append_spec holds_empty ls
  rw [ofEdges_eq] at hl
  obtain ⟨edges, rfl, h, hl', hs'⟩ := holds_of_foldlM_addEdge hholds hl
  refine ⟨edges, rfl, by simpa using h, ?_, ?_⟩
  · rw [hl', hlabels]
    simp [labels, empty]
  · rw [hs', hsize]
    simp [size, empty]

/-- Edges between instructions, each given once, make a body. -/
theorem exists_ofEdges {ls : List String} {edges : List (Nat × Nat)} (hnd : edges.Nodup)
    (hlt : ∀ e ∈ edges, e.1 < ls.length ∧ e.2 < ls.length) : ∃ b, ofEdges ls (edges.map request) = .ok b := by
  obtain ⟨hholds, -, hsize, hf⟩ := foldl_append_spec holds_empty ls
  rw [ofEdges_eq]
  refine exists_foldlM_addEdge hholds hf (by simpa using hnd) fun e he => ?_
  rw [hsize]
  simpa [size, empty] using hlt e he

end ControlDependence.Body
