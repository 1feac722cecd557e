-- SUMMARY: Whatever edits are asked of a new body, it stays within the contract and its lists tell which edges were added.
import Mathlib.Algebra.BigOperators.Group.Finset.Piecewise
import ControlDependence.Proofs.Construction

/-!
# Editing a body

Edits are asked of a body one after the other, and each finds the body that the one before
it left behind, taken or refused. What the body is like afterwards follows from the edits
that it took: `Body.Holds` relates the two, each edit keeps the relation, and so does any
number of edits.
-/
namespace ControlDependence.Body

variable {b b' : Body} {edges : List (Nat × Nat)} {e : Edit} {es : List Edit}

/-- The edits that a body takes when asked for them in order; the others it refuses. -/
def accepted (b : Body) : List Edit → List Edit
  | [] => []
  | e :: es =>
    match (apply e).run b with
    | .ok _ b' => e :: b'.accepted es
    | .error _ b' => b'.accepted es

/-- The edge that an edit asks for. -/
def Edit.edge? : Edit → Option (Int × Int)
  | .addEdge source target => some (source, target)
  | _ => none

/-! ## One edit -/

theorem Takes.after (h : b.Takes e b') : b.after e = b' := by
  rw [Body.after, h.run_apply]

theorem after_of_refused {f : BodyError} (h : (apply e).run b = .error f b') : b.after e = b' := by
  rw [after, h]

/-- A refused edit leaves the body as it was. -/
theorem eq_of_refused {f : BodyError} (h : (apply e).run b = .error f b') : b' = b := by
  rcases takes_or_refuses b e with ⟨b'', htakes⟩ | ⟨g, hrefused⟩
  · cases htakes.run_apply.symm.trans h
  · cases hrefused.symm.trans h
    rfl

/-- An edit that is taken extends the edges by the one it asks for, if it asks for one. -/
theorem Holds.takes (h : b.Holds edges) (he : b.Takes e b') :
    ∃ new, b'.Holds (edges ++ new) ∧ new.map request = e.edge?.toList := by
  cases he with
  | addInstruction hf => exact ⟨[], by simpa using h.append _, rfl⟩
  | addEdge hf hu hv hnew => exact ⟨[(_, _)], h.link hu hv (mt (h.mem_edges _).2 hnew), rfl⟩
  | freeze => exact ⟨[], by simpa using h.freeze, rfl⟩

theorem run_add_of_frozen (hf : b.frozen = true) :
    (∀ label, (addInstruction label).run b = .error .frozen b) ∧
      ∀ source target, (addEdge source target).run b = .error .frozen b := by
  simp [run_addInstruction, run_addEdge, hf]

/-- A frozen body stays frozen. -/
theorem frozen_after (hf : b.frozen = true ∨ e = .freeze) : (b.after e).frozen = true := by
  rcases takes_or_refuses b e with ⟨b', htakes⟩ | ⟨f, hrefused⟩
  · rw [htakes.after]
    cases htakes with
    | addInstruction hf' => simp [hf'] at hf
    | addEdge hf' => simp [hf'] at hf
    | freeze => rfl
  · rw [after_of_refused hrefused]
    rcases hf with hf | rfl
    · exact hf
    · cases Takes.freeze.run_apply.symm.trans hrefused

/-! ## Any number of edits -/

theorem Holds.afterAll (h : b.Holds edges) (es : List Edit) :
    ∃ new, (b.afterAll es).Holds (edges ++ new) ∧
      new.map request = (b.accepted es).filterMap Edit.edge? := by
  induction es generalizing b edges with
  | nil =>
    rw [← List.append_nil edges] at h
    exact ⟨[], h, rfl⟩
  | cons e es ih =>
    rw [Body.afterAll, List.foldl_cons, accepted]
    rcases takes_or_refuses b e with ⟨b', htakes⟩ | ⟨f, hrefused⟩
    · rw [htakes.after, htakes.run_apply]
      obtain ⟨new, h', hnew⟩ := h.takes htakes
      obtain ⟨rest, hall, hrest⟩ := ih h'
      rw [List.append_assoc] at hall
      refine ⟨new ++ rest, hall, ?_⟩
      rw [List.map_append, hnew, hrest]
      cases hedge : e.edge? <;> simp [hedge]
    · rw [after_of_refused hrefused, hrefused]
      exact ih h

theorem frozen_afterAll (hf : b.frozen = true ∨ .freeze ∈ es) : (b.afterAll es).frozen = true := by
  induction es generalizing b with
  | nil => simpa [afterAll] using hf
  | cons e es ih =>
    rw [List.mem_cons] at hf
    apply ih
    rcases hf with hf | rfl | hmem
    · exact .inl (frozen_after (.inl hf))
    · exact .inl (frozen_after (.inr rfl))
    · exact .inr hmem

/-! ## What the lists tell -/

/-- Edges are counted by any of their ends. -/
theorem sum_length_filter {n : Nat} (key : Nat × Nat → Nat) (h : ∀ e ∈ edges, key e < n) :
    ∑ u ∈ Finset.range n, (edges.filter (key · = u)).length = edges.length := by
  induction edges with
  | nil => simp
  | cons e edges ih =>
    have hcount : ∀ u, ((e :: edges).filter (key · = u)).length =
        (if key e = u then 1 else 0) + (edges.filter (key · = u)).length := by
      intro u
      by_cases hu : key e = u
      · simp [hu, Nat.add_comm]
      · simp [hu]
    have he : key e ∈ Finset.range n := Finset.mem_range.2 (h e (by simp))
    simp only [hcount, Finset.sum_add_distrib, Finset.sum_ite_eq, if_pos he]
    rw [ih fun e' he' => h e' (by simp [he']), List.length_cons, Nat.add_comm]

theorem Holds.edgeCount_eq_sum (h : b.Holds edges) :
    b.edgeCount = ∑ u ∈ Finset.range b.size, (b.flow.succs u).length ∧
      b.edgeCount = ∑ v ∈ Finset.range b.size, (b.flow.preds v).length := by
  constructor
  · simp only [h.succs_eq, List.length_map]
    rw [h.edgeCount_eq, sum_length_filter Prod.fst fun e he => (h.lt_size e he).1]
  · simp only [h.preds_eq, List.length_map]
    rw [h.edgeCount_eq, sum_length_filter Prod.snd fun e he => (h.lt_size e he).2]

theorem Holds.cast_succs (h : b.Holds edges) (u : Nat) :
    (b.flow.succs u).map Nat.cast = ((edges.map request).filter (·.1 = (u : Int))).map (·.2) := by
  rw [h.succs_eq, List.filter_map, List.map_map, List.map_map]
  simp only [request, Function.comp_def, Int.natCast_inj]

theorem Holds.cast_preds (h : b.Holds edges) (v : Nat) :
    (b.flow.preds v).map Nat.cast = ((edges.map request).filter (·.2 = (v : Int))).map (·.1) := by
  rw [h.preds_eq, List.filter_map, List.map_map, List.map_map]
  simp only [request, Function.comp_def, Int.natCast_inj]

theorem Holds.cast_edges (h : b.Holds edges) (u v : Nat) :
    (u, v) ∈ b.edges ↔ ((u : Int), (v : Int)) ∈ edges.map request := by
  rw [h.mem_edges, List.mem_map]
  constructor
  · intro he
    exact ⟨(u, v), he, rfl⟩
  · rintro ⟨⟨u', v'⟩, he, heq⟩
    simp only [request, Prod.mk.injEq, Int.natCast_inj] at heq
    obtain ⟨rfl, rfl⟩ := heq
    exact he

/-- What edits leave of a new body. -/
def edited (capacity : Int) (es : List Edit) : Body := (withCapacity capacity).afterAll es

/-- The edges that edits of a new body add, in order. -/
def added (capacity : Int) (es : List Edit) : List (Int × Int) :=
  ((withCapacity capacity).accepted es).filterMap Edit.edge?

theorem exists_holds_edited (capacity : Int) (es : List Edit) :
    ∃ edges, (edited capacity es).Holds edges ∧ edges.map request = added capacity es := by
  have hempty : (withCapacity capacity).Holds [] := holds_empty
  exact hempty.afterAll es

/-- Whatever edits a new body is asked for, it passes the check, its set and its lists have the
edges that were added, the lists in order, and its count is their number. A refused edit
leaves the body as it was, and after a freeze every addition is refused. -/
theorem edited_honours_contract (capacity : Int) (es : List Edit) :
    (∀ order : Traversal, (edited capacity es).wiring.checkIn order = .ok ()) ∧
      (∀ u : Nat, ((edited capacity es).flow.succs u).map Nat.cast =
        ((added capacity es).filter (·.1 = (u : Int))).map (·.2)) ∧
      (∀ v : Nat, ((edited capacity es).flow.preds v).map Nat.cast =
        ((added capacity es).filter (·.2 = (v : Int))).map (·.1)) ∧
      (∀ u v : Nat, (u, v) ∈ (edited capacity es).edges ↔ ((u : Int), (v : Int)) ∈ added capacity es) ∧
      ((edited capacity es).edgeCount =
          ∑ u ∈ Finset.range (edited capacity es).size, ((edited capacity es).flow.succs u).length ∧
        (edited capacity es).edgeCount =
          ∑ v ∈ Finset.range (edited capacity es).size, ((edited capacity es).flow.preds v).length) ∧
      (∀ e f b', (apply e).run (edited capacity es) = .error f b' → b' = edited capacity es) ∧
      (.freeze ∈ es →
        (∀ label, (addInstruction label).run (edited capacity es) = .error .frozen (edited capacity es)) ∧
          ∀ source target,
            (addEdge source target).run (edited capacity es) = .error .frozen (edited capacity es)) := by
  obtain ⟨edges, h, hedges⟩ := exists_holds_edited capacity es
  refine ⟨h.checkIn, ?_, ?_, ?_, h.edgeCount_eq_sum, ?_, ?_⟩
  · intro u
    rw [← hedges, h.cast_succs]
  · intro v
    rw [← hedges, h.cast_preds]
  · intro u v
    rw [← hedges, h.cast_edges]
  · intro e f b' he
    exact eq_of_refused he
  · intro hmem
    exact run_add_of_frozen (frozen_afterAll (.inr hmem))

/-- Edits of which a repeated edge, an edge to nowhere and an edge after the freeze are refused. -/
def selfLoopEdits : List Edit :=
  [.addInstruction "a", .addInstruction "b", .addEdge 0 1, .addEdge 1 1, .addEdge 0 1, .addEdge 0 7,
    .addEdge (-1) 0, .freeze, .addEdge 1 0]

theorem edited_selfLoopEdits :
    added (-3) selfLoopEdits = [(0, 1), (1, 1)] ∧ .freeze ∈ selfLoopEdits ∧
      (edited (-3) selfLoopEdits).wiring.checkIn .ascending = .ok () ∧
      (edited (-3) selfLoopEdits).flow.preds 1 = [0, 1] ∧
      (1, 1) ∈ (edited (-3) selfLoopEdits).edges ∧
      (apply (.addEdge 0 1)).run (edited (-3) (selfLoopEdits.take 4)) =
        .error (.duplicateEdge 0 1) (edited (-3) (selfLoopEdits.take 4)) ∧
      (apply (.addEdge 1 0)).run (edited (-3) selfLoopEdits) = .error .frozen (edited (-3) selfLoopEdits) := by
  have hadded : added (-3) selfLoopEdits = [(0, 1), (1, 1)] := by decide +kernel
  have hmem : .freeze ∈ selfLoopEdits := by simp [selfLoopEdits]
  obtain ⟨hcheck, -, hpreds, hedges, -, -, hfrozen⟩ := edited_honours_contract (-3) selfLoopEdits
  refine ⟨hadded, hmem, hcheck .ascending, ?_, ?_, rfl, (hfrozen hmem).2 1 0⟩
  · have hcast := hpreds 1
    rw [hadded] at hcast
    exact List.map_injective_iff.2 (fun _ _ h => Int.natCast_inj.1 h) hcast
  · rw [hedges 1 1, hadded]
    decide

end ControlDependence.Body
