-- SUMMARY: The fault that the check reports is a violation of the contract, and the first one its scans can find.
import Mathlib.Data.List.Duplicate
import Mathlib.Data.Prod.Lex
import ControlDependence.Proofs.ContractDecision

/-!
# What the check reports

`Wiring.Violated` says what each violation means at an instruction and the index of a
neighbour, without regard to how it is found. The check looks for them in three scans, and
an instruction passes a scan if none of its violations is there. A scan that goes through
reads the lists as positions (`Wiring.Reads`), so it leaves no violation of its own behind;
one that fails stops at the first instruction that does not pass.
-/
namespace ControlDependence

/-- The role that a neighbour has to give back. -/
def Role.opposite : Role → Role
  | .successor => .predecessor
  | .predecessor => .successor

/-- The parts of the check. -/
inductive Scan where
  | successors
  | predecessors
  /-- What is left of the successor edges once the predecessor lists have been read. -/
  | leftovers
  deriving Repr, DecidableEq

/-- The scans are made in this order. -/
def Scan.place : Scan → Nat
  | .successors => 0
  | .predecessors => 1
  | .leftovers => 2

def Role.scan : Role → Scan
  | .successor => .successors
  | .predecessor => .predecessors

theorem Role.scan_injective : Function.Injective Role.scan := by
  intro r r' h
  cases r <;> cases r' <;> first | rfl | cases h

/-- The scan that looks for a violation. -/
def Violation.scan : Violation → Scan
  | .missingInstruction | .misplacedIndex => .successors
  | .absentNeighbour role | .danglingNeighbour role | .foreignNeighbour role
  | .duplicateNeighbour role => role.scan
  | .unreciprocated .successor => .leftovers
  | .unreciprocated .predecessor => .predecessors

theorem Violation.scan_eq_leftovers_iff {v : Violation} : v.scan = .leftovers ↔ v = .unreciprocated .successor := by
  constructor
  · intro h
    cases v with
    | unreciprocated role =>
      cases role with
      | successor => rfl
      | predecessor => cases h
    | missingInstruction | misplacedIndex => cases h
    | absentNeighbour role | danglingNeighbour role | foreignNeighbour role | duplicateNeighbour role =>
      cases role <;> cases h
  · rintro rfl
    rfl

namespace Wiring

variable {w : Wiring} {f : Fault} {i j owner : Nat} {role : Role} {n : Node} {a : Neighbour}

/-- What a violation says of the instruction at `i` and a neighbour of index `j`. -/
def Violated (w : Wiring) (i : Nat) (j : Int) : Violation → Prop
  | .missingInstruction => i < w.size ∧ w.node? i = none ∧ j = -1
  | .misplacedIndex => ∃ n, w.node? i = some n ∧ n.index ≠ i ∧ j = -1
  | .absentNeighbour role => ∃ n, w.node? i = some n ∧ .absent ∈ n.neighbours role ∧ j = -1
  | .danglingNeighbour role => ∃ n, w.node? i = some n ∧
      ∃ a ∈ n.neighbours role, w.indexOf a = some j ∧ ¬ (0 ≤ j ∧ j < w.size)
  | .foreignNeighbour role => ∃ n, w.node? i = some n ∧
      ∃ a ∈ n.neighbours role, w.indexOf a = some j ∧ 0 ≤ j ∧ j < w.size ∧ w.isAt j.toNat a = false
  | .duplicateNeighbour role => ∃ n, w.node? i = some n ∧
      ∃ k : Nat, j = k ∧ List.Duplicate (.own k) (n.neighbours role)
  | .unreciprocated role => ∃ n, w.node? i = some n ∧ ∃ (k : Nat) (m : Node), j = k ∧ w.node? k = some m ∧
      w.Names (n.neighbours role) k ∧ ¬ w.Names (m.neighbours role.opposite) i

/-- A fault tells the truth. -/
def Admits (w : Wiring) (f : Fault) : Prop := w.Violated f.instruction f.neighbour f.violation

/-- The instruction has none of the violations that a scan looks for. -/
def Passes (w : Wiring) (s : Scan) (i : Nat) : Prop := ∀ v j, v.scan = s → ¬ w.Violated i j v

/-! ## One list -/

theorem resolve_eq_ok_iff : w.resolve owner role a = .ok j ↔ w.indexOf a = some (j : Int) ∧ w.isAt j a = true := by
  unfold resolve
  cases hidx : w.indexOf a with
  | none => simp
  | some k =>
    constructor
    · intro h
      dsimp only at h
      split at h
      · cases h
      · rename_i hk
        split at h
        · rename_i hat
          cases h
          exact ⟨congrArg some (by omega), hat⟩
        · cases h
    · rintro ⟨hk, hat⟩
      cases hk
      obtain ⟨-, m, hm⟩ := isAt_iff.1 hat
      have hlt := lt_size_of_node? hm
      simp [hat, hlt]

theorem indexOf_eq_none_iff : w.indexOf a = none ↔ a = .absent := by
  cases a with
  | absent => simp [indexOf]
  | own p => cases h : w.node? p <;> simp [indexOf, h]
  | outside k => simp [indexOf]

/-- A neighbour that cannot be resolved is absent, dangling or foreign. -/
theorem admits_of_resolve (hn : w.node? owner = some n) (ha : a ∈ n.neighbours role)
    (h : w.resolve owner role a = .error f) :
    f.instruction = owner ∧ f.violation.scan = role.scan ∧ w.Admits f := by
  unfold resolve at h
  cases hidx : w.indexOf a with
  | none =>
    rw [hidx] at h
    cases h
    obtain rfl := indexOf_eq_none_iff.1 hidx
    exact ⟨rfl, rfl, n, hn, ha, rfl⟩
  | some k =>
    rw [hidx] at h
    dsimp only at h
    split at h
    · rename_i hk
      cases h
      have hrange : ¬ (0 ≤ k ∧ k < w.size) := by omega
      exact ⟨rfl, rfl, n, hn, a, ha, hidx, hrange⟩
    · rename_i hk
      split at h
      · cases h
      · rename_i hat
        cases h
        have hrange : 0 ≤ k ∧ k < w.size := by omega
        exact ⟨rfl, rfl, n, hn, a, ha, hidx, hrange.1, hrange.2, Bool.eq_false_iff.2 hat⟩

section List

variable {accept : Nat → Except Fault Unit} {seen out : List Nat} {as : List Neighbour}

/-- What becomes of the first neighbour of a list decides how resolving it goes on. -/
theorem resolveAll_cons (w : Wiring) (owner : Nat) (role : Role) (accept : Nat → Except Fault Unit)
    (seen : List Nat) (a : Neighbour) (as : List Neighbour) :
    (∃ g, w.resolve owner role a = .error g ∧ w.resolveAll owner role accept seen (a :: as) = .error g) ∨
    ∃ j, w.resolve owner role a = .ok j ∧
      ((j ∈ seen ∧ w.resolveAll owner role accept seen (a :: as) =
          .error ⟨owner, j, .duplicateNeighbour role⟩) ∨
        (∃ g, accept j = .error g ∧ w.resolveAll owner role accept seen (a :: as) = .error g) ∨
        w.resolveAll owner role accept seen (a :: as) = w.resolveAll owner role accept (j :: seen) as) := by
  simp only [resolveAll, bind, Except.bind]
  cases w.resolve owner role a with
  | error g => exact .inl ⟨g, rfl, rfl⟩
  | ok j =>
    refine .inr ⟨j, rfl, ?_⟩
    by_cases hmem : j ∈ seen
    · exact .inl ⟨hmem, if_pos hmem⟩
    · simp only [hmem, if_false]
      cases accept j with
      | error g => exact .inr (.inl ⟨g, rfl, rfl⟩)
      | ok u => exact .inr (.inr rfl)

/-- Where resolving a list stops: at a neighbour that cannot be resolved, at one that has been
seen, or at one that is not accepted. -/
theorem resolveAll_error (h : w.resolveAll owner role accept seen as = .error f) :
    ∃ (js : List Nat) (a : Neighbour) (rest : List Neighbour), as = js.map .own ++ a :: rest ∧
      (w.resolve owner role a = .error f ∨ ∃ j, w.resolve owner role a = .ok j ∧
        (f = ⟨owner, j, .duplicateNeighbour role⟩ ∧ (j ∈ seen ∨ j ∈ js) ∨ accept j = .error f)) := by
  induction as generalizing seen with
  | nil => cases h
  | cons a as ih =>
    rcases resolveAll_cons w owner role accept seen a as with
      ⟨g, ha, heq⟩ | ⟨j, hj, ⟨hmem, heq⟩ | ⟨g, hacc, heq⟩ | heq⟩
    · cases heq.symm.trans h
      exact ⟨[], a, as, rfl, .inl ha⟩
    · cases heq.symm.trans h
      exact ⟨[], a, as, rfl, .inr ⟨j, hj, .inl ⟨rfl, .inl hmem⟩⟩⟩
    · cases heq.symm.trans h
      exact ⟨[], a, as, rfl, .inr ⟨j, hj, .inr hacc⟩⟩
    · obtain ⟨rfl, -⟩ := resolve_ok hj
      obtain ⟨js, b, rest, rfl, hstop⟩ := ih (heq.symm.trans h)
      refine ⟨j :: js, b, rest, rfl, hstop.imp_right ?_⟩
      rintro ⟨k, hk, ⟨hf, hseen⟩ | hacc⟩
      · refine ⟨k, hk, .inl ⟨hf, ?_⟩⟩
        rw [List.mem_cons] at hseen ⊢
        tauto
      · exact ⟨k, hk, .inr hacc⟩

theorem isOwn_of_resolveAll (h : w.resolveAll owner role accept seen as = .ok out) (ha : a ∈ as) : w.IsOwn a := by
  induction as generalizing seen with
  | nil => cases ha
  | cons b as ih =>
    rcases resolveAll_cons w owner role accept seen b as with
      ⟨g, -, heq⟩ | ⟨j, hj, ⟨-, heq⟩ | ⟨g, -, heq⟩ | heq⟩
    · cases heq.symm.trans h
    · cases heq.symm.trans h
    · cases heq.symm.trans h
    · rcases List.mem_cons.1 ha with rfl | ha
      · exact ⟨j, resolve_eq_ok_iff.1 hj⟩
      · exact ih (heq.symm.trans h) ha

/-- A list that cannot be resolved has a violation of its role, unless a neighbour is not accepted. -/
theorem admits_of_resolveAll (role : Role) (hn : w.node? owner = some n)
    (h : w.resolveAll owner role accept [] (n.neighbours role) = .error f) :
    (f.instruction = owner ∧ f.violation.scan = role.scan ∧ w.Admits f) ∨
      ∃ j, w.Names (n.neighbours role) j ∧ accept j = .error f := by
  obtain ⟨js, a, rest, heq, hstop | ⟨j, hj, ⟨rfl, hmem⟩ | hacc⟩⟩ := resolveAll_error h
  · exact .inl (admits_of_resolve hn (by simp [heq]) hstop)
  · obtain ⟨rfl, -⟩ := resolve_ok hj
    refine .inl ⟨rfl, rfl, n, hn, j, rfl, ?_⟩
    have hjs : .own j ∈ js.map Neighbour.own := List.mem_map_of_mem (by simpa using hmem)
    rw [heq, List.duplicate_iff_two_le_count, List.count_append, List.count_cons_self]
    have hcount := List.count_pos_iff.2 hjs
    omega
  · exact .inr ⟨j, ⟨a, by simp [heq], (resolve_eq_ok_iff.1 hj).2⟩, hacc⟩

end List

/-! ## One instruction -/

/-- An instruction passes the scan of one of its lists if that names own instructions only, and none
twice, and if what else the scan looks at is in order. -/
theorem passes_of_isOwn (role : Role) (hn : w.node? i = some n) (hown : ∀ a ∈ n.neighbours role, w.IsOwn a)
    (hnd : (n.neighbours role).Nodup) (hidx : role = .successor → n.index = i)
    (hmutual : ∀ j, role = .predecessor → ¬ w.Violated i j (.unreciprocated .predecessor)) :
    w.Passes role.scan i := by
  intro v j hv hviolated
  cases v with
  | missingInstruction =>
    obtain ⟨-, hnone, -⟩ := hviolated
    cases hn.symm.trans hnone
  | misplacedIndex =>
    obtain ⟨n', hn', hne, -⟩ := hviolated
    cases hn.symm.trans hn'
    cases role with
    | successor => exact hne (hidx rfl)
    | predecessor => cases hv
  | absentNeighbour role' =>
    obtain rfl := Role.scan_injective hv
    obtain ⟨n', hn', ha, -⟩ := hviolated
    cases hn.symm.trans hn'
    obtain ⟨k, hk, -⟩ := hown _ ha
    cases hk
  | danglingNeighbour role' =>
    obtain rfl := Role.scan_injective hv
    obtain ⟨n', hn', a, ha, hj, hrange⟩ := hviolated
    cases hn.symm.trans hn'
    obtain ⟨k, hk, hat⟩ := hown a ha
    obtain ⟨-, m, hm⟩ := isAt_iff.1 hat
    have hlt := lt_size_of_node? hm
    cases hk.symm.trans hj
    omega
  | foreignNeighbour role' =>
    obtain rfl := Role.scan_injective hv
    obtain ⟨n', hn', a, ha, hj, -, -, hat⟩ := hviolated
    cases hn.symm.trans hn'
    obtain ⟨k, hk, hat'⟩ := hown a ha
    cases hk.symm.trans hj
    rw [Int.toNat_natCast, hat'] at hat
    cases hat
  | duplicateNeighbour role' =>
    obtain rfl := Role.scan_injective hv
    obtain ⟨n', hn', k, -, hdup⟩ := hviolated
    cases hn.symm.trans hn'
    exact List.nodup_iff_forall_not_duplicate.1 hnd _ hdup
  | unreciprocated role' =>
    cases role' with
    | successor => cases role <;> cases hv
    | predecessor =>
      cases role with
      | successor => cases hv
      | predecessor => exact hmutual j rfl hviolated

theorem passes_of_size_le (s : Scan) (h : w.size ≤ i) : w.Passes s i := by
  have hnone : ∀ n, w.node? i ≠ some n := by
    intro n hn
    have := lt_size_of_node? hn
    omega
  intro v j _ hv
  cases v with
  | missingInstruction => exact absurd hv.1 (by omega)
  | misplacedIndex | absentNeighbour | danglingNeighbour | foreignNeighbour | duplicateNeighbour
  | unreciprocated =>
    obtain ⟨n, hn, -⟩ := hv
    exact hnone n hn

/-! ### Successors -/

theorem admits_of_scanSuccs (hi : i < w.size) (h : w.scanSuccs i = .error f) :
    f.instruction = i ∧ f.violation.scan = .successors ∧ w.Admits f := by
  unfold scanSuccs at h
  split at h
  · rename_i hn
    cases h
    exact ⟨rfl, rfl, hi, hn, rfl⟩
  · rename_i n hn
    split at h
    · rename_i hidx
      cases h
      exact ⟨rfl, rfl, n, hn, hidx, rfl⟩
    · rcases admits_of_resolveAll .successor hn h with hf | ⟨j, -, hacc⟩
      · exact hf
      · cases hacc

theorem passes_of_scanSuccs {js : List Nat} (h : w.scanSuccs i = .ok js) : w.Passes .successors i := by
  obtain ⟨n, hn, hidx, hjs, hnd, -⟩ := scanSuccs_ok h
  refine passes_of_isOwn .successor hn ?_ ?_ (fun _ => hidx) (by simp)
  · intro a ha
    rw [scanSuccs, hn] at h
    simp only [hidx, ne_eq, not_true_eq_false, if_false] at h
    exact isOwn_of_resolveAll h ha
  · rw [Node.neighbours, hjs]
    exact hnd.map own_injective

/-! ### Predecessors -/

section Predecessors

variable {succs preds : Array (List Nat)} (hsuccs : ∀ k < w.size, w.scanSuccs k = .ok (succs.getD k []))

include hsuccs

/-- The successor lists that were found tell which instructions name which. -/
theorem names_succs_iff (hn : w.node? i = some n) {m : Node} (hm : w.node? j = some m) :
    w.Names n.succs j ↔ j ∈ succs.getD i [] := by
  obtain ⟨n', hn', -, hjs, -⟩ := scanSuccs_ok (hsuccs i (lt_size_of_node? hn))
  cases hn.symm.trans hn'
  rw [names_iff hm, hjs, List.mem_map_of_injective own_injective]

theorem admits_of_scanPreds (hi : i < w.size) (h : w.scanPreds succs i = .error f) :
    f.instruction = i ∧ f.violation.scan = .predecessors ∧ w.Admits f := by
  obtain ⟨n, hn, -⟩ := scanSuccs_ok (hsuccs i hi)
  rw [scanPreds, hn] at h
  rcases admits_of_resolveAll .predecessor hn h with hf | ⟨k, ⟨b, hb, hat⟩, hacc⟩
  · exact hf
  · split at hacc
    · cases hacc
    · rename_i hmem
      cases hacc
      obtain ⟨-, m, hm⟩ := isAt_iff.1 hat
      exact ⟨rfl, rfl, n, hn, k, m, rfl, hm, ⟨b, hb, hat⟩,
        fun hback => hmem ((names_succs_iff hsuccs hm hn).1 hback)⟩

theorem passes_of_scanPreds {js : List Nat} (h : w.scanPreds succs i = .ok js) : w.Passes .predecessors i := by
  obtain ⟨n, hn, hjs, hnd, hmutual⟩ := scanPreds_ok h
  refine passes_of_isOwn .predecessor hn ?_ ?_ (by simp) ?_
  · intro a ha
    rw [scanPreds, hn] at h
    exact isOwn_of_resolveAll h ha
  · rw [Node.neighbours, hjs]
    exact hnd.map own_injective
  · rintro _ - ⟨n', hn', k, m, -, hm, hk, hback⟩
    cases hn.symm.trans hn'
    rw [Node.neighbours, names_iff hm, hjs, List.mem_map_of_injective own_injective] at hk
    exact hback ((names_succs_iff hsuccs hm hn).2 (hmutual k hk).2)

/-! ### What is left -/

/-- A successor edge without its mirror image is one that no predecessor list mentions. -/
theorem violated_leftover_iff (hpreds : ∀ k < w.size, w.scanPreds succs k = .ok (preds.getD k [])) {j : Int} :
    w.Violated i j (.unreciprocated .successor) ↔
      i < w.size ∧ ∃ k : Nat, j = k ∧ k ∈ succs.getD i [] ∧ i ∉ preds.getD k [] := by
  have hback : ∀ k m, w.node? k = some m → ∀ n, w.node? i = some n →
      (w.Names m.preds i ↔ i ∈ preds.getD k []) := by
    intro k m hm n hn
    obtain ⟨m', hm', hjs, -⟩ := scanPreds_ok (hpreds k (lt_size_of_node? hm))
    cases hm.symm.trans hm'
    rw [names_iff hn, hjs, List.mem_map_of_injective own_injective]
  constructor
  · rintro ⟨n, hn, k, m, rfl, hm, hk, hno⟩
    exact ⟨lt_size_of_node? hn, k, rfl, (names_succs_iff hsuccs hn hm).1 hk,
      fun hmem => hno ((hback k m hm n hn).2 hmem)⟩
  · rintro ⟨hi, k, rfl, hk, hno⟩
    obtain ⟨n, hn, -, -, -, hlt⟩ := scanSuccs_ok (hsuccs i hi)
    obtain ⟨m, hm, -⟩ := scanSuccs_ok (hsuccs k (hlt k hk))
    exact ⟨n, hn, k, m, rfl, hm, (names_succs_iff hsuccs hn hm).2 hk,
      fun hname => hno ((hback k m hm n hn).1 hname)⟩

section Leftovers

variable (hpreds : ∀ k < w.size, w.scanPreds succs k = .ok (preds.getD k []))

include hpreds

theorem passes_of_unanswered? (h : unanswered? succs preds i = none) : w.Passes .leftovers i := by
  intro v j hv hviolated
  obtain rfl := Violation.scan_eq_leftovers_iff.1 hv
  obtain ⟨-, k, -, hk, hno⟩ := (violated_leftover_iff hsuccs hpreds).1 hviolated
  exact hno (unanswered?_eq_none_iff.1 h k hk)

/-- The first successor edge without its mirror image is the least one. -/
theorem leftover_le (hj : unanswered? succs preds i = some j) (hbefore : ∀ k < i, w.Passes .leftovers k) {i' : Nat}
    {j' : Int} (hviolated : w.Violated i' j' (.unreciprocated .successor)) :
    toLex (i, (j : Int)) ≤ toLex (i', j') := by
  rw [Prod.Lex.toLex_le_toLex]
  rcases Nat.lt_trichotomy i i' with hlt | rfl | hlt
  · exact .inl hlt
  · obtain ⟨-, k, rfl, hk, hno⟩ := (violated_leftover_iff hsuccs hpreds).1 hviolated
    exact .inr ⟨rfl, Int.ofNat_le.2 ((unanswered?_eq_some_iff.1 hj).2 k hk hno)⟩
  · exact absurd hviolated (hbefore i' hlt _ j' rfl)

end Leftovers

end Predecessors

/-! ## All instructions -/

theorem mapM_error {g : Nat → Except Fault (List Nat)} {l : List Nat} (h : l.mapM g = .error f) :
    ∃ before x after, l = before ++ x :: after ∧ g x = .error f ∧ ∀ y ∈ before, ∃ z, g y = .ok z := by
  induction l with
  | nil => cases h
  | cons y l ih =>
    simp only [List.mapM_cons, bind, Except.bind, pure, Except.pure] at h
    cases hy : g y with
    | error e =>
      rw [hy] at h
      cases h
      exact ⟨[], y, l, rfl, hy, by simp⟩
    | ok z =>
      cases hl : l.mapM g with
      | ok zs =>
        rw [hy, hl] at h
        cases h
      | error e =>
        rw [hy, hl] at h
        cases h
        obtain ⟨before, x, after, rfl, hx, hbefore⟩ := ih hl
        exact ⟨y :: before, x, after, rfl, hx, List.forall_mem_cons.2 ⟨⟨z, hy⟩, hbefore⟩⟩

/-- Scanning every position stops at the first that fails. -/
theorem mapM_range_error {size : Nat} {g : Nat → Except Fault (List Nat)}
    (h : (Array.range size).mapM g = .error f) :
    ∃ i < size, g i = .error f ∧ ∀ k < i, ∃ z, g k = .ok z := by
  rw [Array.mapM_eq_mapM_toList, Array.toList_range] at h
  cases hl : (List.range size).mapM g with
  | ok out =>
    rw [hl] at h
    cases h
  | error e =>
    rw [hl] at h
    cases h
    obtain ⟨before, x, after, heq, hx, hbefore⟩ := mapM_error hl
    obtain ⟨hlt, hmem⟩ := of_range_eq_append heq
    exact ⟨x, hlt, hx, fun k hk => hbefore k (hmem k hk)⟩

/-- A scan that tells the truth about each instruction reports the first one that does not
pass it. -/
theorem first_of_mapM_error {s : Scan} {g : Nat → Except Fault (List Nat)}
    (herror : ∀ i < w.size, g i = .error f → f.instruction = i ∧ f.violation.scan = s ∧ w.Admits f)
    (hok : ∀ i js, g i = .ok js → w.Passes s i) (h : (Array.range w.size).mapM g = .error f) :
    w.Admits f ∧ f.violation.scan = s ∧ ∀ i < f.instruction, w.Passes s i := by
  obtain ⟨i, hi, hf, hbefore⟩ := mapM_range_error h
  obtain ⟨rfl, hscan, hadmits⟩ := herror i hi hf
  refine ⟨hadmits, hscan, ?_⟩
  intro k hk
  obtain ⟨js, hjs⟩ := hbefore k hk
  exact hok k js hjs

/-- The ways in which the check can fail. -/
theorem checkIn_error {order : Traversal} (h : w.checkIn order = .error f) :
    (Array.range w.size).mapM w.scanSuccs = .error f ∨
    ∃ succs : Array (List Nat), (∀ k < w.size, w.scanSuccs k = .ok (succs.getD k [])) ∧
      ((Array.range w.size).mapM (w.scanPreds succs) = .error f ∨
        ∃ preds : Array (List Nat), (∀ k < w.size, w.scanPreds succs k = .ok (preds.getD k [])) ∧
          ∃ i < w.size, ∃ j, unanswered? succs preds i = some j ∧
            (∀ k < i, unanswered? succs preds k = none) ∧ f = ⟨i, j, .unreciprocated .successor⟩) := by
  rw [checkIn_eq_plainCheck] at h
  simp only [plainCheck, bind, Except.bind] at h
  cases hs : (Array.range w.size).mapM w.scanSuccs with
  | error g =>
    rw [hs] at h
    cases h
    exact .inl rfl
  | ok succs =>
    rw [hs] at h
    refine .inr ⟨succs, fun k hk => mapM_range_ok hs k hk, ?_⟩
    dsimp only at h
    cases hp : (Array.range w.size).mapM (w.scanPreds succs) with
    | error g =>
      rw [hp] at h
      cases h
      exact .inl rfl
    | ok preds =>
      rw [hp] at h
      refine .inr ⟨preds, fun k hk => mapM_range_ok hp k hk, ?_⟩
      dsimp only at h
      split at h
      · rename_i i j hleast
        cases h
        obtain ⟨before, x, after, heq, hx, hbefore⟩ := List.findSome?_eq_some_iff.1 hleast
        obtain ⟨j', hj', hpair⟩ := Option.map_eq_some_iff.1 hx
        cases hpair
        obtain ⟨hlt, hmem⟩ := of_range_eq_append heq
        exact ⟨_, hlt, _, hj', fun k hk => Option.map_eq_none_iff.1 (hbefore k (hmem k hk)), rfl⟩
      · cases h

theorem passes_of_forall_lt {s : Scan} (h : ∀ i < w.size, w.Passes s i) (i : Nat) : w.Passes s i := by
  rcases Nat.lt_or_ge i w.size with hi | hi
  · exact h i hi
  · exact passes_of_size_le s hi

/-- The fault that the check reports is a violation. All scans before the one that found it have
been passed by every instruction, and this one by every instruction before. If it is about
a successor edge without its mirror image, that is the least such edge, and there are no
violations of another kind. The order in which the edges that are left are gone through
makes no difference. -/
theorem checkIn_reports_first_violation {order : Traversal} (h : w.checkIn order = .error f) :
    w.Violated f.instruction f.neighbour f.violation ∧
    (∀ s : Scan, s.place < f.violation.scan.place → ∀ i, w.Passes s i) ∧
    (∀ i < f.instruction, w.Passes f.violation.scan i) ∧
    (f.violation = .unreciprocated .successor → ∀ i j v, w.Violated i j v →
      v = .unreciprocated .successor ∧ toLex (f.instruction, f.neighbour) ≤ toLex (i, j)) ∧
    ∀ order' : Traversal, w.checkIn order' = .error f := by
  have horder : ∀ order' : Traversal, w.checkIn order' = .error f := by
    intro order'
    rw [checkIn_eq_plainCheck, ← checkIn_eq_plainCheck order, h]
  rcases checkIn_error h with hs | ⟨succs, hsuccs, hcheck⟩
  · obtain ⟨hadmits, hscan, hbefore⟩ :=
      first_of_mapM_error (fun i hi => admits_of_scanSuccs hi) (fun i js => passes_of_scanSuccs) hs
    refine ⟨hadmits, ?_, hscan ▸ hbefore, ?_, horder⟩
    · intro s hlt
      rw [hscan] at hlt
      cases hlt
    · intro hv
      rw [hv] at hscan
      cases hscan
  have hfirst : ∀ i, w.Passes .successors i := passes_of_forall_lt fun i hi => passes_of_scanSuccs (hsuccs i hi)
  rcases hcheck with hp | ⟨preds, hpreds, i, hi, j, hj, hbefore, rfl⟩
  · obtain ⟨hadmits, hscan, hbefore⟩ :=
      first_of_mapM_error (fun i hi => admits_of_scanPreds hsuccs hi) (fun i js => passes_of_scanPreds hsuccs) hp
    refine ⟨hadmits, ?_, hscan ▸ hbefore, ?_, horder⟩
    · intro s hlt
      rw [hscan] at hlt
      cases s with
      | successors => exact hfirst
      | predecessors | leftovers => simp [Scan.place] at hlt
    · intro hv
      rw [hv] at hscan
      cases hscan
  have hsecond : ∀ i, w.Passes .predecessors i :=
    passes_of_forall_lt fun i hi => passes_of_scanPreds hsuccs (hpreds i hi)
  have hbefore : ∀ k < i, w.Passes .leftovers k :=
    fun k hk => passes_of_unanswered? hsuccs hpreds (hbefore k hk)
  obtain ⟨⟨hmem, hno⟩, -⟩ := unanswered?_eq_some_iff.1 hj
  refine ⟨(violated_leftover_iff hsuccs hpreds).2 ⟨hi, j, rfl, hmem, hno⟩, ?_, hbefore, ?_, horder⟩
  · intro s hlt
    cases s with
    | successors => exact hfirst
    | predecessors => exact hsecond
    | leftovers => exact absurd hlt (Nat.lt_irrefl _)
  · intro _ i' j' v hviolated
    -- A violation of another kind would have been found by an earlier scan.
    have hv : v.scan = .leftovers := by
      cases hscan : v.scan with
      | successors => exact absurd hviolated (hfirst i' v j' hscan)
      | predecessors => exact absurd hviolated (hsecond i' v j' hscan)
      | leftovers => rfl
    obtain rfl := Violation.scan_eq_leftovers_iff.1 hv
    exact ⟨rfl, leftover_le hsuccs hpreds hj hbefore hviolated⟩

/-- Of three edges only the one that is listed first has a mirror image. -/
def halfMirrored : Wiring :=
  ⟨#[some ⟨0, [.own 2, .own 1], []⟩, some ⟨1, [.own 2], []⟩, some ⟨2, [], [.own 0]⟩]⟩

/-- The last edge comes first. -/
def descending : Traversal := ⟨fun s => s.toList.reverse, fun s => s.toList.reverse_perm⟩

/-- The two edges that are left are told apart by their sources, even if the greater is met first. -/
theorem reports_first_halfMirrored :
    halfMirrored.checkIn descending = .error ⟨0, 1, .unreciprocated .successor⟩ ∧
      halfMirrored.checkIn .ascending = .error ⟨0, 1, .unreciprocated .successor⟩ ∧
      halfMirrored.Violated 0 1 (.unreciprocated .successor) ∧
      halfMirrored.Violated 1 2 (.unreciprocated .successor) ∧
      (∀ i, halfMirrored.Passes .successors i ∧ halfMirrored.Passes .predecessors i) ∧
      ∀ i j v, halfMirrored.Violated i j v →
        v = .unreciprocated .successor ∧ toLex ((0 : Nat), (1 : Int)) ≤ toLex (i, j) := by
  have hcheck : halfMirrored.checkIn descending = .error ⟨0, 1, .unreciprocated .successor⟩ := by decide +kernel
  have hother : halfMirrored.Violated 1 2 (.unreciprocated .successor) :=
    ⟨⟨1, [.own 2], []⟩, rfl, 2, ⟨2, [], [.own 0]⟩, rfl, rfl, ⟨.own 2, by simp [Node.neighbours], rfl⟩,
      by simp [Names, Node.neighbours, Role.opposite, isAt]⟩
  obtain ⟨hviolated, hscans, -, hleast, horder⟩ := checkIn_reports_first_violation hcheck
  exact ⟨hcheck, horder .ascending, hviolated, hother,
    fun i => ⟨hscans .successors (by decide) i, hscans .predecessors (by decide) i⟩, hleast rfl⟩

end Wiring

end ControlDependence
