-- SUMMARY: A document shows the whole relation of each analysis, and leaves out only chains that the controllers give.
import ControlDependence.Proofs.BreadthFirst
import ControlDependence.Proofs.Isolation
import ControlDependence.Report.Document

/-!
# What a document shows

A document has a line for each instruction with controllers, and a chain in it only where
that is longer than the list of controllers. Comparing lengths is enough: the chain begins
with the controllers and repeats nothing, so one of the same length is the list of
controllers itself, and a longer one goes on to a branch that is none of them.
-/
namespace ControlDependence

/-! ## Chains that add nothing -/

/-- A chain is longer than the list of direct controllers if and only if it holds another branch. -/
theorem Analysis.Indexed.length_lt_iff {a : Analysis} (h : a.Indexed) (i : Int) {d : Int} (hd : 1 ≤ d) :
    (a.controllersOf i).length < (a.chain i d).length ↔ ∃ x ∈ a.chain i d, x ∉ a.controllersOf i := by
  constructor
  · intro hlt
    by_contra hall
    push Not at hall
    have hle := ((a.nodup_chain i d).subperm hall).length_le
    omega
  · rintro ⟨x, hx, hn⟩
    apply Nat.lt_of_not_le
    intro hle
    rw [(h.controllersOf_prefix hd).eq_of_length_le hle] at hn
    exact hn hx

namespace Batch

/-- Whatever analysis the report holds is the result of one. -/
def Report.Genuine (r : Report) : Prop :=
  ∀ e ∈ r.entries, ∀ a, e.result = .ok (some a) → ∃ opts cut body, (Outcome.of opts cut body).result = .ok a

theorem Verdict.Allowed.outcome_of_ok {opts : Options} {stopped : Option Interruption} {code : Option Code}
    {v : Verdict} {a : Analysis} (h : v.Allowed opts stopped code) (name : String) (ha : v.result name = .ok a) :
    (Outcome.of opts none code).result = .ok a := by
  rcases h.result name with heq | ⟨c, -, heq | heq⟩
  · rw [heq] at ha
    cases hof : (Outcome.of opts none code).result with
    | error f =>
      rw [hof] at ha
      cases ha
    | ok b =>
      rw [hof] at ha
      cases ha
      rfl
  · rw [heq] at ha
    cases ha
  · rw [heq] at ha
    cases ha

/-- At no moment of a run does its report hold anything else. -/
theorem Run.Lawful.genuine {settings : Settings} {methods : List Method} {r : Run} (h : Lawful settings methods r)
    (runId traceId : String) (milliseconds : Int) : (r.report runId traceId milliseconds).Genuine := by
  intro e he a ha
  obtain ⟨⟨m, s⟩, hj, he⟩ := List.mem_filterMap.1 he
  obtain ⟨v, hv, rfl⟩ := Option.map_eq_some_iff.1 he
  obtain ⟨i, hat⟩ := List.getElem?_of_mem hj
  rw [Array.getElem?_toList] at hat
  have hsound := h.sound i m s hat
  have hallowed : v.Allowed settings.options r.stopped m.code := by
    cases s with
    | handedIn v' first =>
      cases hv
      exact hsound
    | settled v' =>
      cases hv
      exact hsound
    | pending | queued | assigned | solving | crashed | decided => cases hv
  refine ⟨settings.options, none, m.code, hallowed.outcome_of_ok m.name ?_⟩
  unfold Verdict.entry at ha
  cases hresult : v.result m.name with
  | error f =>
    rw [hresult] at ha
    cases ha
  | ok b =>
    rw [hresult] at ha
    cases ha
    rfl

end Batch

namespace Report

variable {a : Analysis} {depth : Int}

/-! ## Lines -/

/-- The chain of a line: the one given, or else the controllers. -/
def Line.fullChain (l : Line) : List Int := if l.chain = [] then l.controlledBy.getD [] else l.chain

/-- A line tells the controllers of its instruction in an analysis. It tells the chain to a
positive depth too, and gives one if and only if that goes beyond the controllers. -/
structure Line.Shows (a : Analysis) (depth : Int) (l : Line) : Prop where
  controlledBy_eq : l.controlledBy = some (a.controllersOf l.instruction)
  chain_iff : 0 < depth → (l.chain ≠ [] ↔
    ∃ (x : Int) (k : Nat), 1 ≤ k ∧ k ≤ depth ∧ a.Steps l.instruction k x ∧ x ∉ a.controllersOf l.instruction)
  chain_extends : 0 < depth → l.chain ≠ [] →
    a.controllersOf l.instruction <+: l.chain ∧ a.controllersOf l.instruction ≠ l.chain
  fullChain_eq : 0 < depth → l.fullChain = a.chain l.instruction depth

namespace Line

theorem chain_of (a : Analysis) (source : Option Source) (hd : 0 < depth) (i : Int) (cs : List Int) :
    (Line.of a source depth i cs).chain = if cs.length < (a.chain i depth).length then a.chain i depth else [] := by
  simp [Line.of, hd]

theorem chain_of_ne_nil_iff (source : Option Source) (hd : 0 < depth) (i : Int) (cs : List Int) :
    (Line.of a source depth i cs).chain ≠ [] ↔ cs.length < (a.chain i depth).length := by
  rw [chain_of a source hd]
  constructor
  · intro hne
    by_contra hn
    exact hne (if_neg hn)
  · intro hlt
    rw [if_pos hlt]
    exact List.ne_nil_of_length_pos (Nat.zero_lt_of_lt hlt)

theorem shows_of (h : a.Indexed) (source : Option Source) (depth i : Int) :
    (Line.of a source depth i (a.controllersOf i)).Shows a depth where
  controlledBy_eq := rfl
  chain_iff hd := by
    rw [chain_of_ne_nil_iff source hd, h.length_lt_iff i hd]
    simp only [a.mem_chain_iff, ← exists_and_right, and_assoc]
    rfl
  chain_extends hd hne := by
    have hlt := (chain_of_ne_nil_iff source hd i _).1 hne
    rw [chain_of a source hd, if_pos hlt]
    refine ⟨h.controllersOf_prefix hd, ?_⟩
    intro heq
    exact Nat.ne_of_lt hlt (congrArg List.length heq)
  fullChain_eq hd := by
    unfold fullChain
    rw [chain_of a source hd]
    by_cases hlt : (a.controllersOf i).length < (a.chain i depth).length
    · rw [if_pos hlt, if_neg (List.ne_nil_of_length_pos (Nat.zero_lt_of_lt hlt))]
      rfl
    · -- As long as its beginning, the chain is nothing but that.
      rw [if_neg hlt, if_pos rfl]
      exact (h.controllersOf_prefix hd).eq_of_length_le (Nat.le_of_not_lt hlt)

end Line

/-! ## Sections -/

/-- The lines on an analysis: one for each instruction that has controllers, ascending. They
are the same in whatever order these instructions are collected before they are sorted. -/
structure Section.Covers (a : Analysis) (depth : Int) (ls : List Line) : Prop where
  ascending : (ls.map (·.instruction)).Pairwise (· < ·)
  orderless : ∀ is, is.Perm a.relation.controllers.keys → ls.map (·.instruction) = sortAscending is
  mem_iff : ∀ i, i ∈ ls.map (·.instruction) ↔ a.controllersOf i ≠ []
  shows : ∀ l ∈ ls, l.Shows a depth

/-- The section on an entry has its name, and tells the whole of the analysis in it. -/
structure Section.Shows (depth : Int) (e : Batch.Entry) (s : Section) : Prop where
  name_eq : s.name = e.name
  covers : ∀ a, e.result = .ok (some a) → Section.Covers a depth s.lines

namespace Section

theorem covers_toList (h : a.Indexed) (source : Option Source) (depth : Int) :
    Covers a depth (a.relation.toList.map fun (i, bs) => .of a source depth i bs) := by
  have hmap : (a.relation.toList.map fun (i, bs) => Line.of a source depth i bs).map (·.instruction) =
      a.relation.toList.map (·.1) := by
    simp [Line.of, Function.comp_def]
  constructor
  · rw [hmap]
    exact List.pairwise_map.2 a.relation.pairwise_toList
  · intro is his
    rw [hmap, a.relation.sortAscending_keys his]
  · intro i
    rw [hmap, List.mem_map]
    constructor
    · rintro ⟨⟨i', l⟩, hl, rfl⟩
      obtain ⟨hne, rfl⟩ := (Relation.mem_toList_iff h.tidy).1 hl
      exact hne
    · intro hne
      exact ⟨(i, a.controllersOf i), (Relation.mem_toList_iff h.tidy).2 ⟨hne, rfl⟩, rfl⟩
  · intro l hl
    obtain ⟨⟨i, bs⟩, he, rfl⟩ := List.mem_map.1 hl
    obtain ⟨-, rfl⟩ := (Relation.mem_toList_iff h.tidy).1 he
    exact Line.shows_of h source depth i

theorem shows_ofEntry (sources : Sources) (depth : Int) {e : Batch.Entry}
    (h : ∀ a, e.result = .ok (some a) → a.Indexed) : (ofEntry sources depth e).Shows depth e := by
  unfold ofEntry
  constructor
  · split <;> rfl
  · intro a ha
    rw [ha]
    exact covers_toList (h a ha) (sources e.name) depth

end Section

/-- The entries of a possible report. -/
def entriesOf (report : Option Batch.Report) : List Batch.Entry := (report.map (·.entries)).getD []

/-- The document on a report, whatever the sources and the depth, has one section for each
entry, in the same order. Where the entry holds an analysis, the section lists the
instructions that have controllers, ascending, each with these. To a positive depth it
gives a chain if and only if some other branch is reached so far; then the controllers
begin the chain and do not end it, and in any case the whole chain can be read off the
line. -/
theorem Document.of_shows_whole_relation (report : Option Batch.Report) (h : ∀ r ∈ report, r.Genuine)
    (sources : Sources) (depth : Int) :
    ∃ ss, (Document.of sources depth report).sections = some ss ∧
      List.Forall₂ (fun e s => Section.Shows depth e s) (entriesOf report) ss := by
  cases report with
  | none => exact ⟨[], rfl, .nil⟩
  | some r =>
    refine ⟨r.entries.map (Section.ofEntry sources depth), rfl, ?_⟩
    rw [List.forall₂_map_right_iff, entriesOf, Option.map_some, Option.getD_some]
    apply List.forall₂_same.2
    intro e he
    apply Section.shows_ofEntry
    intro a ha
    obtain ⟨opts, cut, body, hresult⟩ := h r rfl e he a ha
    exact Outcome.indexed_of_result hresult

open Batch.Run in
theorem Document.of_shows_threeMethods :
    ∃ r, (start ⟨2, false, {}⟩ threeMethods none).steps? interleaved = some r ∧ (r.report "" "" 0).Genuine ∧
      ∃ ss, (Document.of (fun _ => none) 2 (some (r.report "" "" 0))).sections = some ss ∧
        ss.map (fun s => s.lines.map (·.chain)) = [[[], [], [], [0, 1], []], [], []] ∧
        List.Forall₂ (fun e s => Section.Shows 2 e s) (entriesOf (some (r.report "" "" 0))) ss := by
  have hchains : ((start ⟨2, false, {}⟩ threeMethods none).steps? interleaved).map (fun r =>
      (Document.of (fun _ => none) 2 (some (r.report "" "" 0))).sections.map
        (·.map fun s => s.lines.map (·.chain))) = some (some [[[], [], [], [0, 1], []], [], []]) := by
    decide +kernel
  obtain ⟨r, hr, hchains⟩ := Option.map_eq_some_iff.1 hchains
  have hgenuine := (lawful_of_steps? (by simp [Undisturbed, interleaved]) hr).genuine "" "" 0
  have hreport : ∀ r' ∈ some (r.report "" "" 0), r'.Genuine := by
    rintro r' ⟨⟩
    exact hgenuine
  obtain ⟨ss, hss, hshows⟩ := Document.of_shows_whole_relation _ hreport (fun _ => none) 2
  rw [hss] at hchains
  exact ⟨r, hr, hgenuine, ss, hss, Option.some.inj hchains, hshows⟩

end Report

end ControlDependence
