-- SUMMARY: Each outlet of a logger gets what it would get if it were the only one, also while the other one fails.
import Mathlib.Data.List.Forall2
import ControlDependence.Log.Logger

/-!
# Outlets do not interfere

A logger with one outlet hands its records over directly, a logger with two goes through a
handler that keeps both. What a delivery holds is said once, in `Logger.deliver_eq`: the
destinations that accept the level, each with the record, in order, some written and some
not. Seen from one outlet it is therefore the delivery of a logger that has only the
destinations there. Children keep this relation between loggers, so it holds of every
sequence of calls.
-/
namespace ControlDependence.Log

/-! ## Calls on a family of loggers -/

/-- A call on one of the loggers made so far, given by its number. -/
inductive Call where
  | child (parent : Nat) (args : List Value)
  | enter (parent : Nat) (name : String)
  | write (logger : Nat) (level : Level) (message : String) (args : List Value)

/-- What calls may do with what they are made on. -/
structure Interface (α : Type) where
  adding : α → List Attribute → α
  enter : α → String → α
  deliver : α → (Outlet → Bool) → Record → Delivery

namespace Interface

variable {α β : Type}

/-- The family after a call: a child or group comes after all others. -/
def extend (i : Interface α) (family : List α) : Call → List α
  | .child p args => family ++ (family[p]?.map fun x => i.adding x (attributesOf args)).toList
  | .enter p name => family ++ (family[p]?.map fun x => i.enter x name).toList
  | .write .. => family

/-- What a call delivers. -/
def answer (i : Interface α) (works : Outlet → Bool) (family : List α) : Call → Delivery
  | .write k level message args =>
    (family[k]?.map fun x => i.deliver x works ⟨level, message, attributesOf args⟩).getD {}
  | _ => {}

/-- What each of some calls delivers. Which outlets work may change from call to call. -/
def play (i : Interface α) (works : Nat → Outlet → Bool) (family : List α) : List Call → List Delivery
  | [] => []
  | c :: calls => i.answer (works 0) family c :: i.play (fun n => works (n + 1)) (i.extend family c) calls

end Interface

def Logger.interface : Interface Logger where
  adding := .adding
  enter := .enter
  deliver := Logger.deliver

/-- A destination by itself, if there is one, takes what it accepts. -/
def Destination.interface : Interface (Option Destination) where
  adding d attrs := d.map (·.adding attrs)
  enter d name := d.map (·.enter name)
  deliver d works r :=
    match d with
    | none => {}
    | some d => if d.accepts r.level then d.handle works r {} else {}

/-- The part of a delivery that belongs to an outlet. -/
def Delivery.view (d : Delivery) (o : Outlet) : Delivery where
  written := d.written.filter (·.isAt o)
  failed := d.failed.filter (·.isAt o)

/-- Outlets that can be written to during some of the calls. -/
def working (console file : Nat → Bool) (n : Nat) : Outlet → Bool
  | .console => console n
  | .file => file n

namespace Interface

variable {α β : Type} {i : Interface α} {j : Interface β} {R : α → β → Prop} {o : Outlet}

/-- `R` relates what delivers to something that delivers only what is seen at an outlet. -/
structure Simulates (i : Interface α) (j : Interface β) (o : Outlet) (R : α → β → Prop) : Prop where
  adding : ∀ x y attrs, R x y → R (i.adding x attrs) (j.adding y attrs)
  enter : ∀ x y name, R x y → R (i.enter x name) (j.enter y name)
  deliver : ∀ x y works works' r, R x y → works o = works' o →
    (i.deliver x works r).view o = j.deliver y works' r

theorem getElem?_of_forall₂ {xs : List α} {ys : List β} (h : List.Forall₂ R xs ys) (p : Nat) :
    (xs[p]? = none ∧ ys[p]? = none) ∨ ∃ x y, xs[p]? = some x ∧ ys[p]? = some y ∧ R x y := by
  induction h generalizing p with
  | nil => exact .inl ⟨rfl, rfl⟩
  | cons hxy _ ih =>
    cases p with
    | zero => exact .inr ⟨_, _, rfl, rfl, hxy⟩
    | succ p => exact ih p

namespace Simulates

variable {xs : List α} {ys : List β}

theorem extend (h : Simulates i j o R) (hR : List.Forall₂ R xs ys) (c : Call) :
    List.Forall₂ R (i.extend xs c) (j.extend ys c) := by
  cases c with
  | child p args =>
    refine List.rel_append hR ?_
    obtain ⟨hx, hy⟩ | ⟨x, y, hx, hy, hxy⟩ := getElem?_of_forall₂ hR p
    · simp [hx, hy]
    · simp [hx, hy, h.adding x y _ hxy]
  | enter p name =>
    refine List.rel_append hR ?_
    obtain ⟨hx, hy⟩ | ⟨x, y, hx, hy, hxy⟩ := getElem?_of_forall₂ hR p
    · simp [hx, hy]
    · simp [hx, hy, h.enter x y _ hxy]
  | write => exact hR

theorem answer (h : Simulates i j o R) (hR : List.Forall₂ R xs ys) {works works' : Outlet → Bool}
    (hw : works o = works' o) (c : Call) : (i.answer works xs c).view o = j.answer works' ys c := by
  cases c with
  | child | enter => rfl
  | write k level message args =>
    obtain ⟨hx, hy⟩ | ⟨x, y, hx, hy, hxy⟩ := getElem?_of_forall₂ hR k
    · simp [Interface.answer, hx, hy, Delivery.view]
    · simp [Interface.answer, hx, hy, h.deliver x y works works' _ hxy hw]

/-- The outlet sees of all calls what the other side delivers. -/
theorem play (h : Simulates i j o R) (hR : List.Forall₂ R xs ys) {works works' : Nat → Outlet → Bool}
    (hw : ∀ n, works n o = works' n o) (calls : List Call) :
    (i.play works xs calls).map (·.view o) = j.play works' ys calls := by
  induction calls generalizing xs ys works works' with
  | nil => rfl
  | cons c calls ih =>
    rw [Interface.play, Interface.play, List.map_cons, h.answer hR (hw 0),
      ih (h.extend hR c) fun n => hw (n + 1)]

end Simulates

end Interface

/-! ## Deliveries -/

namespace Handler

theorem destinations_of (threshold : Level) (ds : List Destination) : (of threshold ds).destinations = ds := by
  match ds with
  | [] | [_] | _ :: _ :: _ => rfl

theorem destinations_adding (h : Handler) (attrs : List Attribute) :
    (h.adding attrs).destinations = h.destinations.map (·.adding attrs) := by
  cases h <;> rfl

theorem destinations_enter (h : Handler) (group : String) :
    (h.enter group).destinations = h.destinations.map (·.enter group) := by
  cases h <;> rfl

end Handler

namespace Delivery

variable {ds : List Destination} {works works' : Outlet → Bool} {r : Record} {o : Outlet}

/-- What becomes of a record at destinations of which each gets it if it accepts the level. -/
def among (ds : List Destination) (works : Outlet → Bool) (r : Record) : Delivery where
  written := (ds.filter fun d => d.accepts r.level && works d.outlet).map fun d => ⟨d, r⟩
  failed := (ds.filter fun d => d.accepts r.level && !works d.outlet).map fun d => ⟨d, r⟩

theorem view_among : (among ds works r).view o = among (ds.filter fun d => d.outlet = o) works r := by
  unfold view among
  simp only [List.filter_map, List.filter_filter, Delivery.mk.injEq]
  constructor
  · congr 2
    funext d
    exact Bool.and_comm ..
  · congr 2
    funext d
    exact Bool.and_comm ..

/-- Only the outlets of the destinations matter. -/
theorem among_congr (h : ∀ d ∈ ds, works d.outlet = works' d.outlet) : among ds works r = among ds works' r := by
  unfold among
  congr 2
  · exact List.filter_congr fun d hd => by rw [h d hd]
  · exact List.filter_congr fun d hd => by rw [h d hd]

theorem foldl_handle (ds : List Destination) (before : Delivery) :
    ds.foldl (fun before d => if d.accepts r.level then d.handle works r before else before) before =
      { written := before.written ++ (among ds works r).written
        failed := before.failed ++ (among ds works r).failed } := by
  induction ds generalizing before with
  | nil => simp [among]
  | cons d ds ih =>
    rw [List.foldl_cons, ih]
    by_cases ha : d.accepts r.level
    · by_cases hw : works d.outlet <;> simp [among, Destination.handle, ha, hw]
    · simp [among, ha]

theorem among_eq_empty (h : ∀ d ∈ ds, d.accepts r.level = false) : among ds works r = {} := by
  simp +contextual [among, h]

end Delivery

theorem Destination.deliver_eq (d : Option Destination) (works : Outlet → Bool) (r : Record) :
    Destination.interface.deliver d works r = .among d.toList works r := by
  cases d with
  | none => rfl
  | some d => exact @Delivery.foldl_handle works r [d] {}

/-- The destinations that accept a record get it, in order, whether or not others can be
written to. -/
theorem Logger.deliver_eq (l : Logger) (works : Outlet → Bool) (r : Record) :
    l.deliver works r = .among l.handler.destinations works r := by
  unfold Logger.deliver Logger.isEnabled
  cases l.handler with
  | discard => exact ite_self _
  | single d => exact Destination.deliver_eq (some d) works r
  | several ds =>
    by_cases ha : (Handler.several ds).accepts r.level
    · rw [if_pos ha]
      exact Delivery.foldl_handle ds {}
    · rw [if_neg ha]
      exact (Delivery.among_eq_empty (by simpa [Handler.accepts, Handler.destinations] using ha)).symm

/-! ## Outlets -/

/-- The destinations of a logger at an outlet. -/
def Logger.destinationsAt (l : Logger) (o : Outlet) : List Destination :=
  l.handler.destinations.filter fun d => d.outlet = o

namespace Logger

variable {l l' : Logger} {o : Outlet}

theorem destinationsAt_adding (l : Logger) (o : Outlet) (attrs : List Attribute) :
    (l.adding attrs).destinationsAt o = (l.destinationsAt o).map (·.adding attrs) := by
  rw [destinationsAt, adding, Handler.destinations_adding, List.filter_map]
  rfl

theorem destinationsAt_enter (l : Logger) (o : Outlet) (name : String) :
    (l.enter name).destinationsAt o = (l.destinationsAt o).map (·.enter name) := by
  rw [destinationsAt, enter, Handler.destinations_enter, List.filter_map]
  rfl

/-- An outlet sees what its own destinations do, whatever happens at the other one. -/
theorem view_deliver (l : Logger) {works works' : Outlet → Bool} (hw : works o = works' o) (r : Record) :
    (l.deliver works r).view o = .among (l.destinationsAt o) works' r := by
  rw [deliver_eq, Delivery.view_among]
  apply Delivery.among_congr
  intro d hd
  have ho : d.outlet = o := by simpa using (List.mem_filter.1 hd).2
  rw [ho, hw]

theorem simulates_logger (o : Outlet) :
    Logger.interface.Simulates Logger.interface o fun l l' => l'.handler.destinations = l.destinationsAt o where
  adding l l' attrs h := by
    change (l'.handler.adding attrs).destinations = (l.adding attrs).destinationsAt o
    rw [Handler.destinations_adding, destinationsAt_adding, h]
  enter l l' name h := by
    change (l'.handler.enter name).destinations = (l.enter name).destinationsAt o
    rw [Handler.destinations_enter, destinationsAt_enter, h]
  deliver l l' works works' r h hw := by
    change (l.deliver works r).view o = l'.deliver works' r
    rw [view_deliver l hw, deliver_eq, h]

theorem simulates_destination (o : Outlet) :
    Logger.interface.Simulates Destination.interface o fun l d => d.toList = l.destinationsAt o where
  adding l d attrs h := by
    change (d.map (·.adding attrs)).toList = (l.adding attrs).destinationsAt o
    rw [destinationsAt_adding, ← h, Option.toList_map]
  enter l d name h := by
    change (d.map (·.enter name)).toList = (l.enter name).destinationsAt o
    rw [destinationsAt_enter, ← h, Option.toList_map]
  deliver l d works works' r h hw := by
    change (l.deliver works r).view o = Destination.interface.deliver d works' r
    rw [view_deliver l hw, Destination.deliver_eq, h]

end Logger

/-- The destination that settings have at an outlet, if any. -/
def Settings.destination? (s : Settings) (opens : Bool) (o : Outlet) : Option Destination :=
  let wanted : Option Destination :=
    match o with
    | .console => if s.quiet then none else some (Logger.console s)
    | .file => if !s.logDir.isEmpty && opens then some (Logger.file s) else none
  wanted.map (·.adding (Logger.serviceAttrs s))

namespace Logger

theorem destinations_create (s : Settings) (opens : Bool) :
    (create s opens).handler.destinations =
      (s.destination? opens .console).toList ++ (s.destination? opens .file).toList := by
  rw [create, Handler.destinations_adding, Handler.destinations_of, List.map_append]
  congr 1
  · cases hq : s.quiet <;> simp [Settings.destination?, hq]
  · cases hf : !s.logDir.isEmpty && opens <;> simp [Settings.destination?, hf]

theorem outlet_of_destination? {s : Settings} {opens : Bool} {o : Outlet} {d : Destination}
    (h : s.destination? opens o = some d) : d.outlet = o := by
  obtain ⟨wanted, hwanted, rfl⟩ := Option.map_eq_some_iff.1 h
  cases o with
  | console =>
    cases hq : s.quiet <;> simp [hq] at hwanted
    rw [← hwanted]
    rfl
  | file =>
    cases hf : !s.logDir.isEmpty && opens <;> simp [hf] at hwanted
    rw [← hwanted]
    rfl

theorem destinationsAt_create (s : Settings) (opens : Bool) (o : Outlet) :
    (create s opens).destinationsAt o = (s.destination? opens o).toList := by
  have hown : ∀ o', ((s.destination? opens o').toList.filter fun d => d.outlet = o) =
      if o' = o then (s.destination? opens o').toList else [] := by
    intro o'
    cases hd : s.destination? opens o' with
    | none => simp
    | some d => simp [List.filter_singleton, outlet_of_destination? hd]
  rw [destinationsAt, destinations_create, List.filter_append, hown, hown]
  cases o <;> simp

/-- Seen from the console, a logger that also has a file does what it would do without one; seen
from the file, what it would do if it were quiet. This holds of every sequence of calls on it and
its children, whichever writes fail at the other outlet. Each outlet gets all that its destination
accepts. -/
theorem outlets_do_not_interfere (s : Settings) (opens : Bool) (console file other : Nat → Bool)
    (calls : List Call) :
    (Logger.interface.play (working console file) [create s opens] calls).map (·.view .console) =
        Logger.interface.play (working console other) [create { s with logDir := "" } opens] calls ∧
      (Logger.interface.play (working console file) [create s opens] calls).map (·.view .file) =
        Logger.interface.play (working other file) [create { s with quiet := true } opens] calls ∧
      ∀ o, (Logger.interface.play (working console file) [create s opens] calls).map (·.view o) =
        Destination.interface.play (working console file) [s.destination? opens o] calls := by
  refine ⟨?_, ?_, ?_⟩
  · apply (simulates_logger .console).play (.cons ?_ .nil)
    · exact fun _ => rfl
    · rw [destinationsAt_create, destinations_create]
      exact List.append_nil _
  · apply (simulates_logger .file).play (.cons ?_ .nil)
    · exact fun _ => rfl
    · rw [destinationsAt_create, destinations_create]
      rfl
  · intro o
    apply (simulates_destination o).play (.cons (destinationsAt_create s opens o).symm .nil)
    exact fun _ => rfl

end Logger

end ControlDependence.Log
