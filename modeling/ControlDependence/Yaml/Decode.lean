-- SUMMARY: Reading YAML nodes into typed records, with the faults that do not fit collected.
import ControlDependence.Text.Quoted
import ControlDependence.Yaml.Binary
import ControlDependence.Yaml.Node.Compose

/-!
# Decoding nodes

A node is read over a value that is already there: fields that the document leaves out,
or gives as null, keep theirs. What does not fit its field is noted as a fault and left
out, and reading goes on.
-/
namespace ControlDependence.Yaml

/-- Something in a document that does not fit. -/
inductive Fault where
  /-- A node that cannot be read as what is wanted. -/
  | mismatch (line : Nat) (tag : String) (text : Option String) (wanted : String)
  /-- A key that is in a map twice. -/
  | duplicate (line : Nat) (key : String) (firstLine : Nat)
  /-- A key that is new to its map but stands for a field that has been read. -/
  | repeated (line : Nat) (key : String) (record : String)
  deriving Repr, DecidableEq

namespace Fault

/-- The characters of a text that fit into some bytes. One that is cut in two leaves a
replacement character for each byte of it. -/
def cutAt : Nat → List Char → List Char
  | _, [] => []
  | room, c :: cs =>
    if c.utf8Size ≤ room then c :: cutAt (room - c.utf8Size) cs
    else List.replicate room (Char.ofNat 0xFFFD)

/-- What a message shows of a text: all of up to ten bytes, or the first seven. -/
def excerpt (s : String) : String :=
  if s.utf8ByteSize ≤ 10 then s else String.ofList (cutAt 7 s.toList) ++ "..."

def message : Fault → String
  | .mismatch line tag text wanted =>
    let shown :=
      match text with
      | some t => s!" `{excerpt t}`"
      | none => ""
    s!"line {line}: cannot unmarshal {tag}{shown} into {wanted}"
  | .duplicate line key firstLine =>
    s!"line {line}: mapping key {Text.quoted key} already defined at line {firstLine}"
  | .repeated line key record => s!"line {line}: field {key} already set in type {record}"

end Fault

/-- Reading a document: the faults so far, unless the document cannot be read at all. -/
abbrev Decode := StateT (List Fault) Option

namespace Decode

def broken {α : Type} : Decode α := fun _ => none

def fault (f : Fault) : Decode Unit := modify (· ++ [f])

end Decode

open Decode

/-- The tags that say how a plain scalar is to be read. -/
def resolvingTags : List String := ["!!bool", "!!int", "!!float", "!!null", "!!timestamp"]

/-- What a scalar denotes under its tag, and its text. A tag of a kind that the scalar is not of cannot
be read; one that is not known makes it a text. -/
def denotation (tag text : String) : Decode (Plain × String) := do
  if tag = "!!binary" then
    match binaryText? text with
    | some t => return (.text, t)
    | none => broken
  else if !resolvingTags.contains tag then return (.text, text)
  else
    let p := Plain.ofText text
    if p.tag = tag then return (p, text)
    else
      match tag, p with
      | "!!float", .int n => if n ≤ greatestInt then return (.float (Float.ofInt n), text) else broken
      | _, _ => broken

/-! ## Single values -/

/-- A kind of value that a scalar can be read as. -/
structure Target (α : Type) where
  name : String
  /-- The value of a scalar that is not null. -/
  accept : Plain → String → Option α

namespace Target

/-- The whole part of a number, at the lower end of the 64-bit range where it leaves that. -/
def truncate (x : Float) : Int :=
  if x < -9223372036854775808.0 || 9223372036854775808.0 ≤ x then -9223372036854775808
  else
    let n : Int := x.abs.floor.toUInt64.toNat
    if x < 0 then -n else n

def int : Target Int where
  name := "int"
  accept
    | .int n, _ => if n ≤ greatestInt then some n else none
    | .float x, _ => if x ≤ 9223372036854775808.0 then some (truncate x) else none
    | _, _ => none

def bool : Target Bool where
  name := "bool"
  accept
    | .bool b, _ => some b
    | .text, s => oldBool? s
    | _, _ => none

def text : Target String where
  name := "string"
  accept _ s := some s

end Target

/-- The text that a message shows of a node: a list or map has none unless it is tagged. -/
def shownText (n : Node) : Option String :=
  match n with
  | .scalar _ _ t => some t
  | .list _ tag _ => if tag = "!!seq" || tag = "!!map" then none else some ""
  | .map _ tag _ => if tag = "!!seq" || tag = "!!map" then none else some ""
  | .alias .. => none

def tagOf : Node → String
  | .scalar _ t _ => t
  | .list _ t _ => t
  | .map _ t _ => t
  | .alias .. => ""

def mismatch (n : Node) (wanted : String) : Decode Unit :=
  fault (.mismatch n.line (tagOf n) (shownText n) wanted)

/-- The keys of a map that are there already, each with the entry that repeats it. -/
def duplicates : List (Node × Node) → List Fault
  | [] => []
  | (k, _) :: rest =>
    (rest.filterMap fun (k', _) =>
      if k.sameForm k' && k.keyText = k'.keyText then
        some (Fault.duplicate k'.line k'.keyText k.line)
      else none)
    ++ duplicates rest

/-- Where a node is being read: the anchored nodes, and the aliases that led there. -/
structure Scope where
  anchors : Array (Option Node)
  followed : List Nat := []

/-- The node that an alias stands for, which must not contain the alias. -/
def resolve : Nat → Scope → Node → Decode (Node × Scope)
  | 0, _, _ => broken
  | fuel + 1, s, n =>
    match n with
    | .alias _ _ anchor number =>
      if s.followed.contains number then broken
      else
        match s.anchors.getD anchor none with
        | some target => resolve fuel { s with followed := number :: s.followed } target
        | none => broken
    | n => return (n, s)

/-- Reads a scalar. The answer is nothing if it is null or does not fit. -/
def readScalar {α : Type} (t : Target α) (fuel : Nat) (s : Scope) (n : Node) : Decode (Option α) := do
  let (n, _) ← resolve fuel s n
  match n with
  | .scalar _ tag text =>
    match ← denotation tag text with
    | (.null, _) => return none
    | (p, text) =>
      match t.accept p text with
      | some a => return some a
      | none =>
        mismatch n t.name
        return none
  | .map _ _ entries =>
    match duplicates entries with
    | [] => mismatch n t.name
    | fs => modify (· ++ fs)
    return none
  | _ =>
    mismatch n t.name
    return none

/-! ## Records -/

/-- How a record is read: its name, and for each key what to do with the node. -/
structure Shape (σ : Type) where
  name : String
  field? : String → Option (Nat → Scope → Node → σ → Decode σ)

/-- Whether a key says that its value is merged in. -/
def isMergeKey : Node → Bool
  | .scalar _ tag text => text = "<<" && tag = mergeTag
  | _ => false

/-- The maps that a merge brings in, in order. -/
def mergeSources (anchors : Array (Option Node)) (n : Node) : Option (List Node) :=
  let isMap := fun n =>
    match n with
    | .map .. => true
    | .alias _ _ anchor _ =>
      match anchors.getD anchor none with
      | some (.map ..) => true
      | _ => false
    | _ => false
  match n with
  | .list _ _ items => if items.all isMap then some items else none
  | n => if isMap n then some [n] else none

/-- Reads the entries of a map. `done` are the keys that were read before; `taken` are those that
earlier maps have decided, if this one is merged in. The answer has the keys that are decided
afterwards. -/
def readEntries {σ : Type} (shape : Shape σ) (fuel : Nat) (s : Scope) :
    List (Node × Node) → (done : List String) → (taken : Option (List String)) → σ →
      Decode (σ × Option (List String))
  | [], _, taken, a => return (a, taken)
  | (k, v) :: rest, done, taken, a => do
    if isMergeKey k then readEntries shape fuel s rest done taken a
    else
      match ← readScalar .text fuel s k with
      | none => readEntries shape fuel s rest done taken a
      | some key =>
        if taken.elim false (·.contains key) then readEntries shape fuel s rest done taken a
        else
          let a ←
            match shape.field? key with
            | some read =>
              if done.contains key then do
                fault (.repeated k.line key shape.name)
                pure a
              else read fuel s v a
            | none => pure a
          readEntries shape fuel s rest (key :: done) (taken.map (key :: ·)) a

/-- The keys that a map decides before anything is merged into it. -/
def ownKeys (anchors : Array (Option Node)) (entries : List (Node × Node)) : List String :=
  entries.map fun (k, _) =>
    match k with
    | .alias _ _ anchor _ => ((anchors.getD anchor none).map Node.keyText).getD ""
    | k => k.keyText

/-- Reads a map over a record. -/
def readRecord {σ : Type} (shape : Shape σ) :
    Nat → Scope → (taken : Option (List String)) → Node → σ → Decode (σ × Option (List String))
  | 0, _, _, _, _ => broken
  | fuel + 1, s, taken, n, a => do
    let (n, s) ← resolve fuel s n
    match n with
    | .map _ _ entries =>
      match duplicates entries with
      | [] =>
        let (a, taken) ← readEntries shape fuel s entries [] taken a
        match (entries.filter fun e => isMergeKey e.1).getLast? with
        | none => return (a, taken)
        | some (_, merged) =>
          match mergeSources s.anchors merged with
          | none => broken
          | some sources =>
            let (a, decided) ← sources.foldlM
              (fun (a, decided) source => readRecord shape fuel s decided source a)
              (a, some (taken.getD (ownKeys s.anchors entries)))
            return (a, taken.bind fun _ => decided)
      | fs =>
        modify (· ++ fs)
        return (a, taken)
    | .scalar _ tag text =>
      match ← denotation tag text with
      | (.null, _) => return (a, taken)
      | _ =>
        mismatch n shape.name
        return (a, taken)
    | _ =>
      mismatch n shape.name
      return (a, taken)

namespace Target

/-- The field of a record that holds a single value. -/
def into {α σ : Type} (t : Target α) (put : σ → α → σ) (fuel : Nat) (s : Scope) (n : Node) (a : σ) :
    Decode σ := do
  match ← readScalar t fuel s n with
  | some x => return put a x
  | none => return a

end Target

namespace Shape

/-- The field of a record that holds another. -/
def into {σ τ : Type} (shape : Shape τ) (get : σ → τ) (put : σ → τ → σ) (fuel : Nat) (s : Scope)
    (n : Node) (a : σ) : Decode σ := do
  let (x, _) ← readRecord shape fuel s none n (get a)
  return put a x

/-- How much recursion reading a document takes at most. -/
def depth (d : Document) (text : String) : Nat := (text.length + 2) * (d.anchors.size + 2)

end Shape

/-- What became of reading a text. -/
inductive Reading (σ : Type) where
  | malformed
  | faulty (faults : List Fault)
  | read (a : σ)

/-- Reads the first document of a text over a record. -/
def Shape.read {σ : Type} (shape : Shape σ) (text : String) (a : σ) : Reading σ :=
  match Document.parse? text with
  | none => .malformed
  | some d =>
    match d.root with
    | none => .read a
    | some root =>
      match (readRecord shape (Shape.depth d text) { anchors := d.anchors } none root a).run [] with
      | none => .malformed
      | some ((a, _), []) => .read a
      | some (_, faults) => .faulty faults

end ControlDependence.Yaml
