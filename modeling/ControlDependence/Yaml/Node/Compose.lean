-- SUMMARY: Building the first document of a YAML text from its tokens.
import ControlDependence.Yaml.Node
import ControlDependence.Yaml.Plain
import ControlDependence.Yaml.Token.Scan

/-!
# Composing nodes

Only the first document of a text is composed; what comes after it is not looked at
beyond the two tokens that are always read ahead.
-/
namespace ControlDependence.Yaml

/-- A document being composed. -/
structure Composer where
  tokens : Tokens
  /-- The next token. -/
  position : Nat := 0
  /-- What tag handles stand for. -/
  handles : List (String × String) := [("!", "!"), ("!!", "tag:yaml.org,2002:")]
  /-- The anchored nodes; one that is not complete yet is missing. -/
  anchors : Array (Option Node) := #[]
  /-- The anchors by name, the latest first. -/
  names : List (String × Nat) := []
  /-- How many aliases there were. -/
  aliases : Nat := 0

/-- A step of composing, which ends where the text is malformed. -/
abbrev Compose := StateT Composer Option

namespace Compose

def malformed {α : Type} : Compose α := fun _ => none

/-- The next token, provided that the text goes on well for two more. -/
def peek : Compose Token := do
  let c ← get
  let t := c.tokens
  if t.cut && (t.tokens.size ≤ c.position + 2 || t.pendingKeys.contains c.position) then malformed
  else
    match t.tokens[c.position]? with
    | some token => pure token
    | none => malformed

def skip : Compose Unit := modify fun c => { c with position := c.position + 1 }

/-- The kind of the next token. -/
def kind : Compose TokenKind := do return (← peek).kind

/-- Moves past a token and looks at the one after it. -/
def advance : Compose Token := do
  skip
  peek

end Compose

open Compose

/-! ## Tags -/

def standardTags : String := "tag:yaml.org,2002:"

/-- The short form of a tag. -/
def shortTag (tag : String) : String :=
  if tag.startsWith standardTags then "!!" ++ (tag.drop standardTags.length).toString else tag

/-- Anchor and tag of a node. -/
structure Properties where
  anchor : Option String := none
  tag : String := ""

/-- The full tag that a handle and a suffix stand for. -/
def fullTag (handle suffix : String) : Compose String := do
  if handle.isEmpty then return suffix
  else
    match (← get).handles.lookup handle with
    | some lead => if (lead ++ suffix).isEmpty then malformed else return lead ++ suffix
    | none => malformed

/-- Reads an anchor and a tag in either order. -/
def properties : Compose Properties := do
  match ← kind with
  | .anchor a =>
    skip
    match ← kind with
    | .tag h s =>
      skip
      return { anchor := some a, tag := ← fullTag h s }
    | _ => return { anchor := some a }
  | .tag h s =>
    skip
    match ← kind with
    | .anchor a =>
      skip
      return { anchor := some a, tag := ← fullTag h s }
    | _ => return { tag := ← fullTag h s }
  | _ => return {}

/-- The tag of a node: its own unless it has none, or else a default. -/
def tagOr (tag default : String) : String :=
  if tag.isEmpty || tag = "!" then default else shortTag tag

/-- The tag of a merge key. -/
def mergeTag : String := "!!merge"

def scalarNode (line : Nat) (tag text : String) (plain : Bool) : Node :=
  let default :=
    if !plain then "!!str" else if text = "<<" then mergeTag else (Plain.ofText text).tag
  .scalar line (tagOr tag default) text

/-- A value that was left out. -/
def emptyNode (line : Nat) : Node := scalarNode line "" "" true

/-! ## Anchors -/

/-- Sets aside a place for an anchored node. -/
def reserve (p : Properties) : Compose (Option Nat) := do
  match p.anchor with
  | none => return none
  | some name =>
    let c ← get
    let slot := c.anchors.size
    set { c with anchors := c.anchors.push none, names := (name, slot) :: c.names }
    return some slot

/-- Puts a node in its place. -/
def keep (slot : Option Nat) (n : Node) : Compose Node := do
  match slot with
  | none => return n
  | some i =>
    modify fun c => { c with anchors := c.anchors.setIfInBounds i (some n) }
    return n

def aliasNode (line : Nat) (name : String) : Compose Node := do
  let c ← get
  match c.names.lookup name with
  | none => malformed
  | some slot =>
    set { c with aliases := c.aliases + 1 }
    return .alias line name slot c.aliases

/-! ## Nodes -/

mutual

/-- A node. Only in a block may it be a block, and only as a map's key or value a list that is
not indented. -/
def node (block unindented : Bool) : Nat → Compose Node
  | 0 => malformed
  | fuel + 1 => do
    let first ← peek
    match first.kind with
    | .alias name =>
      skip
      aliasNode first.line name
    | _ =>
      let p ← properties
      let slot ← reserve p
      let t ← peek
      match t.kind, block, unindented with
      | .blockEntry, _, true => keep slot (.list first.line (tagOr p.tag "!!seq") (← unindentedItems fuel))
      | .scalar text plain, _, _ =>
        skip
        keep slot (scalarNode first.line p.tag text plain)
      | .flowListStart, _, _ =>
        skip
        keep slot (.list first.line (tagOr p.tag "!!seq") (← flowItems true fuel))
      | .flowMapStart, _, _ =>
        skip
        keep slot (.map first.line (tagOr p.tag "!!map") (← flowEntries true fuel))
      | .blockListStart, true, _ =>
        skip
        keep slot (.list first.line (tagOr p.tag "!!seq") (← blockItems fuel))
      | .blockMapStart, true, _ =>
        skip
        keep slot (.map first.line (tagOr p.tag "!!map") (← blockEntries fuel))
      | _, _, _ =>
        if p.anchor.isSome || !p.tag.isEmpty then keep slot (scalarNode first.line p.tag "" true)
        else malformed

def blockItems : Nat → Compose (List Node)
  | 0 => malformed
  | fuel + 1 => do
    let t ← peek
    match t.kind with
    | .blockEntry =>
      let next ← advance
      let item ←
        match next.kind with
        | .blockEntry => pure (emptyNode t.line)
        | .blockEnd => pure (emptyNode t.line)
        | _ => node true false fuel
      return item :: (← blockItems fuel)
    | .blockEnd =>
      skip
      return []
    | _ => malformed

def unindentedItems : Nat → Compose (List Node)
  | 0 => malformed
  | fuel + 1 => do
    let t ← peek
    match t.kind with
    | .blockEntry =>
      let next ← advance
      let item ←
        match next.kind with
        | .blockEntry => pure (emptyNode t.line)
        | .key => pure (emptyNode t.line)
        | .value => pure (emptyNode t.line)
        | .blockEnd => pure (emptyNode t.line)
        | _ => node true false fuel
      return item :: (← unindentedItems fuel)
    | _ => return []

/-- A key or value in a block, after its mark. -/
def blockPart (line : Nat) : Nat → Compose Node
  | 0 => malformed
  | fuel + 1 => do
    match ← kind with
    | .key => return emptyNode line
    | .value => return emptyNode line
    | .blockEnd => return emptyNode line
    | _ => node true true fuel

def blockEntries : Nat → Compose (List (Node × Node))
  | 0 => malformed
  | fuel + 1 => do
    let t ← peek
    match t.kind with
    | .key =>
      skip
      let k ← blockPart t.line fuel
      let t ← peek
      let v ←
        match t.kind with
        | .value => do
          skip
          blockPart t.line fuel
        | _ => pure (emptyNode t.line)
      return (k, v) :: (← blockEntries fuel)
    | .blockEnd =>
      skip
      return []
    | _ => malformed

/-- The items of a bracketed list; `first` until one has been read. -/
def flowItems (first : Bool) : Nat → Compose (List Node)
  | 0 => malformed
  | fuel + 1 => do
    let t ← peek
    match t.kind with
    | .flowListEnd =>
      skip
      return []
    | k =>
      if !first && k ≠ .flowEntry then malformed
      else
        let t ← if first then pure t else advance
        match t.kind with
        | .flowListEnd =>
          skip
          return []
        | .key =>
          skip
          let entry ← flowPair fuel
          return .map t.line "!!map" [entry] :: (← flowItems false fuel)
        | _ =>
          let item ← node false false fuel
          return item :: (← flowItems false fuel)

/-- The one entry of a map that is an item of a bracketed list, after the mark of its key. -/
def flowPair : Nat → Compose (Node × Node)
  | 0 => malformed
  | fuel + 1 => do
    let t ← peek
    let k ←
      match t.kind with
      | .value => do
        skip
        pure (emptyNode t.line)
      | .flowEntry => do
        skip
        pure (emptyNode t.line)
      | .flowListEnd => do
        skip
        pure (emptyNode t.line)
      | _ => node false false fuel
    let t ← peek
    match t.kind with
    | .value =>
      let t ← advance
      match t.kind with
      | .flowEntry => return (k, emptyNode t.line)
      | .flowListEnd => return (k, emptyNode t.line)
      | _ => return (k, ← node false false fuel)
    | _ => return (k, emptyNode t.line)

/-- The entries of a bracketed map; `first` until one has been read. -/
def flowEntries (first : Bool) : Nat → Compose (List (Node × Node))
  | 0 => malformed
  | fuel + 1 => do
    let t ← peek
    match t.kind with
    | .flowMapEnd =>
      skip
      return []
    | k =>
      if !first && k ≠ .flowEntry then malformed
      else
        let t ← if first then pure t else advance
        match t.kind with
        | .flowMapEnd =>
          skip
          return []
        | .key =>
          let t ← advance
          let k ←
            match t.kind with
            | .value => pure (emptyNode t.line)
            | .flowEntry => pure (emptyNode t.line)
            | .flowMapEnd => pure (emptyNode t.line)
            | _ => node false false fuel
          let v ← flowValue fuel
          return (k, v) :: (← flowEntries false fuel)
        | _ =>
          let k ← node false false fuel
          let t ← peek
          return (k, emptyNode t.line) :: (← flowEntries false fuel)

/-- The value of an entry in a bracketed map. -/
def flowValue : Nat → Compose Node
  | 0 => malformed
  | fuel + 1 => do
    let t ← peek
    match t.kind with
    | .value =>
      let t ← advance
      match t.kind with
      | .flowEntry => return emptyNode t.line
      | .flowMapEnd => return emptyNode t.line
      | _ => node false false fuel
    | _ => return emptyNode t.line

end

/-! ## Documents -/

/-- Reads directives. There may be one version, and each handle may be given once. -/
def directives (versioned : Bool) (given : List String) : Nat → Compose Unit
  | 0 => malformed
  | fuel + 1 => do
    match ← kind with
    | .versionDirective major minor =>
      if versioned || major ≠ 1 || minor ≠ 1 then malformed
      else
        skip
        directives true given fuel
    | .tagDirective handle lead =>
      if given.contains handle then malformed
      else
        skip
        modify fun c => { c with handles := (handle, lead) :: c.handles }
        directives versioned (handle :: given) fuel
    | _ => return ()

/-- The content of a document whose start is marked. -/
def markedContent (fuel : Nat) : Compose Node := do
  let t ← peek
  match t.kind with
  | .versionDirective .. => return emptyNode t.line
  | .tagDirective .. => return emptyNode t.line
  | .documentStart => return emptyNode t.line
  | .documentEnd => return emptyNode t.line
  | .streamEnd => return emptyNode t.line
  | _ => node true false fuel

def firstDocument (fuel : Nat) : Compose (Option Node) := do
  let start : Compose (Option Node) := do
    directives false [] fuel
    match ← kind with
    | .documentStart =>
      skip
      let n ← markedContent fuel
      discard peek
      return some n
    | _ => malformed
  match ← kind with
  | .streamEnd => return none
  | .versionDirective .. => start
  | .tagDirective .. => start
  | .documentStart => start
  | _ =>
    let n ← node true false fuel
    discard peek
    return some n

namespace Document

/-- The first document of a text, unless that is malformed. -/
def parse? (s : String) : Option Document := do
  let tokens := Tokens.ofText s
  let (root, c) ← (firstDocument (4 * tokens.tokens.size + 10)).run { tokens }
  return { root, anchors := c.anchors }

end Document

end ControlDependence.Yaml
