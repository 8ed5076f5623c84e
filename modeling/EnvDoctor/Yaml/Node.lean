import EnvDoctor.Yaml.Layout
import EnvDoctor.Yaml.Schema

/-!
# YAML nodes

The graph that the tokens of a document describe. Every node has a number and a kind, given by its
tag or, for a plain scalar, by its text. Collections name the nodes inside them by their numbers,
and an alias is the number of the node with its anchor, so that a collection may hold itself.
-/

namespace EnvDoctor.Yaml

inductive Node where
  | scalar (kind : Kind) (text : String)
  | sequence (kind : Kind) (items : List Nat)
  | mapping (kind : Kind) (entries : List (Nat × Nat))
  deriving DecidableEq, Repr

namespace Node

instance : Inhabited Node := ⟨scalar .null ""⟩

def empty : Node :=
  scalar .null ""

def kind : Node → Kind
  | scalar kind _ => kind
  | sequence kind _ => kind
  | mapping kind _ => kind

def withKind (kind : Kind) : Node → Node
  | scalar _ text => scalar kind text
  | sequence _ items => sequence kind items
  | mapping _ entries => mapping kind entries

end Node

/-- Where a node stands. Block collections stand only in blocks; after a key or a colon the entries
of a sequence need no indentation. -/
inductive Place where
  | flow
  | block
  | entry
  deriving DecidableEq, Repr

/-- What is being read: the tokens to come, the meaning of tag handles, the nodes so far, and the
numbers of those with anchors. A collection is an empty one until it has been read. -/
structure Reading where
  tokens : List Token
  handles : List (String × String)
  nodes : Array Node
  anchors : List (String × Nat)

abbrev Read := StateT Reading (Except Fault)

namespace Read

def malformed {α : Type} : Read α :=
  throw .malformed

/-- The next token. A fault in its place counts as soon as it is looked at. -/
def peek : Read (Option Token) := do
  match (← get).tokens.head? with
  | some (.fault f) => throw f
  | token => return token

def drop : Read Unit :=
  modify fun r => { r with tokens := r.tokens.tail }

def accept (token : Token) : Read Bool := do
  if (← peek) = some token then
    drop
    return true
  else return false

def comes (tokens : List Token) : Read Bool :=
  return (← peek).any tokens.contains

def add (node : Node) : Read Nat := do
  let number := (← get).nodes.size
  modify fun r => { r with nodes := r.nodes.push node }
  return number

def addAnchored (anchor : Option String) (node : Node) : Read Nat := do
  let number ← add node
  if let some name := anchor then
    if ((← get).anchors.lookup name).isSome then malformed
    modify fun r => { r with anchors := (name, number) :: r.anchors }
  return number

def replace (number : Nat) (node : Node) : Read Unit :=
  modify fun r => { r with nodes := r.nodes.setIfInBounds number node }

def find (name : String) : Read Nat := do
  match (← get).anchors.lookup name with
  | some number => return number
  | none => malformed

def fullTag : Option String → String → Read String
  | none, suffix => return suffix
  | some handle, suffix => do
    match (← get).handles.lookup handle with
    | some start => return start ++ suffix
    | none => malformed

def anchor? : Read (Option String) := do
  match ← peek with
  | some (.anchor name) => drop; return some name
  | _ => return none

/-- The next token if it is a tag, without its full name. -/
def tag? : Read (Option (Option String × String)) := do
  match ← peek with
  | some (.tag handle suffix) => drop; return some (handle, suffix)
  | _ => return none

/-- An anchor and a tag, each at most once and in any order. -/
def properties : Read (Option String × Option String) := do
  let first ← anchor?
  let tag ← tag?
  let anchor ← if first.isNone && tag.isSome then anchor? else pure first
  match tag with
  | some (handle, suffix) => return (anchor, some (← fullTag handle suffix))
  | none => return (anchor, none)

/-- The kind of a collection. The tag `!` leaves it open. -/
def collectionKind (usual : Kind) : Option String → Kind
  | none | some "!" => usual
  | some tag => .ofTag tag

def scalarKind (plain : Bool) (text : String) : Option String → Kind
  | none => if plain then .ofPlain text else .text
  | some "!" => .ofPlain text
  | some tag => .ofTag tag

/-- A collection: a node for it comes first, so that the nodes inside it can lead back to it. -/
def collection {α : Type} (anchor : Option String) (node : List α → Node)
    (inside : Read (List α)) : Read Nat := do
  let number ← addAnchored anchor (node [])
  replace number (node (← inside))
  return number

def alias? : Read (Option Nat) := do
  match ← peek with
  | some (.alias name) => drop; return some (← find name)
  | _ => return none

mutual

/-- Reads a node and gives its number. -/
def node (place : Place) : (fuel : Nat) → Read Nat
  | 0 => malformed
  | fuel + 1 => do
    if let some number ← alias? then return number
    let (anchor, tag) ← properties
    let sequence := collection anchor (.sequence (collectionKind .sequence tag))
    let mapping := collection anchor (.mapping (collectionKind .table tag))
    match ← peek, place with
    | some .blockEntry, .entry => sequence (entryItems fuel)
    | some (.scalar text plain), _ =>
      drop
      addAnchored anchor (.scalar (scalarKind plain text tag) text)
    | some .flowSequenceStart, _ => drop; sequence (flowItems true fuel)
    | some .flowMappingStart, _ => drop; mapping (flowEntries true fuel)
    | some .blockSequenceStart, .block | some .blockSequenceStart, .entry =>
      drop
      sequence (blockItems fuel)
    | some .blockMappingStart, .block | some .blockMappingStart, .entry =>
      drop
      mapping (blockEntries fuel)
    | _, _ =>
      if anchor.isNone && tag.isNone then malformed
      else addAnchored anchor (.scalar (scalarKind true "" tag) "")

/-- Reads a node, which is empty if one of the tokens comes next. -/
def nodeUnless (closing : List Token) (place : Place) : (fuel : Nat) → Read Nat
  | 0 => malformed
  | fuel + 1 => do
    if ← comes closing then add .empty else node place fuel

/-- Reads a colon and the node after it; without the colon the node is empty. -/
def valueUnless (closing : List Token) (place : Place) : (fuel : Nat) → Read Nat
  | 0 => malformed
  | fuel + 1 => do
    if ← accept .value then nodeUnless closing place fuel else add .empty

def blockItems : (fuel : Nat) → Read (List Nat)
  | 0 => malformed
  | fuel + 1 => do
    if ← accept .blockEntry then
      let item ← nodeUnless [.blockEntry, .blockEnd] .block fuel
      return item :: (← blockItems fuel)
    else if ← accept .blockEnd then return []
    else malformed

/-- Reads the items of a sequence whose indentation is that of the mapping around it. -/
def entryItems : (fuel : Nat) → Read (List Nat)
  | 0 => malformed
  | fuel + 1 => do
    if ← accept .blockEntry then
      let item ← nodeUnless [.blockEntry, .key, .value, .blockEnd] .block fuel
      return item :: (← entryItems fuel)
    else return []

def blockEntries : (fuel : Nat) → Read (List (Nat × Nat))
  | 0 => malformed
  | fuel + 1 => do
    if ← accept .key then
      let key ← nodeUnless [.key, .value, .blockEnd] .entry fuel
      let value ← valueUnless [.key, .value, .blockEnd] .entry fuel
      return (key, value) :: (← blockEntries fuel)
    else if ← accept .blockEnd then return []
    else malformed

/-- Reads the items of a flow sequence and its end. A pair among them is a mapping. -/
def flowItems (first : Bool) : (fuel : Nat) → Read (List Nat)
  | 0 => malformed
  | fuel + 1 => do
    if ← accept .flowSequenceEnd then return []
    if !first then
      if !(← accept .flowEntry) then malformed
    if ← accept .key then
      let key ← nodeUnless [.value, .flowEntry, .flowSequenceEnd] .flow fuel
      let value ← valueUnless [.flowEntry, .flowSequenceEnd] .flow fuel
      let pair ← add (.mapping .table [(key, value)])
      return pair :: (← flowItems false fuel)
    else if ← accept .flowSequenceEnd then return []
    else
      let item ← node .flow fuel
      return item :: (← flowItems false fuel)

/-- Reads the entries of a flow mapping and its end. An entry without a colon is a key. -/
def flowEntries (first : Bool) : (fuel : Nat) → Read (List (Nat × Nat))
  | 0 => malformed
  | fuel + 1 => do
    if ← accept .flowMappingEnd then return []
    if !first then
      if !(← accept .flowEntry) then malformed
    if ← accept .key then
      let key ← nodeUnless [.value, .flowEntry, .flowMappingEnd] .flow fuel
      let value ← valueUnless [.flowEntry, .flowMappingEnd] .flow fuel
      return (key, value) :: (← flowEntries false fuel)
    else if ← accept .flowMappingEnd then return []
    else
      let key ← node .flow fuel
      let value ← add .empty
      return (key, value) :: (← flowEntries false fuel)

end

def standardHandles : List (String × String) :=
  [("!", "!"), ("!!", "tag:yaml.org,2002:")]

/-- Reads the directives in front of a document: a version at most once, and each tag handle at
most once. -/
def directives (versioned : Bool) (handles : List (String × String)) :
    (fuel : Nat) → Read (List (String × String))
  | 0 => malformed
  | fuel + 1 => do
    match ← peek with
    | some (.versionDirective major) =>
      drop
      if versioned || major != 1 then malformed else directives true handles fuel
    | some (.tagDirective handle start) =>
      drop
      if handles.any (·.1 == handle) then malformed
      else directives versioned ((handle, start) :: handles) fuel
    | some .otherDirective => drop; directives versioned handles fuel
    | _ => return handles ++ standardHandles

def startsWithDirective : Read Bool := do
  match ← peek with
  | some (.versionDirective _) | some (.tagDirective _ _) | some .otherDirective => return true
  | _ => return false

def documentEnds : (fuel : Nat) → Read Unit
  | 0 => return
  | fuel + 1 => do
    if ← accept .documentEnd then documentEnds fuel

/-- Reads the only document of a text and gives the number of its root. A text without tokens has
none. Three hyphens must stand after directives; without directives they may be missing. -/
def document (size : Nat) : Read (Option Nat) := do
  let fuel := 3 * size + 3
  let announced ← startsWithDirective
  if (← peek).isNone then return none
  let handles ← directives false [] fuel
  modify fun r => { r with handles }
  let root ←
    if ← accept .documentStart then
      match ← peek with
      | none | some .documentEnd => add .empty
      | some _ => node .block fuel
    else if (← comes [.documentEnd]) || announced then malformed
    else node .block fuel
  documentEnds fuel
  match ← peek with
  | none => return some root
  | some _ => malformed

end Read

structure Document where
  nodes : Array Node
  root : Nat
  deriving Repr

def document (text : List Char) : Except Fault (Option Document) := do
  let tokens ← tokens text
  let (root, reading) ← (Read.document tokens.length).run ⟨tokens, [], #[], []⟩
  return root.map fun root => ⟨reading.nodes, root⟩

end EnvDoctor.Yaml
