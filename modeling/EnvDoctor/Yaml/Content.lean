import EnvDoctor.Yaml.Datum
import EnvDoctor.Yaml.Node

/-!
# Contents of YAML nodes

What each node of a document stands for. A scalar gets its value when it is met. A collection is
put off: it is filled after those that were met before it, so of several faults the one nearest to
the root comes up. The key `<<` puts the entries of other mappings in front of the entries of its
own mapping, so that the own ones count; the key `=` is a text.
-/

namespace EnvDoctor.Yaml

/-- What a node stands for. Collections name the nodes inside them by their numbers. -/
inductive Content where
  | scalar (v : Value)
  /-- The one value that is no number and has a name; others are scalars. -/
  | notANumber
  | list (items : List Nat)
  | pairs (items : List (Nat × Nat))
  | table (entries : List (Nat × Nat))
  | set (keys : List Nat)
  | waiting

/-- Lists, tables and sets are no keys. -/
def Content.isKey : Content → Bool
  | scalar _ | notANumber => true
  | _ => false

/-- The nodes of a document, which taking over entries changes; the contents that are known; and
the collections to be filled, the last one first. -/
structure Filling where
  nodes : Array Node
  contents : Array (Option Content)
  waiting : List Nat

abbrev Fill := StateT Filling (Except Fault)

namespace Fill

def malformed {α : Type} : Fill α :=
  throw .malformed

def node (n : Nat) : Fill Node :=
  return (← get).nodes[n]?.getD .empty

def setNode (n : Nat) (node : Node) : Fill Unit :=
  modify fun f => { f with nodes := f.nodes.setIfInBounds n node }

def content? (n : Nat) : Fill (Option Content) :=
  return ((← get).contents[n]?).join

def setContent (n : Nat) (content : Content) : Fill Unit :=
  modify fun f => { f with contents := f.contents.setIfInBounds n (some content) }

def entries (n : Nat) : Fill (List (Nat × Nat)) := do
  match ← node n with
  | .mapping _ entries => return entries
  | _ => malformed

def setEntries (n : Nat) (entries : List (Nat × Nat)) : Fill Unit := do
  setNode n (.mapping (← node n).kind entries)

mutual

/-- Takes over entries into a mapping from an index of its own entries on; `taken` are those that
have been taken over already. -/
def takeOver (n index : Nat) (taken : List (Nat × Nat)) : (fuel : Nat) → Fill Unit
  | 0 => malformed
  | fuel + 1 => do
    let own ← entries n
    match own[index]? with
    | none => setEntries n (taken ++ own)
    | some (key, value) =>
      let keyNode ← node key
      match keyNode.kind with
      | .merge =>
        setEntries n (own.eraseIdx index)
        let more ← source value fuel
        takeOver n index (taken ++ more) fuel
      | .standard =>
        setNode key (keyNode.withKind .text)
        takeOver n (index + 1) taken fuel
      | _ => takeOver n (index + 1) taken fuel

/-- The entries that are taken over from a mapping, or from several of which the first counts
most. -/
def source (n : Nat) : (fuel : Nat) → Fill (List (Nat × Nat))
  | 0 => malformed
  | fuel + 1 => do
    match ← node n with
    | .mapping _ _ =>
      takeOver n 0 [] fuel
      entries n
    | .sequence _ items => sources items fuel
    | .scalar _ _ => malformed

/-- The entries of several mappings, those of the last one first. -/
def sources (items : List Nat) : (fuel : Nat) → Fill (List (Nat × Nat))
  | 0 => malformed
  | fuel + 1 => do
    match items with
    | [] => return []
    | n :: rest =>
      takeOver n 0 [] fuel
      let first ← entries n
      return (← sources rest fuel) ++ first

end

/-- The text of a scalar; of a mapping, the text under the key `=`. -/
def scalarText (n : Nat) : (fuel : Nat) → Fill String
  | 0 => malformed
  | fuel + 1 => do
    match ← node n with
    | .scalar _ text => return text
    | .sequence _ _ => malformed
    | .mapping _ entries =>
      match ← entries.findM? fun e => return (← node e.1).kind = .standard with
      | some (_, value) => scalarText value fuel
      | none => malformed

def scalarContent (n : Nat) : Fill Content := do
  let fuel := (← get).nodes.size + 1
  let here ← node n
  let text ← scalarText n fuel
  match here.kind, here with
  | .timestamp, .mapping _ _ => throw .mappingAsTimestamp
  | .real, _ =>
    if isNotANumber text.toList then return .notANumber
    return .scalar (← scalarValue .real text)
  | kind, _ => return .scalar (← scalarValue kind text)

/-- Meets a node: a scalar gets its value, a collection is put off. -/
def visit (n : Nat) : Fill Unit := do
  if (← content? n).isSome then return
  match (← node n).kind with
  | .sequence | .table | .set | .orderedTable | .pairs =>
    setContent n .waiting
    modify fun f => { f with waiting := n :: f.waiting }
  | .unknown | .merge | .standard => malformed
  | _ => setContent n (← scalarContent n)

def sameKey (m n : Nat) : Fill Bool := do
  if m = n then return true
  match ← content? m, ← content? n with
  | some (.scalar v), some (.scalar w) => return v.sameKey w
  | some .notANumber, some .notANumber => return true
  | _, _ => return false

def insert (key value : Nat) : List (Nat × Nat) → Fill (List (Nat × Nat))
  | [] => return [(key, value)]
  | e :: rest => do
    if ← sameKey e.1 key then return (e.1, value) :: rest
    return e :: (← insert key value rest)

/-- The entries of a table. Every entry is met in order, the key before the value. -/
def tableEntries (n : Nat) : Fill (List (Nat × Nat)) := do
  let size := ((← get).nodes.map fun
    | .mapping _ entries => entries.length + 1
    | _ => 1).foldl (· + ·) 1
  takeOver n 0 [] (4 * size * size)
  (← entries n).foldlM (fun table (key, value) => do
    visit key
    unless (← content? key).any Content.isKey do malformed
    visit value
    insert key value table) []

def onlyEntry (n : Nat) : Fill (Nat × Nat) := do
  match ← entries n with
  | [(key, value)] =>
    visit key
    visit value
    return (key, value)
  | _ => malformed

def collectionContent (n : Nat) : Fill Content := do
  match (← node n).kind, ← node n with
  | .sequence, .sequence _ items =>
    items.forM visit
    return .list items
  | .orderedTable, .sequence _ items | .pairs, .sequence _ items =>
    return .pairs (← items.mapM onlyEntry)
  | .table, .mapping _ _ => return .table (← tableEntries n)
  | .set, .mapping _ _ => return .set ((← tableEntries n).map Prod.fst)
  | _, _ => malformed

def fillAll : (fuel : Nat) → Fill Unit
  | 0 => return
  | fuel + 1 => do
    let batch := (← get).waiting.reverse
    unless batch.isEmpty do
      modify fun f => { f with waiting := [] }
      batch.forM fun n => do setContent n (← collectionContent n)
      fillAll fuel

end Fill

def Document.contents (d : Document) : Except Fault (Array (Option Content)) := do
  let fill : Fill Unit := do
    Fill.visit d.root
    Fill.fillAll (d.nodes.size + 1)
  let (_, filling) ← fill.run ⟨d.nodes, Array.replicate d.nodes.size none, []⟩
  return filling.contents

end EnvDoctor.Yaml
