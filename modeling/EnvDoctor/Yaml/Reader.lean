import EnvDoctor.Value.Listing
import EnvDoctor.Yaml.Content

/-!
# Reading YAML

The value of a document. The contents of its nodes are put together from the leaves up. A
collection that leads back to itself becomes a knot, which is unrolled as far as readers of values
look into it and then until a collection comes up for the second time.
-/

namespace EnvDoctor.Yaml

/-- What is known about a node while contents are put together. -/
inductive Mark where
  | fresh
  /-- A node inside it is being looked at. -/
  | opened
  | done (v : Value)
  /-- It leads to a collection that leads back to itself. -/
  | knotted

instance : Inhabited Mark := ⟨.fresh⟩

def Content.inside : Content → List Nat
  | scalar _ | notANumber | waiting => []
  | list items => items
  | pairs entries | table entries => entries.flatMap fun e => [e.1, e.2]
  | set keys => keys

/-- A content as a value, given the values of the nodes inside it. -/
def Content.assemble (value : Nat → Value) : Content → Value
  | scalar v => v
  | notANumber => .real (0 / 0)
  | list items => .list (items.map value)
  | pairs entries => .list (entries.map fun e => .tuple [value e.1, value e.2])
  | table entries => .table (entries.map fun e => (value e.1, value e.2))
  | set keys => .set (Value.listed (keys.map value))
  | waiting => .null

def Content.emptied : Content → Content
  | table _ => table []
  | _ => list []

def valueIn (marks : Array Mark) (n : Nat) : Option Value :=
  match marks[n]? with
  | some (.done v) => some v
  | _ => none

def settle (contents : Array Content) : (fuel : Nat) → Nat → StateM (Array Mark) Unit
  | 0, _ => return
  | fuel + 1, n => do
    match (← get)[n]?, contents[n]? with
    | some .fresh, some content =>
      modify fun marks => marks.setIfInBounds n .opened
      content.inside.forM (settle contents fuel)
      let marks ← get
      let whole := content.inside.all fun m => (valueIn marks m).isSome
      let mark := if whole then
          .done (content.assemble fun m => (valueIn marks m).getD .null)
        else .knotted
      modify fun marks => marks.setIfInBounds n mark
    | _, _ => return

/-- How many collections around a value readers look through before they show it. -/
def sight : Nat := 5

/-- The value of a node inside some collections; one of those is not unrolled again. -/
def unrolled (contents : Array Content) (marks : Array Mark) : (fuel : Nat) → List Nat → Nat →
    Value
  | 0, _, _ => .null
  | fuel + 1, around, n =>
    match valueIn marks n, contents[n]? with
    | some v, _ => v
    | none, none => .null
    | none, some content =>
      if around.contains n then .knot n (content.emptied.assemble fun _ => .null)
      else .knot n (content.assemble (unrolled contents marks fuel (n :: around)))

/-- The values of all nodes from the values of the nodes inside them. -/
def widen (contents : Array Content) (marks : Array Mark) (deeper : Array Value) : Array Value :=
  (Array.range contents.size).map fun n =>
    match valueIn marks n, contents[n]? with
    | some v, _ => v
    | none, none => .null
    | none, some content => .knot n (content.assemble fun m => deeper[m]?.getD .null)

def valueOf (contents : Array Content) (root : Nat) : Value :=
  let size := contents.size
  let ((), marks) := (settle contents (size + 1) root).run (Array.replicate size .fresh)
  match valueIn marks root with
  | some v => v
  | none =>
    let deepest := (Array.range size).map (unrolled contents marks (size + 1) [])
    (Nat.repeat (widen contents marks) sight deepest)[root]?.getD .null

/-- Reads the only document of a text. A text without one is null. -/
def read (text : List Char) : Except Fault Value := do
  match ← document text with
  | some d =>
    let contents ← d.contents
    return valueOf (contents.map (·.getD .waiting)) d.root
  | none => return .null

end EnvDoctor.Yaml
