import EnvDoctor.Config.Basic

/-!
# Validation

The configuration that a value describes. A table with the key `requirements` or `checkers` has two
sections, any other table is a table of requirements. The first fault in the order of the entries
counts, requirements coming before checkers.
-/

namespace EnvDoctor.Config

variable [CharacterNames]

/-- A written form of a value, which must hold no number that is too long to be written. -/
def shown (form : Value → String) (v : Value) : Except ConfigFault String :=
  if v.holdsLong then .error (.numberTooLong ⟨none⟩) else .ok (form v)

def constraintOf (place : String) (entries : List (Value × Value)) :
    Except ConfigFault Constraint := do
  let operator := (Value.lookup "operator" entries).getD .null
  let known := match operator with
    | .text s => Operator.ofSymbol? s
    | _ => none
  match known, Value.lookup "version" entries with
  | none, _ => throw (.unsupportedOperator place (← shown Value.literal operator))
  | some op, some (.text version) => return ⟨op, .text version⟩
  | some _, _ => throw (.versionNotText place)

def itemOf (place : String) (v : Value) : Except ConfigFault Constraint :=
  match v.bare with
  | .constraint op version => .ok ⟨op, version⟩
  | .table entries => constraintOf place entries
  | _ => .error (.constraintExpected place)

def itemsFrom (place : String) (number : Nat) : List Value → Except ConfigFault (List Constraint)
  | [] => .ok []
  | v :: rest => do
    let c ← itemOf (place ++ "[" ++ toString number ++ "]") v
    return c :: (← itemsFrom place (number + 1) rest)

def requirementOf (name : String) (v : Value) : Except ConfigFault Requirement :=
  let place := "requirements." ++ name
  match v.bare with
  | .text s => .ok (.text s)
  | .constraint op version => .ok (.one ⟨op, version⟩)
  | .table entries => .one <$> constraintOf place entries
  | .list items | .tuple items => .all <$> itemsFrom place 0 items
  | _ => .error (.requirementExpected place)

/-- An option of a checker under either spelling of its key. The first spelling counts if it is
there, also with a null. -/
def option (key otherKey : String) (entries : List (Value × Value)) : Value :=
  ((Value.lookup key entries).orElse fun _ => Value.lookup otherKey entries).getD .null

def texts? : List Value → Option (List String)
  | [] => some []
  | .text s :: rest => (texts? rest).map (s :: ·)
  | _ :: _ => none

def commandOf (place : String) : Value → Except ConfigFault (Option String)
  | .null => .ok none
  | .text s => .ok (some s)
  | _ => .error (.commandNotText place)

def flagOf (place : String) (v : Value) : Except ConfigFault (Option VersionFlag) :=
  match v.bare with
  | .null => .ok none
  | .text s => .ok (some (.one s))
  | .list items | .tuple items =>
    match texts? items with
    | some flags => .ok (some (.many flags))
    | none => .error (.flagNotText place)
  | _ => .error (.flagNotText place)

def ruleOf (place : String) (v : Value) : Except ConfigFault Rule :=
  match v with
  | .null => .error (.ruleMissing place)
  | .text _ | .pattern _ | .routine _ _ =>
    match (Rule.ofValue v).resolve with
    | .ok _ => .ok (Rule.ofValue v)
    | .error fault => .error (.rule fault)
  | _ => .error (.ruleExpected place)

def componentsOf (place : String) : Value → Except ConfigFault (Option Routine)
  | .null => .ok none
  | .routine name run => .ok (some ⟨name, run⟩)
  | _ => .error (.routineExpected place)

def checkerOf (name : String) (v : Value) : Except ConfigFault Checker :=
  let place := "checkers." ++ name
  match v.bare with
  | .table entries => do
    let command ← commandOf place ((Value.lookup "command" entries).getD .null)
    let versionFlag ← flagOf place (option "version_flag" "versionFlag" entries)
    let rule ← ruleOf place (option "parse_version" "parseVersion" entries)
    let components ← componentsOf place (option "parse_components" "parseComponents" entries)
    return { name, rule, command, versionFlag, components }
  | _ => .error (.tableExpected place)

/-- Reads the entries of a section in order, each under the written form of its key. -/
def sectionOf {α : Type} (read : String → Value → Except ConfigFault α) (start : Named α) :
    List (Value × Value) → Except ConfigFault (Named α)
  | [] => .ok start
  | (key, v) :: rest => do
    let name ← shown Value.display key
    let a ← read name v
    sectionOf read (start.set name a) rest

/-- The entries of a section that is a table or absent. -/
def sectionEntries (name : String) (v : Option Value) :
    Except ConfigFault (List (Value × Value)) :=
  match v with
  | none => .ok []
  | some v =>
    if !v.isTruthy then .ok []
    else
      match v.bare with
      | .table entries => .ok entries
      | _ => .error (.tableExpected name)

def sections (entries : List (Value × Value)) :
    Except ConfigFault (List (Value × Value) × List (Value × Value)) := do
  let requirements := Value.lookup "requirements" entries
  let checkers := Value.lookup "checkers" entries
  if requirements.isSome || checkers.isSome then
    let requirements ← sectionEntries "requirements" requirements
    let checkers ← sectionEntries "checkers" checkers
    return (requirements, checkers)
  else return (entries, [])

def validate (data : Value) (source : Option String) : Except ConfigFault Config :=
  match data.bare with
  | .table entries => do
    let (requirements, checkers) ← sections entries
    let requirements ← sectionOf requirementOf [] requirements
    let checkers ← sectionOf checkerOf [] checkers
    return { requirements, checkers, source }
  | _ => .error .notTable

/-- The configuration that a value describes, with faults that tell its source. -/
def ofValue (data : Value) (source : Option String) : Except LoadFault Config :=
  (validate data source).mapError (LoadFault.ofConfig source)

end EnvDoctor.Config
