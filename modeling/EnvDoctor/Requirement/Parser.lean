import EnvDoctor.Requirement.Basic
import EnvDoctor.Text.Pieces

/-!
# Reading requirements

A requirement text is a list of fragments with commas between them. A fragment is an operator and
a version text; whatever has not this form is skipped. Requirements also come as tables with an
operator and a version, as ready constraints, and as lists of both.
-/

namespace EnvDoctor.Constraint

/-- The version text after an operator: not empty, and on one line. -/
def versionText? (s : List Char) : Option (List Char) :=
  let version := Text.trimLeft s
  if version.isEmpty || version.contains '\n' then none else some version

def withOperator? (fragment : List Char) (op : Operator) : Option Constraint := do
  let rest ← op.symbol.toList.isPrefixOf? fragment
  let version ← versionText? rest
  some ⟨op, .text (String.ofList version)⟩

/-- Reads a fragment with the longest operator that leaves a version. -/
def ofFragment? (fragment : List Char) : Option Constraint :=
  Operator.longestFirst.findSome? (withOperator? (Text.trim fragment))

def ofChars (s : List Char) : List Constraint :=
  (Text.splitOn ',' s).filterMap ofFragment?

def ofText (s : String) : List Constraint :=
  ofChars s.toList

/-- Reads a requirement text; an absent value is an empty text. -/
def ofTextValue : Value → Except RequirementFault (List Constraint)
  | .text s => .ok (ofText s)
  | v => if v.isTruthy then .error (.notText v.kind) else .ok []

/-- The written form of a field of a table, empty if the field is absent. -/
def fieldText (key : String) (entries : List (Value × Value)) :
    Except RequirementFault String :=
  match Value.lookup key entries with
  | some v =>
    if !v.isTruthy then .ok ""
    else if v.holdsLong then .error (.tooLong ⟨none⟩)
    else .ok v.display
  | none => .ok ""

def ofEntries (entries : List (Value × Value)) : Except RequirementFault Constraint := do
  let operator ← fieldText "operator" entries
  let version ← fieldText "version" entries
  make (.text operator) (.text version)

def ofItem (v : Value) : Except RequirementFault Constraint :=
  match v.bare with
  | .constraint op version => .ok ⟨op, version⟩
  | .table entries => ofEntries entries
  | _ => .error (.notTable v.kind)

def listOfValue (v : Value) : Except RequirementFault (List Constraint) :=
  match v.bare with
  | .text s => .ok (ofText s)
  | .constraint op version => .ok [⟨op, version⟩]
  | .table entries => do return [← ofEntries entries]
  | .list items | .tuple items => items.mapM ofItem
  | _ => .error (.unsupportedKind v.kind)

def ofRequirement : Requirement → List Constraint
  | .text s => ofText s
  | .one c => [c]
  | .all cs => cs

/-- A stored requirement can always be read again. -/
@[simp]
theorem listOfValue_toValue (r : Requirement) : listOfValue r.toValue = .ok (ofRequirement r) := by
  cases r with
  | text s => rfl
  | one c => rfl
  | all cs =>
    change (cs.map toValue).mapM ofItem = .ok cs
    induction cs with
    | nil => rfl
    | cons c rest ih =>
      rw [List.map_cons, List.mapM_cons, ih]
      rfl

end EnvDoctor.Constraint
