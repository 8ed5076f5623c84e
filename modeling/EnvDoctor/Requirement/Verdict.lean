import EnvDoctor.Range.Parser
import EnvDoctor.Requirement.Basic

/-!
# Verdicts

A version is held against a list of constraints, one by one. The verdict lists the constraints
that hold and those that fail, each as its operator and the canonical form of its version.
-/

namespace EnvDoctor

structure Verdict where
  satisfies : Bool
  satisfied : List String
  failed : List String
  deriving DecidableEq, Repr

/-- What becomes of one constraint: it holds or fails, under a description. -/
inductive Finding where
  | holds (description : String)
  | fails (description : String)
  deriving DecidableEq, Repr

namespace Finding

def satisfied? : Finding → Option String
  | holds description => some description
  | fails _ => none

def failed? : Finding → Option String
  | holds _ => none
  | fails description => some description

/-- Holds a version against a constraint. A version that is no text fails under its written form,
if it has one: a number can be too long to be written. -/
def ofConstraint [VersionLibrary] (current : Version) (c : Constraint) : Except Range.Fault Finding :=
  match Version.ofValue? c.version with
  | none =>
    if c.version.holdsLong then .error (.tooLong ⟨none⟩)
    else .ok (.fails ("Invalid version format: " ++ c.display))
  | some version => do
    let description := c.operator.symbol ++ toString version
    let range ← Range.parse description
    return if ← range.admits current then .holds description else .fails description

end Finding

namespace Verdict

variable [VersionLibrary]

def invalidCurrent : Verdict :=
  ⟨false, [], ["Invalid current version format"]⟩

def processingError : Verdict :=
  ⟨false, [], ["Error processing version requirement"]⟩

def ofFindings (findings : List Finding) : Verdict :=
  let failed := findings.filterMap Finding.failed?
  ⟨failed.isEmpty, findings.filterMap Finding.satisfied?, failed⟩

def ofConstraints (current : Value) (constraints : List Constraint) : Verdict :=
  match Version.ofValue? current with
  | none => invalidCurrent
  | some version =>
    match constraints.mapM (Finding.ofConstraint version) with
    | .error _ => processingError
    | .ok findings => ofFindings findings

/-- Holds a version against a list of any items; an item that is no constraint spoils it all. -/
def ofItems (current : Value) (items : List Value) : Verdict :=
  match items.mapM Constraint.ofValue? with
  | some constraints => ofConstraints current constraints
  | none => if (Version.ofValue? current).isSome then processingError else invalidCurrent

/-- The items of a value that can be gone through: the members of a container, the keys of a
table, the characters of a text. -/
def items? : Value → Option (List Value)
  | .list items | .tuple items | .set items => some items
  | .table entries => some (entries.map Prod.fst)
  | .text s => some (s.toList.map fun c => .text (String.singleton c))
  | .bytes b => some (b.map fun x => .int x.toNat)
  | _ => none

def ofValue (current constraints : Value) : Verdict :=
  match items? constraints with
  | some items => ofItems current items
  | none => if (Version.ofValue? current).isSome then processingError else invalidCurrent

end Verdict

end EnvDoctor
