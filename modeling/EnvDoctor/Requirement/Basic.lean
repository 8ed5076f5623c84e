import EnvDoctor.Value.Written

/-!
# Constraints and requirements

A constraint is an operator and a version; a requirement is a list of constraints that must all
hold. Files give a version as a text, ready constraints may carry any value.
-/

namespace EnvDoctor

structure Constraint where
  operator : Operator
  version : Value

namespace Constraint

def display (c : Constraint) : String :=
  c.operator.symbol ++ c.version.display

def ofValue? : Value → Option Constraint
  | .constraint op version => some ⟨op, version⟩
  | _ => none

def toValue (c : Constraint) : Value :=
  .constraint c.operator c.version

@[simp]
theorem ofValue?_toValue (c : Constraint) : ofValue? c.toValue = some c := rfl

end Constraint

/-- Why a value is no requirement. An operator is given in its literal form. -/
inductive RequirementFault where
  | unsupportedOperator (operator : String)
  | unsupportedKind (kind : String)
  | notTable (kind : String)
  | notText (kind : String)
  | tooLong (numeral : Numeral.TooLong)
  deriving DecidableEq, Repr

def RequirementFault.message : RequirementFault → String
  | unsupportedOperator operator => "Unsupported operator: " ++ operator
  | unsupportedKind kind => "Unsupported requirement type: " ++ kind
  | notTable kind => "'" ++ kind ++ "' object has no attribute 'get'"
  | notText kind => "'" ++ kind ++ "' object has no attribute 'split'"
  | tooLong numeral => numeral.message

def Constraint.make (operator version : Value) : Except RequirementFault Constraint :=
  match operator with
  | .text symbol =>
    match Operator.ofSymbol? symbol with
    | some op => .ok ⟨op, version⟩
    | none => .error (.unsupportedOperator operator.literal)
  | _ => .error (.unsupportedOperator operator.literal)

inductive Requirement where
  | text (s : String)
  | one (c : Constraint)
  | all (cs : List Constraint)

def Requirement.toValue : Requirement → Value
  | text s => .text s
  | one c => c.toValue
  | all cs => .list (cs.map Constraint.toValue)

end EnvDoctor
