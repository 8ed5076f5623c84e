import EnvDoctor.Checker.Registry
import EnvDoctor.Checker.Result
import EnvDoctor.Requirement.Parser

/-!
# Checks

A check runs the command of a binary, reads the version out of its output and holds it against a
requirement. The processes that are started are logged in order. A check of several binaries gives
one result for each, in the order of the requirements.
-/

namespace EnvDoctor

/-- Why a binary cannot be checked. -/
inductive CheckFault where
  | unknownBinary (binary : String)
  | rule (fault : RuleFault)
  | requirement (fault : RequirementFault)
  | components (fault : ComponentsFault)
  | process (complaint : String)
  deriving DecidableEq, Repr

def unknownBinaryMessage (binary : String) : String :=
  "No checker configured for binary: " ++ binary

def CheckFault.message : CheckFault → String
  | unknownBinary binary => unknownBinaryMessage binary
  | rule fault => fault.message
  | requirement fault => fault.message
  | components fault => fault.message
  | process complaint => complaint

def notFoundMessage (binary : String) : String :=
  "Binary '" ++ binary ++ "' not found or version could not be determined"

/-- An activity that logs the processes it starts. -/
abbrev Logged := StateM (List Call)

abbrev Checking := ExceptT CheckFault Logged

def Runner.run (r : Runner) (command : String) (args : List String) :
    Logged (Except String (Option Output)) := do
  modify (· ++ r.calls command args)
  return r.output? command args

def Checker.run (c : Checker) (runner : Runner) : Checking (Option Output) := ExceptT.mk do
  return (← runner.run c.executable c.args).mapError CheckFault.process

namespace Registry

variable [VersionLibrary] [CharacterNames] (registry : Registry) (runner : Runner)

/-- The checker of a binary, which must be registered. -/
def get (binary : String) : Except CheckFault Checker :=
  match registry.find? binary with
  | some c => .ok c
  | none => .error (.unknownBinary binary)

def currentVersion (binary : String) : Checking (Option String) := do
  let c ← registry.get binary
  match ← c.run runner with
  | none => return none
  | some output => (extractVersion c.rule output.text).mapError CheckFault.rule

/-- The versions of the components of a binary. No command is run if its checker cannot read
them. -/
def componentsOf (binary : String) : Checking (Option (Named String)) := do
  let c ← registry.get binary
  match c.components with
  | none => return none
  | some routine =>
    match ← c.run runner with
    | none => return none
    | some output =>
      (extractComponents (some routine) output.text).mapError CheckFault.components

def judge (c : Checker) (binary : String) (requirement : Value) (output : Output) :
    Except CheckFault CheckResult := do
  let found ← (extractVersion c.rule output.text).mapError CheckFault.rule
  match found with
  | none => return .ofError binary (notFoundMessage binary)
  | some version =>
    let constraints ← (Constraint.listOfValue requirement).mapError CheckFault.requirement
    let verdict := Verdict.ofConstraints (.text version) constraints
    let components ←
      (extractComponents c.components output.text).mapError CheckFault.components
    return .ofVerdict binary version verdict components

/-- Checks a binary; a failure ends the check. -/
def attempt (binary : String) (requirement : Value) : Checking CheckResult := do
  let c ← registry.get binary
  match ← c.run runner with
  | none => return .ofError binary (notFoundMessage binary)
  | some output => judge c binary requirement output

def check (binary : String) (requirement : Value) : Logged CheckResult := do
  match ← (attempt registry runner binary requirement).run with
  | .ok result => return result
  | .error fault => return .ofError binary fault.message

def checkAll (requirements : Named Value) : Logged (List CheckResult) :=
  requirements.mapM fun r => check registry runner r.1 r.2

end Registry

end EnvDoctor
