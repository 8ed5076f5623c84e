import EnvDoctor.Named
import EnvDoctor.Requirement.Verdict

/-!
# Results of checks

What a check has found out about a binary, and how results are written: as a line of text and as
a record.
-/

namespace EnvDoctor

structure CheckResult where
  binary : String
  currentVersion : Option String
  satisfies : Bool
  error : Option String
  requirement : Option Verdict
  components : Option (Named String)
  deriving DecidableEq, Repr

namespace CheckResult

def ofError (binary error : String) : CheckResult :=
  ⟨binary, none, false, some error, none, none⟩

def ofVerdict (binary version : String) (verdict : Verdict)
    (components : Option (Named String)) : CheckResult :=
  ⟨binary, some version, verdict.satisfies, none, some verdict, components⟩

def shownComponents (r : CheckResult) : Named String :=
  r.components.getD []

def versionText (r : CheckResult) : String :=
  match r.currentVersion with
  | some version => if version.isEmpty then "not found" else version
  | none => "not found"

/-- The result on one line. An error is added if no version is known. -/
def line (r : CheckResult) : String :=
  let shown := r.binary ++ ": " ++ r.versionText
  match r.currentVersion, r.error with
  | none, some error => if error.isEmpty then shown else shown ++ " (" ++ error ++ ")"
  | _, _ => shown

def componentsText (components : Named String) : String :=
  if components.isEmpty then "-"
  else ", ".intercalate (components.map fun c => c.1 ++ "=" ++ c.2)

def textList (texts : List String) : Value :=
  .list (texts.map .text)

/-- The result as a record. What is absent is left out, except the version. -/
def toFields (r : CheckResult) : List (String × Value) :=
  [("binary", .text r.binary),
   ("current_version", (r.currentVersion.map Value.text).getD .null),
   ("satisfies", .bool r.satisfies)] ++
  (r.error.map fun e => ("error", Value.text e)).toList ++
  (match r.requirement with
   | some verdict =>
     [("satisfied_constraints", textList verdict.satisfied),
      ("failed_constraints", textList verdict.failed)]
   | none => []) ++
  (if r.shownComponents.isEmpty then []
   else [("components", .record (r.shownComponents.map fun c => (c.1, .text c.2)))])

def toValue (r : CheckResult) : Value :=
  .record r.toFields

def allSatisfy (results : List CheckResult) : Bool :=
  results.all (·.satisfies)

def recordSatisfies (record : Value) : Bool :=
  ((record.field? "satisfies").map Value.isTruthy).getD false

/-- Results as a document. Whether all are satisfactory is read off their records. -/
def payload (results : List CheckResult) : Value :=
  let records := results.map toValue
  .record [("ok", .bool (records.all recordSatisfies)), ("results", .list records)]

end CheckResult

end EnvDoctor
