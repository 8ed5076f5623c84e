import EnvDoctor.Named
import EnvDoctor.Pattern.Matcher
import EnvDoctor.Pattern.Parser
import EnvDoctor.Routine
import EnvDoctor.Value.Written

/-!
# Extraction

A rule finds the version in the output of a program: a pattern, whose first group counts if it has
groups, the text of a pattern, or a routine. Versions of components are found by routines.
-/

namespace EnvDoctor

inductive Rule where
  | pattern (p : Pattern)
  | text (source : String)
  | routine (r : Routine)
  | unsupported (kind : String)

/-- Why a rule finds neither a version nor that there is none. -/
inductive RuleFault where
  | invalidPattern (source : String) (fault : Pattern.Fault)
  | unsupported (kind : String)
  /-- The value that was found has no written form. -/
  | tooLong (numeral : Numeral.TooLong)
  deriving DecidableEq, Repr

def RuleFault.message : RuleFault → String
  | invalidPattern source fault =>
    let complaint := fault.message source.toList
    if fault.isLimit then complaint
    else "Invalid parse_version pattern " ++ Text.quote source ++ ": " ++ complaint
  | unsupported kind => "Unsupported parse_version rule: " ++ kind
  | tooLong numeral => numeral.message

namespace Rule

def ofValue : Value → Rule
  | .text source => .text source
  | .pattern p => .pattern p
  | .routine name run => .routine ⟨name, run⟩
  | v => .unsupported v.kind

/-- A rule as it is shown: the text of a pattern or the name of a routine. -/
def display : Rule → String
  | pattern p => p.source
  | text source => source
  | routine r => "<" ++ r.name ++ ">"
  | unsupported _ => "<callable>"

def searchValue (p : Pattern) (output : String) : Value :=
  match (p.search output.toList).bind Pattern.Match.yield with
  | some found => .text (String.ofList found)
  | none => .null

def resolve [CharacterNames] : Rule → Except RuleFault (String → Option Value)
  | pattern p => .ok fun output => some (searchValue p output)
  | text source =>
    match Pattern.compile source with
    | .ok p => .ok fun output => some (searchValue p output)
    | .error fault => .error (.invalidPattern source fault)
  | routine r => .ok r.run
  | unsupported kind => .error (.unsupported kind)

end Rule

/-- The version that a found value stands for: its text without outer blanks, unless that is
empty. -/
def versionOfFound : Option Value → Except RuleFault (Option String)
  | none | some .null => .ok none
  | some v =>
    if v.holdsLong then .error (.tooLong ⟨none⟩)
    else
      let version := Text.strip v.display
      .ok (if version.isEmpty then none else some version)

def extractVersion [CharacterNames] (rule : Rule) (output : String) :
    Except RuleFault (Option String) := do
  let run ← rule.resolve
  versionOfFound (run output)

inductive ComponentsFault where
  | notTable (kind : String)
  | tooLong (numeral : Numeral.TooLong)
  deriving DecidableEq, Repr

def ComponentsFault.message : ComponentsFault → String
  | notTable kind => "'" ++ kind ++ "' object has no attribute 'items'"
  | tooLong numeral => numeral.message

def componentsOfFound : Option Value → Except ComponentsFault (Option (Named String))
  | none => .ok none
  | some v =>
    if !v.isTruthy then .ok none
    else
      match v.bare with
      | .table entries =>
        if Value.entriesHoldLong entries then .error (.tooLong ⟨none⟩)
        else .ok (some (Named.ofList (entries.map fun e => (e.1.display, e.2.display))))
      | _ => .error (.notTable v.kind)

def extractComponents (routine : Option Routine) (output : String) :
    Except ComponentsFault (Option (Named String)) :=
  match routine with
  | none => .ok none
  | some r => componentsOfFound (r.run output)

end EnvDoctor
