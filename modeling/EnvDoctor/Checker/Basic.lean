import EnvDoctor.Extraction
import EnvDoctor.Process

/-!
# Checkers

A checker says how to find out the version of a binary: which command to run with which arguments,
and how to read its output.
-/

namespace EnvDoctor

inductive VersionFlag where
  | one (flag : String)
  | many (flags : List String)
  deriving DecidableEq, Repr

def VersionFlag.args : VersionFlag → List String
  | one flag => [flag]
  | many flags => flags

structure Checker where
  name : String
  rule : Rule
  command : Option String
  versionFlag : Option VersionFlag
  components : Option Routine

namespace Checker

/-- A checker whose command is its name, with the usual argument and without components. -/
def ofRule (name : String) (rule : Rule) : Checker :=
  ⟨name, rule, none, none, none⟩

/-- The command, or the name if there is none or it is empty. -/
def executable (c : Checker) : String :=
  match c.command with
  | some command => if command.isEmpty then c.name else command
  | none => c.name

def args (c : Checker) : List String :=
  (c.versionFlag.getD (.one "--version")).args

end Checker

end EnvDoctor
