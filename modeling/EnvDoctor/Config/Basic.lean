import EnvDoctor.Checker.Registry
import EnvDoctor.Files.Workspace
import EnvDoctor.Requirement.Basic
import EnvDoctor.Yaml.Fault

/-!
# Configurations

A configuration has requirements and checkers of its own, both under the names of binaries, and
remembers where it comes from. Whatever is wrong with one is a fault with a message.
-/

namespace EnvDoctor

structure Config where
  requirements : Named Requirement
  checkers : Named Checker
  source : Option String

/-- The built-in checkers and those of the configuration, which may replace them. -/
def Config.registry (config : Config) : Registry :=
  .withBuiltins (config.checkers.map Prod.snd)

/-- What is wrong with a configuration. A `place` is a path of keys. -/
inductive ConfigFault where
  | notTable
  | tableExpected (place : String)
  | unsupportedOperator (place operator : String)
  | versionNotText (place : String)
  | constraintExpected (place : String)
  | requirementExpected (place : String)
  | commandNotText (place : String)
  | flagNotText (place : String)
  | ruleMissing (place : String)
  | ruleExpected (place : String)
  | rule (fault : RuleFault)
  | routineExpected (place : String)
  | cannotImport (path : String)
  | importFailed (path complaint : String)
  | definesNothing (path : String)
  /-- A whole number would have to be written out that is too long for it. -/
  | numberTooLong (numeral : Numeral.TooLong)
  | fileNotFound (path : String)
  | fileUnreadable (path complaint : String)
  | inlineUnreadable (complaint : String)
  deriving DecidableEq, Repr

def ConfigFault.message : ConfigFault → String
  | notTable => "Config must be a mapping of requirements"
  | tableExpected place => place ++ ": expected a table"
  | unsupportedOperator place operator =>
    place ++ ": unsupported operator " ++ operator ++ " (expected one of " ++ Operator.listing ++ ")"
  | versionNotText place => place ++ ": version must be a string"
  | constraintExpected place => place ++ ": expected an operator/version table"
  | requirementExpected place =>
    place ++ ": expected a string, an operator/version table or a list of them"
  | commandNotText place => place ++ ".command: expected a string"
  | flagNotText place => place ++ ".version_flag: expected a string or a list of strings"
  | ruleMissing place => place ++ ".parse_version is required"
  | ruleExpected place => place ++ ".parse_version: expected a regex or a callable"
  | rule fault => fault.message
  | routineExpected place => place ++ ".parse_components: expected a callable"
  | cannotImport path => "Cannot import " ++ path
  | importFailed path complaint => "Failed to import " ++ path ++ ": " ++ complaint
  | definesNothing path => path ++ " defines neither \x60config\x60 nor \x60requirements\x60"
  | numberTooLong numeral => numeral.message
  | fileNotFound path => "Config file not found: " ++ path
  | fileUnreadable path complaint => "Failed to load requirements from " ++ path ++ ": " ++ complaint
  | inlineUnreadable complaint => "Failed to parse inline requirements: " ++ complaint

structure ConfigError where
  fault : ConfigFault
  source : Option String
  deriving DecidableEq, Repr

/-- Why no configuration can be loaded. Only the first is about the configuration itself: the
others are a file that cannot be looked for, an unknown home directory, a pattern or a number
beyond its limits, a scalar that breaks off the reading, and a script that ends the program. -/
inductive LoadFault where
  | config (error : ConfigError)
  | file (error : FileError)
  | homeUnknown
  | pattern (source : String) (fault : Pattern.Fault)
  | number (numeral : Numeral.TooLong)
  | scalar (fault : Yaml.Fault)
  | exited (complaint : String)
  deriving DecidableEq, Repr

def LoadFault.message : LoadFault → String
  | config error => error.fault.message
  | file error => error.message
  | homeUnknown => "Could not determine home directory."
  | pattern source fault => fault.message source.toList
  | number numeral => numeral.message
  | scalar fault => fault.message
  | exited complaint => complaint

def LoadFault.ofConfig (source : Option String) (fault : ConfigFault) : LoadFault :=
  match fault with
  | .rule (.invalidPattern text f) =>
    if f.isLimit then .pattern text f else .config ⟨fault, source⟩
  | .numberTooLong numeral => .number numeral
  | _ => .config ⟨fault, source⟩

end EnvDoctor
