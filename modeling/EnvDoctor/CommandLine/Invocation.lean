import EnvDoctor.CommandLine.Options

/-!
# Invocations

What a command line asks for: one of four commands, the version, or help. A command line that names
no command but starts with an argument means `verify`.
-/

namespace EnvDoctor.CommandLine

def commandNames : List String :=
  ["verify", "check", "checkers", "init"]

/-- Puts `verify` in front of the first word that is no option, unless that is a command. -/
def withDefaultCommand : List String → List String
  | [] => []
  | word :: rest =>
    if word.startsWith "-" then word :: withDefaultCommand rest
    else if commandNames.contains word then word :: rest
    else "verify" :: word :: rest

inductive Command where
  | verify (config : Option String) (json : Bool)
  | check (binary requirement : String) (config : Option String) (json : Bool)
  | checkers (json : Bool)
  | init (path : String) (force : Bool)
  deriving DecidableEq, Repr

inductive Invocation where
  | version
  | help
  | run (verbose : Bool) (command : Command)
  deriving DecidableEq, Repr

def helpOption : OptionSpec :=
  ⟨"help", ["--help"], [], false⟩

def jsonOption : OptionSpec :=
  ⟨"json", ["--json"], [], false⟩

def configOption : OptionSpec :=
  ⟨"config", ["--config"], ['c'], true⟩

def mainOptions : List OptionSpec :=
  [⟨"verbose", ["--verbose"], ['v'], false⟩, ⟨"version", ["--version"], [], false⟩, helpOption]

def optionsOfCommand : String → List OptionSpec
  | "check" => [configOption, jsonOption, helpOption]
  | "init" => [⟨"path", ["--path"], [], true⟩, ⟨"force", ["--force"], [], false⟩, helpOption]
  | _ => [jsonOption, helpOption]

def noMore (arguments : List String) (command : Command) : Except UsageFault Command :=
  match arguments with
  | [] => .ok command
  | argument :: _ => .error (.argumentUnexpected argument)

def commandOf (name : String) (p : Parted) : Except UsageFault Command :=
  match name, p.arguments with
  | "verify", [] => .ok (.verify none (p.has "json"))
  | "verify", config :: rest => noMore rest (.verify (some config) (p.has "json"))
  | "check", binary :: requirement :: rest =>
    noMore rest (.check binary requirement (p.value? "config") (p.has "json"))
  | "check", _ => .error .argumentMissing
  | "checkers", rest => noMore rest (.checkers (p.has "json"))
  | "init", rest => noMore rest (.init ((p.value? "path").getD "doctor.toml") (p.has "force"))
  | _, _ => .error (.unknownCommand name)

def readCommand (verbose : Bool) : List String → Except UsageFault Invocation
  | [] => .ok (.run verbose (.verify none false))
  | name :: words =>
    if !commandNames.contains name then .error (.unknownCommand name)
    else do
      let p ← partAll (optionsOfCommand name) true words
      if p.has "help" then return .help
      return .run verbose (← commandOf name p)

/-- Reads a command line. Of the version and help, what is asked for first counts. -/
def read (words : List String) : Except UsageFault Invocation := do
  let p ← partAll mainOptions false (withDefaultCommand words)
  match p.options.find? fun o => o.name == "version" || o.name == "help" with
  | some o => return if o.name == "version" then .version else .help
  | none => readCommand (p.has "verbose") p.arguments

end EnvDoctor.CommandLine
