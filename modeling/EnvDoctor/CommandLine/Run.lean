import EnvDoctor.Checker.Check
import EnvDoctor.CommandLine.Invocation
import EnvDoctor.Config.Loader
import EnvDoctor.Config.Sample
import EnvDoctor.Console.Message
import EnvDoctor.Console.Table

/-!
# Running commands

A command gives messages and an exit code: zero if all is well, one if something is not as it
should be, two if the command could not do its work. A message that cannot be printed ends the run.
-/

namespace EnvDoctor

/-- What a command tells, and its exit code. -/
structure Report where
  exit : Nat
  messages : List Message

namespace Report

def print (r : Report) : String :=
  Message.print r.messages

/-- What is left of a report on a terminal: the messages in front of the first one that the
terminal does not take, and the exit code one if there is such a message. -/
def emit (terminal : Terminal) (r : Report) : Report :=
  let printed := r.messages.takeWhile fun m => terminal.takes m.text
  ⟨if printed.length = r.messages.length then r.exit else 1, printed⟩

def Fits (terminal : Terminal) (r : Report) : Prop :=
  ∀ m ∈ r.messages, terminal.takes m.text = true

theorem emit_of_fits {terminal : Terminal} {r : Report} (fits : r.Fits terminal) :
    r.emit terminal = r := by
  have all : r.messages.takeWhile (fun m => terminal.takes m.text) = r.messages := by
    rw [← List.append_nil r.messages, List.takeWhile_append_of_pos fits, List.takeWhile_nil]
  simp [emit, all]

def details (what : String) (constraints : List String) : List Message :=
  constraints.map fun c => .detail (what ++ ": " ++ c)

def failedOf (r : CheckResult) : List String :=
  (r.requirement.map Verdict.failed).getD []

def satisfiedOf (r : CheckResult) : List String :=
  (r.requirement.map Verdict.satisfied).getD []

/-- What a result adds to a report in full. -/
def extras (r : CheckResult) : List Message :=
  details "satisfied" (satisfiedOf r) ++
    if r.shownComponents.isEmpty then []
    else [.detail ("components: " ++ CheckResult.componentsText r.shownComponents)]

def ofResult (verbose : Bool) (r : CheckResult) : List Message :=
  (if r.satisfies then .good r.line else .bad r.line) ::
    (details "failed" (failedOf r) ++ if verbose then extras r else [])

/-- The messages about results, or the results as a document. -/
def ofResults (verbose json : Bool) (results : List CheckResult) : List Message :=
  if json then [.document (CheckResult.payload results)] else results.flatMap (ofResult verbose)

def exitOf (results : List CheckResult) : Nat :=
  if CheckResult.allSatisfy results then 0 else 1

end Report

namespace CommandLine

def programVersion : String := "0.1.0"

/-- What is shown if there is no configuration. -/
def usageLines : List String :=
  ["Doctor - Environment Checker",
   "No config file found. Usage:",
   "  doctor [config-file]     Verify requirements from a config file",
   "  doctor init              Write a sample doctor.toml",
   "  doctor --help            Show detailed help",
   "",
   "Supported config files:"] ++
  configNames.map ("  " ++ ·) ++
  ["",
   "Example config (doctor.toml):",
   "  [requirements]",
   "  node = \">= 18.0.0, < 23.0.0\"",
   "  git = \x7b operator = \">=\", version = \"2.0.0\" \x7d"]

def runnerOf (programs : Programs) : Runner :=
  ⟨programs, defaultLimit⟩

variable [VersionLibrary] [CharacterNames]

def resultsOf (programs : Programs) (config : Config) : List CheckResult :=
  let requirements := config.requirements.map fun r => (r.1, r.2.toValue)
  (config.registry.checkAll (runnerOf programs) requirements []).1

def reportOn (programs : Programs) (verbose json : Bool) (config : Config) : Report :=
  let results := resultsOf programs config
  let found := Message.info ("Found config file: " ++ config.source.getD "None")
  ⟨Report.exitOf results,
    (if json then [] else [found]) ++ Report.ofResults verbose json results⟩

def complain (text : String) (more : List Message) : Report :=
  ⟨2, .bad text :: more⟩

def verify (programs : Programs) (w : Workspace) (verbose : Bool) (source : Option String)
    (json : Bool) : Except LoadFault Report :=
  match Config.load w source with
  | .error (.config e) =>
    .ok (complain ("Failed to load or parse requirements: " ++ e.fault.message) [])
  | .error fault => .error fault
  | .ok none => .ok ⟨0, usageLines.map .line⟩
  | .ok (some config) => .ok (reportOn programs verbose json config)

def checkWith (programs : Programs) (verbose : Bool) (binary requirement : String) (json : Bool)
    (extra : List Checker) : Report :=
  let registry := Registry.withBuiltins extra
  if (registry.find? binary).isNone then
    complain (unknownBinaryMessage binary)
      [.info "Run \x60doctor checkers\x60 to list built-in checkers."]
  else
    let result := (registry.check (runnerOf programs) binary (.text requirement) []).1
    ⟨Report.exitOf [result], Report.ofResults verbose json [result]⟩

/-- Checks a binary; a configuration may add checkers. -/
def check (programs : Programs) (w : Workspace) (verbose : Bool) (binary requirement : String)
    (source : Option String) (json : Bool) : Except LoadFault Report :=
  match source.filter fun s => !s.isEmpty with
  | none => .ok (checkWith programs verbose binary requirement json [])
  | some source =>
    match Config.load w (some source) with
    | .error (.config e) => .ok (complain e.fault.message [])
    | .error fault => .error fault
    | .ok config =>
      let extra := (config.map fun c => c.checkers.map Prod.snd).getD []
      .ok (checkWith programs verbose binary requirement json extra)

def checkerRecord (c : Checker) : Value :=
  .record [
    ("name", .text c.name),
    ("command", .text c.executable),
    ("args", CheckResult.textList c.args),
    ("parse_version", .text c.rule.display),
    ("components", .bool c.components.isSome)]

def checkerRow (c : Checker) : List String :=
  [c.name, " ".intercalate (c.executable :: c.args), c.rule.display,
   if c.components.isSome then "yes" else "-"]

def checkers (json : Bool) : Report :=
  if json then ⟨0, [.document (.list (Builtin.all.map checkerRecord))]⟩
  else
    let head := ["Name", "Command", "Parser", "Components"]
    ⟨0, (TextTable.lines "Built-in checkers" head (Builtin.all.map checkerRow)).map .line⟩

/-- Writes the sample configuration. What a path leads to is written over only if `force`. -/
def init (path : String) (force : Bool) : Workspace.Filing Report := do
  if (← get).hasEntry path && !force then
    return ⟨1, [.info ("Config already exists: " ++ path), .info "Use --force to overwrite."]⟩
  Config.saveSample path
  return ⟨0, [.good ("Config written: " ++ path),
    .info "Next: edit the requirements and run \x60doctor\x60."]⟩

/-- An activity of a command: it may change the workspace and may end without a report. -/
abbrev Running := ExceptT LoadFault (StateM Workspace)

def runCommand (programs : Programs) (verbose : Bool) : Command → Running Report
  | .verify source json => do verify programs (← get) verbose source json
  | .check binary requirement source json => do
    check programs (← get) verbose binary requirement source json
  | .checkers json => return checkers json
  | .init path force => ExceptT.adapt LoadFault.file (init path force)

/-- Runs what a command line asks for. A command line that cannot be read is reported by the exit
code alone. -/
def run (programs : Programs) (words : List String) : Running Report :=
  match read words with
  | .error _ => return ⟨2, []⟩
  | .ok .version => return ⟨0, [.line programVersion]⟩
  | .ok .help => return ⟨0, []⟩
  | .ok (.run verbose command) => runCommand programs verbose command

def runOn (terminal : Terminal) (programs : Programs) (words : List String) : Running Report :=
  return (← run programs words).emit terminal

theorem run_runOn (terminal : Terminal) (programs : Programs) (words : List String)
    (w : Workspace) : (runOn terminal programs words).run w =
      (((run programs words).run w).1.map (Report.emit terminal),
        ((run programs words).run w).2) := by
  change ((runOn terminal programs words).run : StateM Workspace _).run w = _
  rw [runOn, ExceptT.run_bind, StateT.run_bind]
  change _ = ((((run programs words).run : StateM Workspace _).run w).1.map _,
    (((run programs words).run : StateM Workspace _).run w).2)
  rcases ((run programs words).run : StateM Workspace _).run w with ⟨outcome, _⟩
  cases outcome <;> rfl

end CommandLine

end EnvDoctor
