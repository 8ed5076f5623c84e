import EnvDoctor.Named
import EnvDoctor.Text.Blank
import EnvDoctor.Value.Basic

/-!
# Processes

The programs that can be started, and what becomes of them. A program that is not on the path is
not started; one that takes too long or cannot be started gives no output. Starting a program or
reading its output may also fail with a complaint, as it does for an argument with a null byte.
-/

namespace EnvDoctor

structure Output where
  stdout : String
  stderr : String
  code : Int
  deriving DecidableEq, Repr

/-- The text of an output: what was printed, or else the complaints, without outer blanks. -/
def Output.text (o : Output) : String :=
  let printed := Text.strip o.stdout
  if printed.isEmpty then Text.strip o.stderr else printed

inductive Ending where
  | ends (output : Output)
  | timesOut
  | cannotStart
  | breaks (complaint : String)
  deriving DecidableEq, Repr

/-- What happens to a program under its arguments. -/
abbrev Program := List String → Ending

abbrev Programs := Named Program

def programPath (command : String) : String :=
  "/bin/" ++ command

/-- A process that was started, with its time limit in seconds. -/
structure Call where
  argv : List String
  limit : Value

def defaultLimit : Value :=
  .real 10

structure Runner where
  programs : Programs
  limit : Value

namespace Runner

/-- The output of a command, if it is on the path and ends. -/
def output? (r : Runner) (command : String) (args : List String) :
    Except String (Option Output) :=
  match r.programs.find? command with
  | none => .ok none
  | some program =>
    match program args with
    | .ends output => .ok (some output)
    | .breaks complaint => .error complaint
    | .timesOut | .cannotStart => .ok none

/-- The processes that running a command starts: one if the command is on the path, whatever
becomes of it. -/
def calls (r : Runner) (command : String) (args : List String) : List Call :=
  match r.programs.find? command with
  | some _ => [⟨programPath command :: args, r.limit⟩]
  | none => []

end Runner

end EnvDoctor
