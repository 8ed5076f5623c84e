import EnvDoctor.Checker.Check

/-!
# Pools

The checks of several binaries may run side by side. Each is a job that goes on step by step: it
looks up the checker, runs the command and judges the output. A schedule says which job takes the
next step. The jobs share the log of the processes that are started and nothing else.
`Registry.checkAll` is the schedule that takes the jobs one after the other.
-/

namespace EnvDoctor

/-- How far the check of a binary has come. -/
inductive Stage where
  | waiting
  | found (c : Checker)
  | called (c : Checker) (output : Except CheckFault (Option Output))
  | finished (result : CheckResult)

structure Job where
  binary : String
  requirement : Value
  stage : Stage

namespace Job

variable [VersionLibrary] [CharacterNames]

def start (entry : String × Value) : Job :=
  ⟨entry.1, entry.2, .waiting⟩

def conclude (j : Job) (c : Checker) : Except CheckFault (Option Output) → CheckResult
  | .error fault => .ofError j.binary fault.message
  | .ok none => .ofError j.binary (notFoundMessage j.binary)
  | .ok (some output) =>
    match Registry.judge c j.binary j.requirement output with
    | .ok result => result
    | .error fault => .ofError j.binary fault.message

/-- Takes the next step of a job. A job that is finished stays as it is. -/
def advance (registry : Registry) (runner : Runner) (j : Job) : Logged Job :=
  match j.stage with
  | .waiting =>
    match registry.get j.binary with
    | .ok c => return { j with stage := .found c }
    | .error fault => return { j with stage := .finished (.ofError j.binary fault.message) }
  | .found c => return { j with stage := .called c (← (c.run runner).run) }
  | .called c output => return { j with stage := .finished (j.conclude c output) }
  | .finished _ => return j

def result? (j : Job) : Option CheckResult :=
  match j.stage with
  | .finished result => some result
  | _ => none

end Job

/-- Jobs with the processes that they have started. -/
structure Pool where
  jobs : List Job
  log : List Call

namespace Pool

variable [VersionLibrary] [CharacterNames]

def start (requirements : Named Value) : Pool :=
  ⟨requirements.map Job.start, []⟩

def step (registry : Registry) (runner : Runner) (p : Pool) (place : Nat) : Pool :=
  match p.jobs[place]? with
  | none => p
  | some j =>
    let (j, log) := (j.advance registry runner).run p.log
    ⟨p.jobs.set place j, log⟩

/-- The jobs at the places of a schedule take their steps one after the other. -/
def run (registry : Registry) (runner : Runner) (p : Pool) (schedule : List Nat) : Pool :=
  schedule.foldl (step registry runner) p

def results? (p : Pool) : Option (List CheckResult) :=
  p.jobs.mapM Job.result?

end Pool

end EnvDoctor
