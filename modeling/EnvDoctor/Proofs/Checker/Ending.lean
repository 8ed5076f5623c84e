import EnvDoctor.Checker.Check
import EnvDoctor.Proofs.Outcome

/-!
# How checks end

All activities of a registry begin alike: a checker is looked up and its command is run. What they
give is determined by the checker and by the output of its command, and not by what was started
before. A check has eight endings, one for each step that may be its last.
-/

namespace EnvDoctor

/-- What an activity gives after the given processes were started. -/
def Logged.result {α : Type} (x : Logged α) (calls : List Call) : α :=
  (x.run calls).1

/-- What an activity that may fail gives after the given processes were started. -/
def Checking.answer {α : Type} (x : Checking α) (calls : List Call) : Except CheckFault α :=
  Logged.result x.run calls

namespace Registry

variable {registry : Registry} {runner : Runner} {binary : String} {requirement : Value}
  {c : Checker} {output : Output}

structure Breaks (registry : Registry) (runner : Runner) (binary : String) (c : Checker)
    (complaint : String) : Prop where
  found : registry.find? binary = some c
  broken : runner.output? c.executable c.args = .error complaint

structure Silent (registry : Registry) (runner : Runner) (binary : String) (c : Checker) :
    Prop where
  found : registry.find? binary = some c
  unread : runner.output? c.executable c.args = .ok none

structure Reads (registry : Registry) (runner : Runner) (binary : String) (c : Checker)
    (output : Output) : Prop where
  found : registry.find? binary = some c
  read : runner.output? c.executable c.args = .ok (some output)

/-- What comes of looking up a checker and running its command. -/
inductive Begins (registry : Registry) (runner : Runner) (binary : String) : Prop
  | unknown : registry.find? binary = none → Begins registry runner binary
  | broken {c : Checker} {complaint : String} :
      Breaks registry runner binary c complaint → Begins registry runner binary
  | silent {c : Checker} : Silent registry runner binary c → Begins registry runner binary
  | reads {c : Checker} {output : Output} :
      Reads registry runner binary c output → Begins registry runner binary

theorem begins (registry : Registry) (runner : Runner) (binary : String) :
    Begins registry runner binary := by
  cases found : registry.find? binary with
  | none => exact .unknown found
  | some c =>
    cases read : runner.output? c.executable c.args with
    | error complaint => exact .broken ⟨found, read⟩
    | ok output? =>
      cases output? with
      | none => exact .silent ⟨found, read⟩
      | some output => exact .reads ⟨found, read⟩

section Library

variable [VersionLibrary] [CharacterNames]

/-- The endings of a check, with the results to which they lead. -/
inductive Ends (registry : Registry) (runner : Runner) (binary : String) (requirement : Value) :
    CheckResult → Prop
  | unknown : registry.find? binary = none →
      Ends registry runner binary requirement (.ofError binary (unknownBinaryMessage binary))
  | broken {c : Checker} {complaint : String} : Breaks registry runner binary c complaint →
      Ends registry runner binary requirement (.ofError binary complaint)
  | silent {c : Checker} : Silent registry runner binary c →
      Ends registry runner binary requirement (.ofError binary (notFoundMessage binary))
  | rule {c : Checker} {output : Output} {fault : RuleFault} :
      Reads registry runner binary c output → extractVersion c.rule output.text = .error fault →
      Ends registry runner binary requirement (.ofError binary fault.message)
  | versionless {c : Checker} {output : Output} :
      Reads registry runner binary c output → extractVersion c.rule output.text = .ok none →
      Ends registry runner binary requirement (.ofError binary (notFoundMessage binary))
  | requirement {c : Checker} {output : Output} {version : String} {fault : RequirementFault} :
      Reads registry runner binary c output →
      extractVersion c.rule output.text = .ok (some version) →
      Constraint.listOfValue requirement = .error fault →
      Ends registry runner binary requirement (.ofError binary fault.message)
  | components {c : Checker} {output : Output} {version : String} {constraints : List Constraint}
      {fault : ComponentsFault} :
      Reads registry runner binary c output →
      extractVersion c.rule output.text = .ok (some version) →
      Constraint.listOfValue requirement = .ok constraints →
      extractComponents c.components output.text = .error fault →
      Ends registry runner binary requirement (.ofError binary fault.message)
  | judged {c : Checker} {output : Output} {version : String} {constraints : List Constraint}
      {components : Option (Named String)} :
      Reads registry runner binary c output →
      extractVersion c.rule output.text = .ok (some version) →
      Constraint.listOfValue requirement = .ok constraints →
      extractComponents c.components output.text = .ok components →
      Ends registry runner binary requirement
        (.ofVerdict binary version (Verdict.ofConstraints (.text version) constraints) components)

end Library

section Activities

variable (calls : List Call)

theorem get_of_unknown (unknown : registry.find? binary = none) :
    registry.get binary = .error (.unknownBinary binary) := by
  rw [get, unknown]

theorem get_of_found (found : registry.find? binary = some c) : registry.get binary = .ok c := by
  rw [get, found]

theorem answer_get {α : Type} (found : registry.find? binary = some c)
    (next : Checker → Checking α) :
    Checking.answer (do next (← registry.get binary)) calls = (next c).answer calls := by
  rw [get_of_found found]
  rfl

/-- What running a command gives, and the processes that are started then. -/
theorem run_command (c : Checker) (runner : Runner) :
    ((c.run runner).run).run calls =
      ((runner.output? c.executable c.args).mapError .process,
        calls ++ runner.calls c.executable c.args) := rfl

theorem answer_command {α : Type} {output : Option Output}
    (given : runner.output? c.executable c.args = .ok output)
    (next : Option Output → Checking α) :
    Checking.answer (do next (← c.run runner)) calls =
      (next output).answer (calls ++ runner.calls c.executable c.args) := by
  unfold Checking.answer Logged.result
  rw [ExceptT.run_bind, StateT.run_bind, run_command, given]
  rfl

theorem answer_command_of_error {α : Type} {complaint : String}
    (broken : runner.output? c.executable c.args = .error complaint)
    (next : Option Output → Checking α) :
    Checking.answer (do next (← c.run runner)) calls = .error (.process complaint) := by
  unfold Checking.answer Logged.result
  rw [ExceptT.run_bind, StateT.run_bind, run_command, broken]
  rfl

section Run

variable {α : Type} (next : Checker → Option Output → Checking α)

theorem answer_run_of_breaks {complaint : String}
    (breaks : Breaks registry runner binary c complaint) :
    Checking.answer (do
      let c ← registry.get binary
      next c (← c.run runner)) calls = .error (.process complaint) :=
  (answer_get calls breaks.found _).trans (answer_command_of_error calls breaks.broken (next c))

theorem answer_run_of_silent (silent : Silent registry runner binary c) :
    Checking.answer (do
      let c ← registry.get binary
      next c (← c.run runner)) calls =
      (next c none).answer (calls ++ runner.calls c.executable c.args) :=
  (answer_get calls silent.found _).trans (answer_command calls silent.unread (next c))

theorem answer_run_of_reads (reads : Reads registry runner binary c output) :
    Checking.answer (do
      let c ← registry.get binary
      next c (← c.run runner)) calls =
      (next c (some output)).answer (calls ++ runner.calls c.executable c.args) :=
  (answer_get calls reads.found _).trans (answer_command calls reads.read (next c))

end Run

theorem componentsOf_of_reads (reads : Reads registry runner binary c output) :
    (registry.componentsOf runner binary).answer calls =
      (extractComponents c.components output.text).mapError CheckFault.components := by
  refine (answer_get calls reads.found _).trans ?_
  -- Without a routine no command is run, and its output would not be used.
  cases c.components with
  | none => rfl
  | some routine => exact answer_command calls reads.read _

variable [CharacterNames]

theorem currentVersion_of_unknown (unknown : registry.find? binary = none) :
    (registry.currentVersion runner binary).answer calls = .error (.unknownBinary binary) := by
  rw [currentVersion, get_of_unknown unknown]
  rfl

theorem currentVersion_of_breaks {complaint : String}
    (breaks : Breaks registry runner binary c complaint) :
    (registry.currentVersion runner binary).answer calls = .error (.process complaint) :=
  answer_run_of_breaks calls _ breaks

theorem currentVersion_of_silent (silent : Silent registry runner binary c) :
    (registry.currentVersion runner binary).answer calls = .ok none :=
  answer_run_of_silent calls _ silent

theorem currentVersion_of_reads (reads : Reads registry runner binary c output) :
    (registry.currentVersion runner binary).answer calls =
      (extractVersion c.rule output.text).mapError CheckFault.rule :=
  answer_run_of_reads calls _ reads

variable [VersionLibrary]

theorem attempt_of_unknown (unknown : registry.find? binary = none) :
    (registry.attempt runner binary requirement).answer calls =
      .error (.unknownBinary binary) := by
  rw [attempt, get_of_unknown unknown]
  rfl

theorem attempt_of_breaks {complaint : String}
    (breaks : Breaks registry runner binary c complaint) :
    (registry.attempt runner binary requirement).answer calls = .error (.process complaint) :=
  answer_run_of_breaks calls _ breaks

theorem attempt_of_silent (silent : Silent registry runner binary c) :
    (registry.attempt runner binary requirement).answer calls =
      .ok (.ofError binary (notFoundMessage binary)) :=
  answer_run_of_silent calls _ silent

theorem attempt_of_reads (reads : Reads registry runner binary c output) :
    (registry.attempt runner binary requirement).answer calls =
      judge c binary requirement output :=
  answer_run_of_reads calls _ reads

theorem result_check :
    (registry.check runner binary requirement).result calls =
      match (registry.attempt runner binary requirement).answer calls with
      | .ok result => result
      | .error fault => .ofError binary fault.message := by
  rw [check, Checking.answer, Logged.result, Logged.result, StateT.run_bind]
  rcases (ExceptT.run (attempt registry runner binary requirement)).run calls with ⟨outcome, _⟩
  cases outcome <;> rfl

/-- Every check comes to one of its endings. -/
theorem ends_check :
    Ends registry runner binary requirement
      ((registry.check runner binary requirement).result calls) := by
  rw [result_check]
  cases begins registry runner binary with
  | unknown unknown =>
    rw [attempt_of_unknown calls unknown]
    exact .unknown unknown
  | broken breaks =>
    rw [attempt_of_breaks calls breaks]
    exact .broken breaks
  | silent silent =>
    rw [attempt_of_silent calls silent]
    exact .silent silent
  | @reads c output reads =>
    rw [attempt_of_reads calls reads, judge]
    cases extracted : extractVersion c.rule output.text with
    | error fault => exact .rule reads extracted
    | ok found =>
      cases found with
      | none => exact .versionless reads extracted
      | some version =>
        cases listed : Constraint.listOfValue requirement with
        | error fault => exact .requirement reads extracted listed
        | ok constraints =>
          cases parts : extractComponents c.components output.text with
          | error fault => exact .components reads extracted listed parts
          | ok components => exact .judged reads extracted listed parts

theorem Ends.binary_eq {r : CheckResult} (ends : Ends registry runner binary requirement r) :
    r.binary = binary := by
  cases ends <;> rfl

/-- What a check gives does not depend on what was started before. -/
theorem result_check_eq (earlier : List Call) :
    (registry.check runner binary requirement).result calls =
      (registry.check runner binary requirement).result earlier := by
  have attempted : (registry.attempt runner binary requirement).answer calls =
      (registry.attempt runner binary requirement).answer earlier := by
    cases begins registry runner binary with
    | unknown unknown => rw [attempt_of_unknown calls unknown, attempt_of_unknown earlier unknown]
    | broken breaks => rw [attempt_of_breaks calls breaks, attempt_of_breaks earlier breaks]
    | silent silent => rw [attempt_of_silent calls silent, attempt_of_silent earlier silent]
    | reads reads => rw [attempt_of_reads calls reads, attempt_of_reads earlier reads]
  rw [result_check, result_check, attempted]

/-- A check of several binaries gives what checks of each of them give. -/
theorem result_checkAll (requirements : Named Value) :
    (registry.checkAll runner requirements).result calls =
      requirements.map fun r => (registry.check runner r.1 r.2).result calls := by
  induction requirements generalizing calls with
  | nil => rfl
  | cons r rest ih =>
    have later : (registry.checkAll runner rest).result
          ((registry.check runner r.1 r.2).run calls).2 =
        rest.map fun r => (registry.check runner r.1 r.2).result calls := by
      rw [ih]
      exact List.map_congr_left fun s _ => result_check_eq _ calls
    rw [List.map_cons, ← later, checkAll, List.mapM_cons]
    rfl

theorem ends_of_mem_checkAll {requirements : Named Value} {r : CheckResult}
    (among : r ∈ (registry.checkAll runner requirements).result calls) :
    ∃ entry ∈ requirements, Ends registry runner entry.1 entry.2 r := by
  rw [result_checkAll] at among
  obtain ⟨entry, held, rfl⟩ := List.mem_map.mp among
  exact ⟨entry, held, ends_check calls⟩

theorem binaries_checkAll (requirements : Named Value) :
    ((registry.checkAll runner requirements).result calls).map CheckResult.binary =
      requirements.names := by
  rw [result_checkAll, List.map_map]
  exact List.map_congr_left fun entry _ => (ends_check calls).binary_eq

end Activities

end Registry

end EnvDoctor
