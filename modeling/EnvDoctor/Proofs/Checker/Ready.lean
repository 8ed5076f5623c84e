import EnvDoctor.Proofs.Checker.Ending
import EnvDoctor.Proofs.Checker.Extraction
import EnvDoctor.Proofs.Checker.Found

/-!
# Registries that are ready

A registry is ready if the rules of its checkers can be used. Then a check against a requirement
that can be read fails in two ways only, unless it is disturbed from outside: the binary is not
registered, or it has no version. Programs that do not break and routines that give what they are
asked for disturb no check. The rules of the built-in checkers can be used.
-/

namespace EnvDoctor

theorem notFoundMessage_ne_unknownBinaryMessage (binary other : String) :
    notFoundMessage binary ≠ unknownBinaryMessage other := by
  intro same
  have first := congrArg (fun s : String => s.toList.head?) same
  unfold notFoundMessage unknownBinaryMessage at first
  simp at first

/-- Every program ends, takes too long or cannot be started. -/
def Runner.NeverBreaks (runner : Runner) : Prop :=
  ∀ entry ∈ runner.programs, ∀ args complaint, entry.2 args ≠ .breaks complaint

theorem Runner.NeverBreaks.output?_ne_error {runner : Runner} (steady : runner.NeverBreaks)
    (command : String) (args : List String) (complaint : String) :
    runner.output? command args ≠ .error complaint := by
  unfold output?
  split
  next => nofun
  next program found =>
    have whole := steady (command, program) (Named.mem_of_find? found) args
    split
    next => nofun
    next breaks => exact absurd breaks (whole _)
    next => nofun
    next => nofun

section Names

variable [CharacterNames]

def Checker.Usable (c : Checker) : Prop :=
  ∃ run, c.rule.resolve = .ok run

/-- Patterns find texts, so that only what a routine gives cannot be written. -/
theorem Checker.Usable.exists_routine_of_fault {c : Checker} (usable : c.Usable) {output : String}
    {fault : RuleFault} (failed : extractVersion c.rule output = .error fault) :
    ∃ routine, c.rule = .routine routine ∧ ∃ v ∈ routine.run output, v.holdsLong = true := by
  obtain ⟨run, usable⟩ := usable
  rw [extractVersion, usable] at failed
  obtain ⟨v, found, long⟩ := exists_holdsLong_of_versionOfFound failed
  have searched (p : Pattern) : (Rule.searchValue p output).holdsLong = false := by
    unfold Rule.searchValue
    split <;> rw [Value.holdsLong.eq_def]
  have notSearched (p : Pattern) (same : run = fun o => some (Rule.searchValue p o)) : False := by
    subst same
    cases found
    rw [searched p] at long
    cases long
  cases given : c.rule with
  | pattern p =>
    rw [given] at usable
    exact (notSearched p (Except.ok.inj usable).symm).elim
  | text source =>
    rw [given, Rule.resolve] at usable
    split at usable
    next p _ => exact (notSearched p (Except.ok.inj usable).symm).elim
    next => cases usable
  | routine r =>
    rw [given] at usable
    cases usable
    exact ⟨r, rfl, v, found, long⟩
  | unsupported kind =>
    rw [given] at usable
    cases usable

/-- The patterns of the built-in checkers can be used whatever characters are called. -/
theorem Builtin.usable_of_mem_all : ∀ c ∈ all, c.Usable := by
  have plain {name : String} {p : Pattern} : (Checker.ofRule name (.pattern p)).Usable := ⟨_, rfl⟩
  have npm : npm.Usable := by
    change ∃ run, Rule.resolve (.text (tripleAfter "").source) = .ok run
    cases compiled : Pattern.compile (tripleAfter "").source with
    | error fault =>
      have known := compile_source (tripleAfter "") (by simp)
      rw [compiled] at known
      cases known
    | ok p =>
      rw [Rule.resolve, compiled]
      exact ⟨_, rfl⟩
  have docker : docker.Usable := ⟨_, rfl⟩
  simp only [all, List.forall_mem_cons]
  exact ⟨plain, npm, plain, plain, docker, plain, plain, plain, List.forall_mem_nil _⟩

end Names

/-- Of the built-in checkers only Docker has routines. -/
theorem Builtin.conforms_of_mem_all : ∀ c ∈ all, c.Conforms := by
  have plain {name : String} {p : Pattern} : (Checker.ofRule name (.pattern p)).Conforms :=
    ⟨nofun, nofun⟩
  have npm : npm.Conforms := ⟨nofun, nofun⟩
  have docker : docker.Conforms := by
    constructor
    · rintro _ ⟨⟩
      exact Docker.versionRoutine_writable
    · rintro _ ⟨⟩
      exact ⟨Docker.componentsRoutine_givesTables, Docker.componentsRoutine_writable⟩
  simp only [all, List.forall_mem_cons]
  exact ⟨plain, npm, plain, plain, docker, plain, plain, plain, List.forall_mem_nil _⟩

namespace Registry

variable {registry : Registry} {runner : Runner} {binary : String} {requirement : Value}

/-- What a check is disturbed by from outside: its program breaks, or a routine of its checker gives
something that cannot be written, or something else than a table for components. -/
inductive Disturbed (registry : Registry) (runner : Runner) (binary : String) : Prop
  | program {c : Checker} {complaint : String} :
      Breaks registry runner binary c complaint → Disturbed registry runner binary
  | version {c : Checker} {output : Output} {routine : Routine} {v : Value} :
      Reads registry runner binary c output → c.rule = .routine routine →
      v ∈ routine.run output.text → v.holdsLong = true → Disturbed registry runner binary
  | components {c : Checker} {output : Output} {routine : Routine} {v : Value} :
      Reads registry runner binary c output → routine ∈ c.components →
      v ∈ routine.run output.text → v.holdsLong = true ∨ ¬ (v = .null ∨ v.IsTable) →
      Disturbed registry runner binary

theorem not_disturbed_of_conforms (conforms : ∀ c ∈ registry.find? binary, c.Conforms)
    (steady : runner.NeverBreaks) : ¬ Disturbed registry runner binary := by
  intro disturbed
  cases disturbed with
  | program breaks => exact steady.output?_ne_error _ _ _ breaks.broken
  | version reads isRoutine held long =>
    rw [(conforms _ reads.found).version _ isRoutine _ _ held] at long
    cases long
  | components reads given held fault =>
    obtain ⟨tables, writable⟩ := (conforms _ reads.found).components _ given
    rcases fault with long | notTable
    · rw [writable _ _ held] at long
      cases long
    · exact notTable (tables _ _ held)

theorem conforms_withBuiltins {cs : List Checker} (conforms : ∀ c ∈ cs, c.Conforms) :
    ∀ c ∈ (withBuiltins cs).find? binary, c.Conforms := by
  intro c found
  exact (mem_of_find?_withBuiltins found).elim (conforms c) (Builtin.conforms_of_mem_all c)

section Names

variable [CharacterNames]

/-- All checkers that are registered have rules that can be used. -/
def Ready (registry : Registry) : Prop :=
  ∀ binary, ∀ c ∈ registry.find? binary, c.Usable

theorem ready_withBuiltins {cs : List Checker} (usable : ∀ c ∈ cs, c.Usable) :
    (withBuiltins cs).Ready := by
  intro binary c found
  exact (mem_of_find?_withBuiltins found).elim (usable c) (Builtin.usable_of_mem_all c)

variable [VersionLibrary]

/-- In a registry that is ready, a check finds the binary unknown, finds no version or comes to a
verdict, unless it is disturbed from outside. -/
theorem Ends.error_of_ready {r : CheckResult} (ends : Ends registry runner binary requirement r)
    (ready : registry.Ready) {constraints : List Constraint}
    (readable : Constraint.listOfValue requirement = .ok constraints)
    (undisturbed : ¬ Disturbed registry runner binary) :
    registry.find? binary = none ∧ r.error = some (unknownBinaryMessage binary) ∨
      registry.find? binary ≠ none ∧ (r.error = none ∨ r.error = some (notFoundMessage binary)) := by
  have known {c : Checker} (found : registry.find? binary = some c) :
      registry.find? binary ≠ none := by
    rw [found]
    nofun
  cases ends with
  | unknown unknown => exact .inl ⟨unknown, rfl⟩
  | broken breaks => exact absurd (.program breaks) undisturbed
  | silent silent => exact .inr ⟨known silent.found, .inr rfl⟩
  | rule reads failed =>
    obtain ⟨routine, isRoutine, v, held, long⟩ :=
      (ready _ _ reads.found).exists_routine_of_fault failed
    exact absurd (.version reads isRoutine held long) undisturbed
  | versionless reads => exact .inr ⟨known reads.found, .inr rfl⟩
  | requirement _ _ failed => cases readable.symm.trans failed
  | components reads _ _ failed =>
    unfold extractComponents at failed
    split at failed
    next => cases failed
    next routine given =>
      obtain ⟨v, held, fault⟩ := long_or_notTable_of_componentsOfFound failed
      exact absurd (.components reads given held (fault.imp_right And.left)) undisturbed
  | judged reads => exact .inr ⟨known reads.found, .inl rfl⟩

end Names

end Registry

end EnvDoctor
