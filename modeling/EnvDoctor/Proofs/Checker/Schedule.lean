import EnvDoctor.Checker.Pool
import EnvDoctor.Proofs.Checker.Ending
import EnvDoctor.Proofs.Checker.Found
import EnvDoctor.Text.CharacterName
import EnvDoctor.Version.Strict
import Mathlib.Data.List.Basic

/-!
# Schedules

However the steps of the jobs of a pool follow one another, each job comes to the result of its
check alone, and the pool starts the same processes. A job that has taken three steps is finished.
-/

namespace EnvDoctor

variable {registry : Registry} {runner : Runner}

/-- The process that a check starts: none if the binary is not registered or its command is not on
the path. -/
def Registry.callOf? (registry : Registry) (runner : Runner) (binary : String) : Option Call := do
  let c ← registry.find? binary
  let _ ← runner.programs.find? c.executable
  return ⟨programPath c.executable :: c.args, runner.limit⟩

namespace Registry

variable {binary : String}

theorem callOf?_of_unknown (unknown : registry.find? binary = none) :
    registry.callOf? runner binary = none := by
  rw [callOf?, unknown]
  rfl

theorem toList_callOf?_of_found {c : Checker} (found : registry.find? binary = some c) :
    (registry.callOf? runner binary).toList = runner.calls c.executable c.args := by
  rw [callOf?, found, Runner.calls]
  cases placed : runner.programs.find? c.executable with
  | none =>
    simp only [Option.bind_eq_bind, Option.bind_some, placed, Option.bind_none, Option.toList_none]
  | some program =>
    simp only [Option.bind_eq_bind, Option.bind_some, placed]
    rfl

variable [VersionLibrary] [CharacterNames]

/-- Nothing is started after the command of a checker. -/
theorem log_attempt {c : Checker} (found : registry.find? binary = some c) {requirement : Value}
    (calls : List Call) :
    ((registry.attempt runner binary requirement).run.run calls).2 =
      calls ++ runner.calls c.executable c.args := by
  rw [attempt, get_of_found found, ExceptT.run_bind, StateT.run_bind]
  change ((c.run runner >>= fun _ => _).run.run calls).2 = _
  rw [ExceptT.run_bind, StateT.run_bind, run_command]
  cases runner.output? c.executable c.args with
  | error complaint => rfl
  | ok output? => cases output? <;> rfl

theorem log_check {requirement : Value} (calls : List Call) :
    ((registry.check runner binary requirement).run calls).2 =
      calls ++ (registry.callOf? runner binary).toList := by
  have logged : ((registry.attempt runner binary requirement).run.run calls).2 =
      calls ++ (registry.callOf? runner binary).toList := by
    cases found : registry.find? binary with
    | none =>
      rw [callOf?_of_unknown found, attempt, get_of_unknown found]
      exact (List.append_nil calls).symm
    | some c => rw [toList_callOf?_of_found found, log_attempt found]
  rw [check, StateT.run_bind, ← logged]
  rcases (ExceptT.run (attempt registry runner binary requirement)).run calls with ⟨outcome, log⟩
  cases outcome <;> rfl

theorem log_checkAll (requirements : Named Value) (calls : List Call) :
    ((registry.checkAll runner requirements).run calls).2 =
      calls ++ requirements.filterMap fun r => registry.callOf? runner r.1 := by
  induction requirements generalizing calls with
  | nil => exact (List.append_nil calls).symm
  | cons r rest ih =>
    have first : ((registry.checkAll runner (r :: rest)).run calls).2 =
        ((registry.checkAll runner rest).run ((registry.check runner r.1 r.2).run calls).2).2 := by
      rw [checkAll, List.mapM_cons]
      rfl
    rw [first, ih, log_check, List.append_assoc, List.filterMap_cons]
    cases registry.callOf? runner r.1 <;> rfl

end Registry

namespace Job

def entry (j : Job) : String × Value :=
  (j.binary, j.requirement)

def started (registry : Registry) (runner : Runner) (j : Job) : List Call :=
  match j.stage with
  | .waiting | .found _ => []
  | .called _ _ | .finished _ => (registry.callOf? runner j.binary).toList

/-- The steps that a job has still to take, at most. -/
def left (j : Job) : Nat :=
  match j.stage with
  | .waiting => 3
  | .found _ => 2
  | .called _ _ => 1
  | .finished _ => 0

variable [VersionLibrary] [CharacterNames]

/-- What a job knows at its stage is right. -/
inductive Sound (registry : Registry) (runner : Runner) : Job → Prop
  | waiting {binary : String} {requirement : Value} :
      Sound registry runner ⟨binary, requirement, .waiting⟩
  | found {binary : String} {requirement : Value} {c : Checker}
      (found : registry.find? binary = some c) :
      Sound registry runner ⟨binary, requirement, .found c⟩
  | called {binary : String} {requirement : Value} {c : Checker}
      (found : registry.find? binary = some c) :
      Sound registry runner ⟨binary, requirement,
        .called c ((runner.output? c.executable c.args).mapError .process)⟩
  | finished {binary : String} {requirement : Value} {r : CheckResult}
      (right : r = (registry.check runner binary requirement).result []) :
      Sound registry runner ⟨binary, requirement, .finished r⟩

/-- What a step of a job does to the job and to the log. -/
structure Advances (registry : Registry) (runner : Runner) (j : Job) (calls : List Call)
    (next : Job) (later : List Call) : Prop where
  sound : next.Sound registry runner
  entry : next.entry = j.entry
  left : next.left ≤ j.left - 1
  logged : ∃ new, later = calls ++ new ∧
    next.started registry runner = j.started registry runner ++ new

variable {j : Job}

theorem ofError_unknownBinary (unknown : registry.find? j.binary = none) :
    .ofError j.binary (CheckFault.unknownBinary j.binary).message =
      (registry.check runner j.binary j.requirement).result [] := by
  rw [Registry.result_check, Registry.attempt_of_unknown [] unknown]

theorem conclude_output {c : Checker} (found : registry.find? j.binary = some c) :
    j.conclude c ((runner.output? c.executable c.args).mapError .process) =
      (registry.check runner j.binary j.requirement).result [] := by
  rw [Registry.result_check]
  cases read : runner.output? c.executable c.args with
  | error complaint =>
    rw [Registry.attempt_of_breaks [] ⟨found, read⟩]
    rfl
  | ok output? =>
    cases output? with
    | none =>
      rw [Registry.attempt_of_silent [] ⟨found, read⟩]
      rfl
    | some output =>
      rw [Registry.attempt_of_reads [] ⟨found, read⟩]
      rfl

/-- The step lemma, by the stages. -/
theorem Sound.advances (sound : j.Sound registry runner) (calls : List Call) :
    Advances registry runner j calls ((j.advance registry runner).run calls).1
      ((j.advance registry runner).run calls).2 := by
  cases sound with
  | @waiting binary requirement =>
    cases found : registry.find? binary with
    | none =>
      rw [advance, Registry.get_of_unknown found]
      refine ⟨.finished (ofError_unknownBinary found), rfl, Nat.zero_le _, [],
        (List.append_nil _).symm, ?_⟩
      exact congrArg Option.toList (Registry.callOf?_of_unknown found)
    | some c =>
      rw [advance, Registry.get_of_found found]
      exact ⟨.found found, rfl, Nat.le_refl _, [], (List.append_nil _).symm, rfl⟩
  | found found =>
    exact ⟨.called found, rfl, Nat.le_refl _, _, rfl, Registry.toList_callOf?_of_found found⟩
  | called found =>
    exact ⟨.finished (conclude_output found), rfl, Nat.le_refl _, [], (List.append_nil _).symm,
      (List.append_nil _).symm⟩
  | finished right =>
    exact ⟨.finished right, rfl, Nat.le_refl _, [], (List.append_nil _).symm,
      (List.append_nil _).symm⟩

theorem Sound.result?_eq (sound : j.Sound registry runner) (finished : j.left = 0) :
    j.result? = some ((registry.check runner j.binary j.requirement).result []) ∧
      j.started registry runner = (registry.callOf? runner j.binary).toList := by
  cases sound with
  | waiting | found | called => cases finished
  | finished right => exact ⟨congrArg some right, rfl⟩

omit [VersionLibrary] [CharacterNames] in
theorem left_eq_zero {r : CheckResult} (done : j.result? = some r) : j.left = 0 := by
  obtain ⟨binary, requirement, stage⟩ := j
  cases stage with
  | waiting | found | called => cases done
  | finished => rfl

end Job

namespace Pool

section Library

variable [VersionLibrary] [CharacterNames] {requirements : Named Value} {p : Pool}

/-- What holds of a pool for requirements at all times. -/
structure Consistent (registry : Registry) (runner : Runner) (requirements : Named Value)
    (p : Pool) : Prop where
  sound : ∀ j ∈ p.jobs, j.Sound registry runner
  entries : p.jobs.map Job.entry = requirements
  logged : p.log.Perm (p.jobs.flatMap (Job.started registry runner))

def left (p : Pool) (place : Nat) : Nat :=
  (p.jobs[place]?.map Job.left).getD 0

theorem consistent_start : Consistent registry runner requirements (start requirements) := by
  refine ⟨?_, ?_, ?_⟩
  · intro j among
    obtain ⟨entry, -, rfl⟩ := List.mem_map.mp among
    exact .waiting
  · rw [start, List.map_map]
    exact List.map_id requirements
  · have none_started :
        (requirements.map Job.start).flatMap (Job.started registry runner) = [] := by
      rw [List.flatMap_map]
      exact List.flatMap_eq_nil_iff.mpr fun _ _ => rfl
    rw [start, none_started]

theorem step_of_getElem?_eq_none {place : Nat} (outside : p.jobs[place]? = none) :
    p.step registry runner place = p := by
  rw [step, outside]

theorem step_of_getElem?_eq_some {place : Nat} {j : Job} (stands : p.jobs[place]? = some j) :
    p.step registry runner place =
      ⟨p.jobs.set place ((j.advance registry runner).run p.log).1,
        ((j.advance registry runner).run p.log).2⟩ := by
  rw [step, stands]
  rfl

theorem Consistent.replace {before after : List Job} {j next : Job} {calls later : List Call}
    (consistent : Consistent registry runner requirements ⟨before ++ j :: after, calls⟩)
    (advances : j.Advances registry runner calls next later) :
    Consistent registry runner requirements ⟨before ++ next :: after, later⟩ := by
  obtain ⟨sound, entries, logged⟩ := consistent
  obtain ⟨now, same, -, new, rfl, started⟩ := advances
  refine ⟨?_, ?_, ?_⟩
  · intro k among
    rcases List.mem_append.mp among with earlier | among
    · exact sound k (List.mem_append_left _ earlier)
    · rcases List.mem_cons.mp among with rfl | behind
      · exact now
      · exact sound k (List.mem_append_right _ (List.mem_cons_of_mem _ behind))
  · rw [← entries, List.map_append, List.map_append, List.map_cons, List.map_cons, same]
  · -- The new processes stand at the end of the log, but belong to a job in the middle.
    rw [List.flatMap_append, List.flatMap_cons] at logged ⊢
    have moved : (after.flatMap (Job.started registry runner) ++ new).Perm
        (new ++ after.flatMap (Job.started registry runner)) := List.perm_append_comm
    refine (logged.append_right new).trans ?_
    rw [started]
    simp only [List.append_assoc]
    exact (moved.append_left _).append_left _

/-- The step lemma: one job advances, and the others stay as they are. -/
theorem Consistent.step (consistent : Consistent registry runner requirements p) (place : Nat) :
    Consistent registry runner requirements (p.step registry runner place) := by
  cases stands : p.jobs[place]? with
  | none => rwa [step_of_getElem?_eq_none stands]
  | some j =>
    obtain ⟨inside, here⟩ := List.getElem?_eq_some_iff.mp stands
    rw [step_of_getElem?_eq_some stands]
    obtain ⟨before, after, jobs, -, replaced⟩ : ∃ before after,
        p.jobs = before ++ p.jobs[place] :: after ∧ before.length = place ∧
          p.jobs.set place ((j.advance registry runner).run p.log).1 =
            before ++ ((j.advance registry runner).run p.log).1 :: after :=
      List.exists_of_set inside
    rw [here] at jobs
    rw [replaced]
    have stepping : Consistent registry runner requirements ⟨before ++ j :: after, p.log⟩ := by
      rwa [← jobs]
    exact stepping.replace ((stepping.sound j (by simp)).advances p.log)

theorem Consistent.run (consistent : Consistent registry runner requirements p)
    (schedule : List Nat) :
    Consistent registry runner requirements (p.run registry runner schedule) := by
  induction schedule generalizing p with
  | nil => exact consistent
  | cons place rest ih => exact ih (consistent.step place)

theorem Consistent.left_step (consistent : Consistent registry runner requirements p)
    (place other : Nat) :
    (p.step registry runner place).left other ≤
      p.left other - if place = other then 1 else 0 := by
  cases stands : p.jobs[place]? with
  | none =>
    rw [step_of_getElem?_eq_none stands]
    split
    next same =>
      subst same
      rw [left, stands]
      exact Nat.le_refl _
    next => exact Nat.le_refl _
  | some j =>
    obtain ⟨inside, rfl⟩ := List.getElem?_eq_some_iff.mp stands
    have advances := (consistent.sound _ (List.getElem_mem inside)).advances p.log
    rw [step_of_getElem?_eq_some stands, left, left, List.getElem?_set]
    split
    next same =>
      subst same
      rw [stands]
      exact advances.left
    next => exact Nat.le_refl _

theorem Consistent.left_run (consistent : Consistent registry runner requirements p)
    (schedule : List Nat) (place : Nat) :
    (p.run registry runner schedule).left place ≤ p.left place - schedule.count place := by
  induction schedule generalizing p with
  | nil => exact Nat.le_refl _
  | cons first rest ih =>
    have stepped := consistent.left_step first place
    have later := ih (consistent.step first)
    rw [List.count_cons]
    simp only [beq_iff_eq]
    rw [Pool.run, List.foldl_cons, ← Pool.run]
    omega

omit [VersionLibrary] [CharacterNames] in
theorem results?_eq_some_iff {results : List CheckResult} :
    p.results? = some results ↔ p.jobs.map Job.result? = results.map some := by
  rw [results?]
  generalize p.jobs = jobs
  induction jobs generalizing results with
  | nil => cases results <;> simp
  | cons j rest ih =>
    rw [List.mapM_cons]
    cases results with
    | nil => simp [Option.bind_eq_some_iff]
    | cons r results => simp [Option.bind_eq_some_iff, ih]

/-- A pool whose jobs are all finished has the results of the checks alone and has started their
processes. -/
theorem Consistent.settled (consistent : Consistent registry runner requirements p)
    (finished : ∀ j ∈ p.jobs, j.left = 0) :
    p.results? = some (requirements.map fun r => (registry.check runner r.1 r.2).result []) ∧
      p.log.Perm (requirements.filterMap fun r => registry.callOf? runner r.1) := by
  obtain ⟨sound, rfl, logged⟩ := consistent
  have ended : ∀ j ∈ p.jobs, _ := fun j among => (sound j among).result?_eq (finished j among)
  refine ⟨?_, ?_⟩
  · rw [results?_eq_some_iff, List.map_map, List.map_map]
    exact List.map_congr_left fun j among => (ended j among).1
  · rw [List.filterMap_map, List.filterMap_eq_flatMap_toList]
    have same : p.jobs.flatMap (Job.started registry runner) =
        p.jobs.flatMap fun j => (registry.callOf? runner j.binary).toList :=
      List.flatMap_congr fun j among => (ended j among).2
    rwa [same] at logged

omit [VersionLibrary] [CharacterNames] in
theorem left_start_le (place : Nat) : (start requirements).left place ≤ 3 := by
  rw [left, start, List.getElem?_map]
  cases requirements[place]? with
  | none => exact Nat.zero_le _
  | some entry => exact Nat.le_refl _

/-- Scheduling does not matter. Where every job takes three steps or more, the pool has results;
and where it has results, they are those of the checks alone, in the order of the requirements, and
the processes that were started are those of the checks, whatever the order of the steps. -/
theorem run_settles (registry : Registry) (runner : Runner) (requirements : Named Value)
    (schedule : List Nat) :
    let ended := (start requirements).run registry runner schedule
    ((∀ place < requirements.length, 3 ≤ schedule.count place) → ended.results?.isSome) ∧
    ∀ results ∈ ended.results?,
      results = (requirements.map fun r => (registry.check runner r.1 r.2).result []) ∧
      results = (registry.checkAll runner requirements).result [] ∧
      ended.log.Perm (requirements.filterMap fun r => registry.callOf? runner r.1) ∧
      ended.log.Perm ((registry.checkAll runner requirements).run []).2 := by
  intro ended
  have reached : Consistent registry runner requirements ended := consistent_start.run schedule
  have length_jobs : ended.jobs.length = requirements.length := by
    rw [← reached.entries, List.length_map]
  refine ⟨?_, ?_⟩
  · intro complete
    have finished : ∀ j ∈ ended.jobs, j.left = 0 := by
      intro j among
      obtain ⟨place, inside, rfl⟩ := List.mem_iff_getElem.mp among
      have taken := complete place (length_jobs ▸ inside)
      have remaining : ended.left place ≤ (start requirements).left place - schedule.count place :=
        consistent_start.left_run schedule place
      have atMost : (start requirements).left place ≤ 3 := left_start_le place
      have here : ended.left place = (ended.jobs[place]).left := by
        rw [left, List.getElem?_eq_getElem inside]
        rfl
      omega
    rw [(reached.settled finished).1]
    rfl
  · intro results given
    have finished : ∀ j ∈ ended.jobs, j.left = 0 := by
      intro j among
      have shown := List.mem_map_of_mem (f := Job.result?) among
      rw [results?_eq_some_iff.mp given] at shown
      obtain ⟨r, -, done⟩ := List.mem_map.mp shown
      exact Job.left_eq_zero done.symm
    obtain ⟨outcome, logged⟩ := reached.settled finished
    obtain rfl := Option.some.inj (given.symm.trans outcome)
    refine ⟨rfl, ?_, logged, ?_⟩
    · rw [Registry.result_checkAll]
    · rwa [Registry.log_checkAll, List.nil_append]

end Library

theorem run_settles_interleaved :
    let ended := (start [("tool", .text ">=1"), ("other", .null)]).run
      (.ofList [wordChecker]) wordRunner [1, 0, 0, 1, 0, 1]
    ∃ results, ended.results? = some results ∧
      ended.log.Perm [⟨["/bin/tool", "--version"], defaultLimit⟩] := by
  intro ended
  obtain ⟨settles, agrees⟩ := run_settles (.ofList [wordChecker]) wordRunner
    [("tool", .text ">=1"), ("other", .null)] [1, 0, 0, 1, 0, 1]
  obtain ⟨results, given⟩ := Option.isSome_iff_exists.mp (settles (by decide))
  exact ⟨results, given, (agrees results given).2.2.1⟩

end Pool

end EnvDoctor
