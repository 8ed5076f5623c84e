import EnvDoctor.Checker.Session
import EnvDoctor.Proofs.Checker.Ending

/-!
# Registries over whole sessions

A name stands where it was registered first and means what was registered under it last. Every
addition keeps this, and nothing but an addition changes a registry.
-/

namespace EnvDoctor

theorem eraseDups_append_singleton (names : List String) (name : String) :
    (names ++ [name]).eraseDups =
      if name ∈ names then names.eraseDups else names.eraseDups ++ [name] := by
  rw [List.eraseDups_append]
  by_cases known : name ∈ names
  · simp [List.removeAll, known]
  · simp [List.removeAll, known, List.eraseDups_cons]

namespace Registry

/-- A registry is what the checkers make of it that were registered so far. -/
structure Registers (cs : List Checker) (r : Registry) : Prop where
  distinct : r.names.Nodup
  names : r.names = (cs.map Checker.name).eraseDups
  keyed : ∀ entry ∈ r.checkers, entry.2.name = entry.1
  latest : ∀ binary, r.find? binary = cs.reverse.find? (·.name == binary)

variable {cs : List Checker} {r : Registry} {c : Checker}

theorem registers_empty : Registers [] empty where
  distinct := List.nodup_nil
  names := rfl
  keyed := List.forall_mem_nil _
  latest _ := rfl

theorem Registers.add (registers : Registers cs r) (c : Checker) :
    Registers (cs ++ [c]) (r.add c) := by
  have known : c.name ∈ r.names ↔ c.name ∈ cs.map Checker.name := by
    rw [registers.names, List.mem_eraseDups]
  refine ⟨?_, ?_, ?_, ?_⟩
  · rw [names_add]
    split
    next => exact registers.distinct
    next new =>
      refine List.nodup_append.mpr ⟨registers.distinct, by simp, ?_⟩
      rintro name there _ last rfl
      rw [List.mem_singleton.mp last] at there
      exact new there
  · rw [names_add, List.map_append, List.map_singleton, eraseDups_append_singleton,
      ← registers.names]
    simp only [known]
  · rintro entry among
    rcases Named.mem_of_mem_set among with rfl | earlier
    · rfl
    · exact registers.keyed entry earlier
  · intro binary
    rw [find?_add, List.reverse_append, List.reverse_singleton, List.singleton_append,
      List.find?_cons, registers.latest]
    by_cases same : c.name = binary
    · rw [if_pos same, beq_iff_eq.mpr same]
    · rw [if_neg same, beq_eq_false_iff_ne.mpr same]

theorem Registers.addAll (registers : Registers cs r) (ds : List Checker) :
    Registers (cs ++ ds) (r.addAll ds) := by
  induction ds generalizing cs r with
  | nil => rwa [List.append_nil]
  | cons d ds ih =>
    rw [← List.singleton_append, ← List.append_assoc]
    exact ih (registers.add d)

theorem Registers.get_eq_error_iff (registers : Registers cs r) {binary : String} :
    r.get binary = .error (.unknownBinary binary) ↔ ∀ c ∈ cs, c.name ≠ binary := by
  rw [get, registers.latest]
  split
  next c found =>
    have among := List.mem_reverse.mp (List.mem_of_find?_eq_some found)
    have named := List.find?_some found
    refine iff_of_false (by simp) fun unnamed => ?_
    exact unnamed c among (beq_iff_eq.mp named)
  next missing => simpa using missing

theorem get_add_of_ne {binary : String} (other : c.name ≠ binary) :
    (r.add c).get binary = r.get binary := by
  rw [get, get, find?_add, if_neg other]

variable [VersionLibrary] [CharacterNames]

theorem check_add_of_ne {runner : Runner} {binary : String} {requirement : Value}
    (other : c.name ≠ binary) :
    (r.add c).check runner binary requirement = r.check runner binary requirement := by
  rw [check, check, attempt, attempt, get_add_of_ne other]

theorem checkAll_add_of_notMem {runner : Runner} {requirements : Named Value}
    (other : c.name ∉ requirements.names) :
    (r.add c).checkAll runner requirements = r.checkAll runner requirements := by
  induction requirements with
  | nil => rfl
  | cons entry rest ih =>
    have here : c.name ≠ entry.1 := List.ne_of_not_mem_cons other
    have later : c.name ∉ Named.names rest := List.not_mem_of_not_mem_cons other
    rw [checkAll, checkAll, List.mapM_cons, List.mapM_cons, check_add_of_ne here, ← checkAll,
      ← checkAll, ih later]

end Registry

namespace Request

variable [VersionLibrary] [CharacterNames]

/-- An addition changes the answer to no request about other binaries. -/
theorem answer_add_of_notMem {request : Request} {r : Registry} {c : Checker} {runner : Runner}
    (other : c.name ∉ request.binaries) :
    request.answer (r.add c) runner = request.answer r runner := by
  cases request with
  | add => rfl
  | check binary requirement =>
    rw [answer, answer, Registry.check_add_of_ne (List.ne_of_not_mem_cons other)]
  | checkAll requirements =>
    rw [answer, answer, Registry.checkAll_add_of_notMem other]
  | currentVersion binary =>
    rw [answer, answer, Registry.currentVersion, Registry.currentVersion,
      Registry.get_add_of_ne (List.ne_of_not_mem_cons other)]
  | components binary =>
    rw [answer, answer, Registry.componentsOf, Registry.componentsOf,
      Registry.get_add_of_ne (List.ne_of_not_mem_cons other)]

end Request

namespace Session

open Registry (Registers)

variable {s : Session} {cs : List Checker}

theorem registers_start (builtins : Bool) (given : Collection) :
    Registers ((if builtins then Builtin.all else []) ++ given.checkers)
      (start builtins given).registry := by
  cases builtins with
  | true => exact (Registry.registers_empty.addAll Builtin.all).addAll given.checkers
  | false => exact Registry.registers_empty.addAll given.checkers

variable [VersionLibrary] [CharacterNames]

theorem registry_step_of_added?_eq_none {request : Request} (none_added : request.added? = none)
    (runner : Runner) : (s.step runner request).2.registry = s.registry := by
  rw [step, none_added]
  rfl

theorem registry_step_add (c : Checker) (runner : Runner) :
    (s.step runner (.add c)).2.registry = s.registry.add c := rfl

theorem reply_step (request : Request) (runner : Runner) :
    (s.step runner request).1 = (request.answer s.registry runner).result s.log := rfl

theorem log_step_add (c : Checker) (runner : Runner) : (s.step runner (.add c)).2.log = s.log := rfl

theorem registers_step (registers : Registers cs s.registry) (runner : Runner)
    (request : Request) :
    Registers (cs ++ request.added?.toList) (s.step runner request).2.registry := by
  cases added : request.added? with
  | none =>
    rw [registry_step_of_added?_eq_none added, Option.toList_none, List.append_nil]
    exact registers
  | some c =>
    cases request with
    | add d =>
      cases added
      exact registers.add c
    | check | checkAll | currentVersion | components => cases added

theorem registers_run (registers : Registers cs s.registry) (requests : List (Runner × Request)) :
    Registers (cs ++ requests.filterMap (·.2.added?)) (s.run requests).registry := by
  induction requests generalizing s cs with
  | nil => rwa [List.filterMap_nil, List.append_nil]
  | cons first rest ih =>
    have later := ih (registers_step registers first.1 first.2)
    rw [List.append_assoc] at later
    rw [List.filterMap_cons]
    cases added : first.2.added? with
    | none =>
      rwa [added] at later
    | some c =>
      rwa [added] at later

/-- However a session starts and goes on, its registry lists each name once, where it was registered
first, and maps it to the checker that was registered under it last. A binary is unknown if and only
if nothing was ever registered under its name; an addition changes the answer of no other binary,
and no other request changes the registry. -/
theorem registry_run (builtins : Bool) (given : Collection) (requests : List (Runner × Request)) :
    let s := (start builtins given).run requests
    let registered := (if builtins then Builtin.all else []) ++ given.checkers ++
      requests.filterMap (·.2.added?)
    s.registry.names.Nodup ∧
    s.registry.names = (registered.map Checker.name).eraseDups ∧
    (∀ entry ∈ s.registry.checkers, entry.2.name = entry.1) ∧
    (∀ binary, s.registry.find? binary = registered.reverse.find? (·.name == binary)) ∧
    (∀ binary, s.registry.get binary = .error (.unknownBinary binary) ↔
      ∀ c ∈ registered, c.name ≠ binary) ∧
    (∀ c runner binary, c.name ≠ binary →
      (s.step runner (.add c)).2.registry.get binary = s.registry.get binary) ∧
    (∀ c runner later request, c.name ∉ request.binaries →
      ((s.step runner (.add c)).2.step later request).1 = (s.step later request).1) ∧
    ∀ runner request, request.added? = none → (s.step runner request).2.registry = s.registry := by
  intro s registered
  have registers : Registers registered s.registry :=
    registers_run (registers_start builtins given) requests
  refine ⟨registers.distinct, registers.names, registers.keyed, registers.latest,
    fun _ => registers.get_eq_error_iff, ?_, ?_, ?_⟩
  · intro c runner binary other
    rw [registry_step_add, Registry.get_add_of_ne other]
  · intro c runner later request other
    rw [reply_step, reply_step, registry_step_add, log_step_add,
      Request.answer_add_of_notMem other]
  · intro runner request none_added
    exact registry_step_of_added?_eq_none none_added runner

end Session

end EnvDoctor
