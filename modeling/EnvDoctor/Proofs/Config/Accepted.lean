import EnvDoctor.Config.Validation
import EnvDoctor.Proofs.Checker.Ready
import EnvDoctor.Text.CharacterName
import EnvDoctor.Version.Strict

/-!
# Accepted configurations

Nothing that validation lets through is at fault later: each rule of an accepted configuration can
be used, and each requirement can be read. Neither routines nor programs are run by validation, so
that they alone can disturb a check.
-/

namespace EnvDoctor.Config

/-- What holds of every value that is read holds of every entry of the section. -/
theorem forall_of_sectionOf {α : Type} {read : String → Value → Except ConfigFault α}
    {holds : String × α → Prop}
    (reads : ∀ name v a, read name v = .ok a → holds (name, a)) {start things : Named α}
    {entries : List (Value × Value)} (started : ∀ thing ∈ start, holds thing)
    (done : sectionOf read start entries = .ok things) : ∀ thing ∈ things, holds thing := by
  induction entries generalizing start with
  | nil =>
    cases done
    exact started
  | cons e rest ih =>
    obtain ⟨name, -, done⟩ := bind_eq_ok_iff.mp done
    obtain ⟨a, accepted, done⟩ := bind_eq_ok_iff.mp done
    refine ih (fun thing among => ?_) done
    rcases Named.mem_of_mem_set among with rfl | earlier
    · exact reads name e.2 a accepted
    · exact started thing earlier

section Library

variable [CharacterNames]

theorem exists_resolve_of_ruleOf {place : String} {v : Value} {rule : Rule}
    (accepted : ruleOf place v = .ok rule) : ∃ run, rule.resolve = .ok run := by
  cases v with
  | text | pattern | routine =>
    dsimp only [ruleOf] at accepted
    split at accepted
    next run usable =>
      cases accepted
      exact ⟨run, usable⟩
    next => cases accepted
  | _ => cases accepted

theorem checkerOf_eq_ok {name : String} {v : Value} {c : Checker}
    (accepted : checkerOf name v = .ok c) : c.name = name ∧ c.Usable := by
  unfold checkerOf at accepted
  dsimp only at accepted
  split at accepted
  next =>
    obtain ⟨command, -, accepted⟩ := bind_eq_ok_iff.mp accepted
    obtain ⟨flag, -, accepted⟩ := bind_eq_ok_iff.mp accepted
    obtain ⟨rule, usable, accepted⟩ := bind_eq_ok_iff.mp accepted
    obtain ⟨components, -, done⟩ := bind_eq_ok_iff.mp accepted
    cases done
    exact ⟨rfl, exists_resolve_of_ruleOf usable⟩
  next => cases accepted

variable {data : Value} {source : Option String} {config : Config}

theorem checkers_of_accepted (accepted : ofValue data source = .ok config) :
    ∀ entry ∈ config.checkers, entry.2.name = entry.1 ∧ entry.2.Usable := by
  have valid : validate data source = .ok config := mapError_eq_ok_iff.mp accepted
  unfold validate at valid
  split at valid
  next =>
    obtain ⟨⟨requirements, checkers⟩, -, valid⟩ := bind_eq_ok_iff.mp valid
    obtain ⟨_, -, valid⟩ := bind_eq_ok_iff.mp valid
    obtain ⟨_, read, done⟩ := bind_eq_ok_iff.mp valid
    cases done
    exact forall_of_sectionOf (fun _ _ _ => checkerOf_eq_ok) (List.forall_mem_nil _) read
  next => cases valid

theorem names_of_accepted (accepted : ofValue data source = .ok config) :
    (config.checkers.map Prod.snd).map Checker.name = config.checkers.names := by
  rw [List.map_map]
  exact List.map_congr_left fun entry among => (checkers_of_accepted accepted entry among).1

theorem ready_of_accepted (accepted : ofValue data source = .ok config) :
    config.registry.Ready := by
  refine Registry.ready_withBuiltins fun c among => ?_
  obtain ⟨entry, held, rfl⟩ := List.mem_map.mp among
  exact (checkers_of_accepted accepted entry held).2

theorem find?_registry_eq_none_iff (accepted : ofValue data source = .ok config) {binary : String} :
    config.registry.find? binary = none ↔
      binary ∉ Builtin.all.map Checker.name ∧ binary ∉ config.checkers.names := by
  rw [registry, Registry.find?_withBuiltins_eq_none_iff, names_of_accepted accepted]

variable [VersionLibrary]

def checks (config : Config) (runner : Runner) : Logged (List CheckResult) :=
  config.registry.checkAll runner (config.requirements.map fun entry => (entry.1, entry.2.toValue))

theorem binaries_checks (runner : Runner) (calls : List Call) :
    ((config.checks runner).result calls).map CheckResult.binary = config.requirements.names := by
  rw [checks, Registry.binaries_checkAll, Named.names, List.map_map]
  rfl

/-- A result tells of no other failure than an unknown binary or a missing version. -/
structure Explains (config : Config) (r : CheckResult) : Prop where
  error : r.error = none ∨ r.error = some (notFoundMessage r.binary) ∨
    r.error = some (unknownBinaryMessage r.binary)
  unknown_iff : r.error = some (unknownBinaryMessage r.binary) ↔
    r.binary ∉ Builtin.all.map Checker.name ∧ r.binary ∉ config.checkers.names

theorem explains_of_mem_checks (accepted : ofValue data source = .ok config) {runner : Runner}
    {calls : List Call} {r : CheckResult} (among : r ∈ (config.checks runner).result calls)
    (undisturbed : ¬ config.registry.Disturbed runner r.binary) : config.Explains r := by
  obtain ⟨_, held, ends⟩ := Registry.ends_of_mem_checkAll calls among
  obtain ⟨⟨binary, requirement⟩, -, rfl⟩ := List.mem_map.mp held
  obtain rfl : r.binary = binary := ends.binary_eq
  have outcome := ends.error_of_ready (ready_of_accepted accepted)
    (Constraint.listOfValue_toValue requirement) undisturbed
  rw [ne_eq, find?_registry_eq_none_iff accepted] at outcome
  rcases outcome with ⟨nowhere, unknown⟩ | ⟨known, good | missing⟩
  · exact ⟨.inr (.inr unknown), iff_of_true unknown nowhere⟩
  · refine ⟨.inl good, iff_of_false ?_ known⟩
    rw [good]
    nofun
  · refine ⟨.inr (.inl missing), iff_of_false ?_ known⟩
    rw [missing, Option.some_inj]
    exact notFoundMessage_ne_unknownBinaryMessage _ _

end Library

def mixedData : Value :=
  .record
    [("requirements", .record
      [("node", .text ">=18"),
       ("tool", .tuple [.record [("operator", .text "^"), ("version", .text "1.0.0")]]),
       ("ghost", .text "*")]),
     ("checkers", .record
      [("tool", .record [("parse_version", secondWord.toValue),
        ("parseComponents", firstWord.toValue)])])]

def mixed : Config where
  requirements := [("node", .text ">=18"), ("tool", .all [⟨.caret, .text "1.0.0"⟩]),
    ("ghost", .text "*")]
  checkers := [("tool", wordChecker)]
  source := none

end EnvDoctor.Config
