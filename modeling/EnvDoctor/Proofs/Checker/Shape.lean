import EnvDoctor.Proofs.Checker.Ending
import EnvDoctor.Proofs.Text.Pieces
import Mathlib.Order.Basic

/-!
# The shape of results

A check either fails, and then its result has an error and nothing else, or it is completed, and
then its result has a version and a verdict and no error. No third shape mixes the two, because a
step that fails takes all that was found before it along.
-/

namespace EnvDoctor

/-- A text that is not empty and neither begins nor ends with a blank. -/
structure Text.IsTrimmed (s : String) : Prop where
  nonempty : s ≠ ""
  first : ∀ c ∈ s.toList.head?, isBlank c = false
  last : ∀ c ∈ s.toList.getLast?, isBlank c = false

theorem Text.isTrimmed_strip {s : String} (nonempty : strip s ≠ "") : IsTrimmed (strip s) where
  nonempty := nonempty
  first := by
    intro c hc
    rw [strip, String.toList_ofList] at hc
    exact not_blank_of_head?_trim hc
  last := by
    intro c hc
    rw [strip, String.toList_ofList] at hc
    exact not_blank_of_getLast?_trim hc

theorem isTrimmed_of_versionOfFound {found : Option Value} {version : String}
    (h : versionOfFound found = .ok (some version)) : Text.IsTrimmed version := by
  unfold versionOfFound at h
  split at h
  next => cases h
  next => cases h
  next v _ =>
    split at h
    next => cases h
    next =>
      dsimp only at h
      split at h
      next => cases h
      next nonempty =>
        cases h
        exact Text.isTrimmed_strip (by simpa using nonempty)

theorem isTrimmed_of_extractVersion [CharacterNames] {rule : Rule} {output version : String}
    (extracted : extractVersion rule output = .ok (some version)) : Text.IsTrimmed version := by
  obtain ⟨run, -, done⟩ := bind_eq_ok_iff.mp extracted
  exact isTrimmed_of_versionOfFound done

/-- A verdict is positive if nothing has failed, whichever way it has come about. -/
theorem Verdict.satisfies_ofConstraints_iff [VersionLibrary] (current : Value)
    (constraints : List Constraint) :
    (ofConstraints current constraints).satisfies = true ↔
      (ofConstraints current constraints).failed = [] := by
  unfold ofConstraints
  split
  next => simp [invalidCurrent]
  next version _ =>
    split
    next => simp [processingError]
    next findings _ => exact List.isEmpty_iff

namespace CheckResult

/-- The result of a check that has failed. -/
structure Failed (r : CheckResult) : Prop where
  error : r.error ≠ none
  currentVersion : r.currentVersion = none
  requirement : r.requirement = none
  components : r.components = none
  satisfies : r.satisfies = false

/-- The result of a check that has come to a verdict. -/
structure Completed (r : CheckResult) : Prop where
  error : r.error = none
  currentVersion : ∃ version, r.currentVersion = some version ∧ Text.IsTrimmed version
  requirement : ∃ verdict, r.requirement = some verdict ∧ r.satisfies = verdict.satisfies ∧
    (verdict.satisfies = true ↔ verdict.failed = [])

theorem failed_ofError (binary error : String) : (ofError binary error).Failed :=
  ⟨nofun, rfl, rfl, rfl, rfl⟩

theorem completed_ofVerdict [VersionLibrary] (binary : String) {version : String}
    (trimmed : Text.IsTrimmed version) (constraints : List Constraint)
    (components : Option (Named String)) :
    (ofVerdict binary version (Verdict.ofConstraints (.text version) constraints)
      components).Completed where
  error := rfl
  currentVersion := ⟨version, rfl, trimmed⟩
  requirement := ⟨_, rfl, rfl, Verdict.satisfies_ofConstraints_iff _ _⟩

theorem Completed.not_failed {r : CheckResult} (completed : r.Completed) : ¬ r.Failed :=
  fun failed => failed.error completed.error

/-- The keys of a result that is written as a record. -/
def keys (r : CheckResult) : List String :=
  r.toFields.map Prod.fst

theorem keys_eq (r : CheckResult) : r.keys =
    ["binary", "current_version", "satisfies"] ++ (if r.error.isSome then ["error"] else []) ++
      (if r.requirement.isSome then ["satisfied_constraints", "failed_constraints"] else []) ++
      if r.shownComponents.isEmpty then [] else ["components"] := by
  have error : (r.error.map fun e => ("error", Value.text e)).toList.map Prod.fst =
      if r.error.isSome then ["error"] else [] := by
    cases r.error <;> rfl
  have components : ∀ b : Bool, ∀ v : Value,
      (if b then [] else [("components", v)]).map Prod.fst = if b then [] else ["components"] := by
    intro b v
    cases b <;> rfl
  rw [keys, toFields, List.map_append, List.map_append, List.map_append, error, components]
  cases r.requirement <;> rfl

theorem error_mem_keys_iff (r : CheckResult) : "error" ∈ r.keys ↔ r.error ≠ none := by
  cases r.error.isSome <;> simp [keys_eq, Option.ne_none_iff_isSome]

theorem satisfied_mem_keys_iff (r : CheckResult) :
    "satisfied_constraints" ∈ r.keys ↔ r.requirement ≠ none := by
  simp [keys_eq, Option.ne_none_iff_isSome]

theorem failed_mem_keys_iff (r : CheckResult) :
    "failed_constraints" ∈ r.keys ↔ r.requirement ≠ none := by
  simp [keys_eq, Option.ne_none_iff_isSome]

end CheckResult

namespace Registry

variable [VersionLibrary] [CharacterNames] {registry : Registry} {runner : Runner}
  {binary : String} {requirement : Value}

theorem Ends.failed_or_completed {r : CheckResult}
    (ends : Ends registry runner binary requirement r) :
    r.Failed ∨ r.Completed := by
  cases ends with
  | unknown | broken | silent | rule | versionless | requirement | components =>
    exact .inl (CheckResult.failed_ofError _ _)
  | judged reads extracted listed parts =>
    exact .inr (CheckResult.completed_ofVerdict _ (isTrimmed_of_extractVersion extracted) _ _)

/-- The result of every check has exactly one of two shapes. So its record has an error or else both
lists of constraints, and a positive result has neither an error nor a failed constraint. -/
theorem check_failed_or_completed (registry : Registry) (runner : Runner) (binary : String)
    (requirement : Value) (calls : List Call) :
    ∃ r, (registry.check runner binary requirement).result calls = r ∧
      (r.Failed ∧ ¬ r.Completed ∨ r.Completed ∧ ¬ r.Failed) ∧
      ("error" ∈ r.keys ↔ "satisfied_constraints" ∉ r.keys ∧ "failed_constraints" ∉ r.keys) ∧
      (r.satisfies = true → r.error = none ∧ ∀ verdict ∈ r.requirement, verdict.failed = []) := by
  have ends : Ends registry runner binary requirement
      ((registry.check runner binary requirement).result calls) := ends_check calls
  refine ⟨_, rfl, ?_⟩
  rw [CheckResult.error_mem_keys_iff, CheckResult.satisfied_mem_keys_iff,
    CheckResult.failed_mem_keys_iff, and_self, not_not]
  rcases ends.failed_or_completed with failed | completed
  · have alone : ¬ CheckResult.Completed _ := fun completed => completed.not_failed failed
    refine ⟨.inl ⟨failed, alone⟩, iff_of_true failed.error failed.requirement, ?_⟩
    intro satisfies
    rw [failed.satisfies] at satisfies
    cases satisfies
  · obtain ⟨verdict, held, satisfies, positive⟩ := completed.requirement
    refine ⟨.inr ⟨completed, completed.not_failed⟩, ?_, ?_⟩
    · rw [completed.error, held]
      simp
    · intro good
      refine ⟨completed.error, ?_⟩
      rw [held]
      rintro _ ⟨⟩
      exact positive.mp (satisfies ▸ good)

end Registry

end EnvDoctor
