import EnvDoctor.Proofs.Checker.Ending
import EnvDoctor.Proofs.Checker.Found
import EnvDoctor.Text.CharacterName
import EnvDoctor.Version.Strict

/-!
# Checks and questions

The version of a binary and the versions of its components can be asked for by themselves. A check
whose requirement can be read tells the same as the two questions: the fault of the first one, that
it found no version, or else both their answers and the verdict on the version. The routines for
components come from outside; what they give must be a table, and one that can be written.
-/

namespace EnvDoctor.Registry

section Library

variable [VersionLibrary] {registry : Registry} {runner : Runner} {binary : String}
  {requirement : Value} {constraints : List Constraint} {r : CheckResult}

/-- A result tells the same as the question for the version and the one for the components. -/
structure Agrees (binary : String) (constraints : List Constraint)
    (current : Except CheckFault (Option String))
    (components : Except CheckFault (Option (Named String))) (r : CheckResult) : Prop where
  failed : ∀ fault, current = .error fault →
    r.error = some fault.message ∧ r.currentVersion = none
  missing : current = .ok none → r.error = some (notFoundMessage binary)
  found : ∀ version, current = .ok (some version) →
    r.currentVersion = some version ∧ r.error = none ∧
      r.requirement = some (Verdict.ofConstraints (.text version) constraints) ∧
      components = .ok r.components

section Outcomes

variable {components : Except CheckFault (Option (Named String))}

theorem agrees_of_fault (fault : CheckFault) :
    Agrees binary constraints (.error fault) components (.ofError binary fault.message) where
  failed := by
    intro _ same
    cases same
    exact ⟨rfl, rfl⟩
  missing := nofun
  found := nofun

theorem agrees_of_missing :
    Agrees binary constraints (.ok none) components (.ofError binary (notFoundMessage binary)) where
  failed := nofun
  missing := fun _ => rfl
  found := nofun

theorem agrees_of_version (version : String) (parts : Option (Named String)) :
    Agrees binary constraints (.ok (some version)) (.ok parts)
      (.ofVerdict binary version (Verdict.ofConstraints (.text version) constraints) parts) where
  failed := nofun
  missing := nofun
  found := by
    intro _ same
    cases same
    exact ⟨rfl, rfl, rfl, rfl⟩

end Outcomes

/-- What is given for the components of a binary can be written. Routines are asked for tables of
texts, which can. -/
def WritableComponents (registry : Registry) (binary : String) : Prop :=
  ∀ c ∈ registry.find? binary, ∀ routine ∈ c.components, routine.Writable

variable [CharacterNames] {earlier before : List Call}

theorem Ends.agrees (ends : Ends registry runner binary requirement r)
    (readable : Constraint.listOfValue requirement = .ok constraints)
    (tabular : ∀ kind,
      (registry.componentsOf runner binary).answer before ≠ .error (.components (.notTable kind)))
    (writable : registry.WritableComponents binary) :
    Agrees binary constraints ((registry.currentVersion runner binary).answer earlier)
      ((registry.componentsOf runner binary).answer before) r := by
  cases ends with
  | unknown unknown =>
    rw [currentVersion_of_unknown earlier unknown]
    exact agrees_of_fault (.unknownBinary binary)
  | @broken c complaint breaks =>
    rw [currentVersion_of_breaks earlier breaks]
    exact agrees_of_fault (.process complaint)
  | silent silent =>
    rw [currentVersion_of_silent earlier silent]
    exact agrees_of_missing
  | @rule c output fault reads extracted =>
    rw [currentVersion_of_reads earlier reads, extracted]
    exact agrees_of_fault (.rule fault)
  | versionless reads extracted =>
    rw [currentVersion_of_reads earlier reads, extracted]
    exact agrees_of_missing
  -- The hypotheses exclude two endings: an unreadable requirement and components at fault.
  | requirement reads extracted listed =>
    rw [readable] at listed
    cases listed
  | @components c output version _ fault reads extracted listed parts =>
    have failed := componentsOf_of_reads before reads
    rw [parts] at failed
    unfold extractComponents at parts
    split at parts
    next => cases parts
    next routine given =>
      obtain ⟨v, held, long | ⟨-, rfl⟩⟩ := long_or_notTable_of_componentsOfFound parts
      · exact absurd long (by simp [writable c reads.found routine given _ v held])
      · exact absurd failed (tabular v.kind)
  | judged reads extracted listed parts =>
    rw [readable] at listed
    cases listed
    rw [currentVersion_of_reads earlier reads, extracted, componentsOf_of_reads before reads, parts]
    exact agrees_of_version _ _

end Library

end EnvDoctor.Registry
