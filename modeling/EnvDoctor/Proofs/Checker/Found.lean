import EnvDoctor.Checker.Builtin
import EnvDoctor.Process

/-!
# What routines find

Routines come from outside. One for versions is asked for a text and one for components for a table
of texts. Less is relied on: what a routine gives can be written, and components come as a table.
-/

namespace EnvDoctor

namespace Value

theorem holdsLong_bare (v : Value) : v.bare.holdsLong = v.holdsLong := by
  cases v <;> simp only [bare, holdsLong]

theorem holdsLong_record_texts (fields : List (String × String)) :
    (record (fields.map fun f => (f.1, .text f.2))).holdsLong = false := by
  rw [record, holdsLong.eq_def]
  induction fields with
  | nil => rfl
  | cons f rest ih => simpa [entriesHoldLong] using ih

/-- The value is a table, perhaps one with a label. -/
def IsTable (v : Value) : Prop :=
  ∃ entries, v.bare = .table entries

end Value

namespace Routine

/-- What the routine gives can be written, as texts and tables of texts can. -/
def Writable (routine : Routine) : Prop :=
  ∀ output, ∀ v ∈ routine.run output, v.holdsLong = false

/-- Whenever the routine does not fail, it gives a table or nothing. -/
def GivesTables (routine : Routine) : Prop :=
  ∀ output, ∀ v ∈ routine.run output, v = .null ∨ v.IsTable

end Routine

theorem exists_holdsLong_of_versionOfFound {found : Option Value} {fault : RuleFault}
    (failed : versionOfFound found = .error fault) : ∃ v ∈ found, v.holdsLong = true := by
  unfold versionOfFound at failed
  split at failed
  next => cases failed
  next => cases failed
  next v _ =>
    split at failed
    next long => exact ⟨v, rfl, long⟩
    next => cases failed

/-- A table of texts is what is found, once names that come again are sorted out. -/
theorem componentsOfFound_record_texts (first : String × String) (rest : List (String × String)) :
    componentsOfFound (some (.record ((first :: rest).map fun f => (f.1, .text f.2)))) =
      .ok (some (Named.ofList (first :: rest))) := by
  have written := Value.holdsLong_record_texts (first :: rest)
  rw [Value.record, Value.holdsLong] at written
  rw [componentsOfFound, Value.record, if_neg (by simp [Value.isTruthy])]
  dsimp only [Value.bare]
  rw [written]
  simp [Function.comp_def]

/-- What was found is at fault if it cannot be written or is of the wrong kind. -/
theorem long_or_notTable_of_componentsOfFound {found : Option Value} {fault : ComponentsFault}
    (failed : componentsOfFound found = .error fault) :
    ∃ v ∈ found, v.holdsLong = true ∨
      ¬ (v = .null ∨ v.IsTable) ∧ fault = .notTable v.kind := by
  cases found with
  | none => cases failed
  | some v =>
    refine ⟨v, rfl, ?_⟩
    rw [componentsOfFound] at failed
    split at failed
    next => cases failed
    next truthy =>
      split at failed
      next entries table =>
        split at failed
        next long =>
          left
          rw [← Value.holdsLong_bare, table, Value.holdsLong]
          exact long
        next => cases failed
      next other =>
        cases failed
        refine .inr ⟨?_, rfl⟩
        rintro (rfl | ⟨entries, table⟩)
        · exact truthy rfl
        · exact other entries table

/-- The routines of a checker give what they are asked for: something that can be written, and a
table where it is components. -/
structure Checker.Conforms (c : Checker) : Prop where
  version : ∀ routine, c.rule = .routine routine → routine.Writable
  components : ∀ routine ∈ c.components, routine.GivesTables ∧ routine.Writable

namespace Docker

theorem versionRoutine_writable : versionRoutine.Writable := by
  rintro output _ ⟨⟩
  cases clientVersion? output <;> simp [Value.holdsLong]

theorem componentsRoutine_writable : componentsRoutine.Writable := by
  intro output v given
  obtain ⟨found, -, rfl⟩ := Option.map_eq_some_iff.mp given
  split
  next => rw [Value.holdsLong.eq_def]
  next => exact Value.holdsLong_record_texts found

theorem componentsRoutine_givesTables : componentsRoutine.GivesTables := by
  intro output v given
  obtain ⟨found, -, rfl⟩ := Option.map_eq_some_iff.mp given
  split
  next => exact .inl rfl
  next => exact .inr ⟨_, rfl⟩

end Docker

/-- The only program prints its name and its version. -/
def wordRunner : Runner :=
  ⟨[("tool", fun _ => .ends ⟨"tool 1.2.3\n", "", 0⟩)], defaultLimit⟩

def secondWord : Routine where
  name := "second_word"
  run output := (Text.words output.toList)[1]?.map fun word => .text (String.ofList word)

def firstWord : Routine where
  name := "first_word"
  run output := (Text.words output.toList).head?.map fun word =>
    .record [("first", .text (String.ofList word))]

/-- Takes the second word for the version and the first one for a component. -/
def wordChecker : Checker where
  name := "tool"
  rule := .routine secondWord
  command := none
  versionFlag := none
  components := some firstWord

theorem firstWord_writable : firstWord.Writable := by
  intro output v given
  obtain ⟨word, -, rfl⟩ := Option.map_eq_some_iff.mp given
  exact Value.holdsLong_record_texts [("first", String.ofList word)]

theorem wordChecker_conforms : wordChecker.Conforms where
  version := by
    rintro _ ⟨⟩ output v given
    obtain ⟨word, -, rfl⟩ := Option.map_eq_some_iff.mp given
    exact Value.holdsLong_text _
  components := by
    rintro _ ⟨⟩
    refine ⟨fun output v given => ?_, firstWord_writable⟩
    obtain ⟨word, -, rfl⟩ := Option.map_eq_some_iff.mp given
    exact .inr ⟨_, rfl⟩

end EnvDoctor
