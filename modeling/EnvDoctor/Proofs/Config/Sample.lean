import EnvDoctor.Proofs.Config.Requirements
import EnvDoctor.Proofs.Config.SampleText
import Mathlib

/-!
# What the sample describes

The sample and the sample as it is read back describe the same configuration, but for the order of
the requirements.
-/

namespace EnvDoctor.Config

theorem constraintOf_constraintTable {symbol : String} {op : Operator}
    (known : Operator.ofSymbol? symbol = some op) (place version : String) :
    constraintOf place [(.text "operator", .text symbol), (.text "version", .text version)] =
      .ok ⟨op, .text version⟩ := by
  have operator : Value.lookup "operator"
      [(.text "operator", .text symbol), (.text "version", .text version)] = some (.text symbol) :=
    rfl
  have bound : Value.lookup "version"
      [(.text "operator", .text symbol), (.text "version", .text version)] = some (.text version) :=
    rfl
  rw [constraintOf, operator, bound]
  dsimp only [Option.getD_some]
  rw [known]
  rfl

theorem requirementOf_constraintTable {symbol : String} {op : Operator}
    (known : Operator.ofSymbol? symbol = some op) (name version : String) :
    requirementOf name (constraintTable symbol version) = .ok (.one ⟨op, .text version⟩) := by
  have accepted := constraintOf_constraintTable known ("requirements." ++ name) version
  exact congrArg (Requirement.one <$> ·) accepted

theorem requirementOf_pair {symbol other : String} {op op' : Operator}
    (known : Operator.ofSymbol? symbol = some op) (otherKnown : Operator.ofSymbol? other = some op')
    (name version bound : String) :
    requirementOf name (.list [constraintTable symbol version, constraintTable other bound]) =
      .ok (.all [⟨op, .text version⟩, ⟨op', .text bound⟩]) := by
  have second (place : String) : itemsFrom place 1 [constraintTable other bound] =
      .ok [⟨op', .text bound⟩] :=
    bind_eq_ok_iff.mpr ⟨_, constraintOf_constraintTable otherKnown _ _, rfl⟩
  have items (place : String) :
      itemsFrom place 0 [constraintTable symbol version, constraintTable other bound] =
        .ok [⟨op, .text version⟩, ⟨op', .text bound⟩] := by
    refine bind_eq_ok_iff.mpr ⟨_, constraintOf_constraintTable known _ _, ?_⟩
    exact bind_eq_ok_iff.mpr ⟨_, second place, rfl⟩
  exact congrArg (Requirement.all <$> ·) (items _)

theorem sectionOf_cons {α : Type} {read : String → Value → Except ConfigFault α} {name : String}
    {v : Value} {a : α} (accepted : read name v = .ok a) (start : Named α)
    (rest : List (Value × Value)) :
    sectionOf read start ((.text name, v) :: rest) = sectionOf read (start.set name a) rest := by
  have key : shown Value.display (.text name) = .ok name := by
    rw [shown, Value.display_text]
    rfl
  rw [sectionOf, key]
  exact congrArg (· >>= fun a => sectionOf read (start.set name a) rest) accepted

-- Irreducible, so that checking a term does not compile the pattern.
@[irreducible]
def samplePattern : String :=
  "rustc (\\d+\\.\\d+\\.\\d+)"

def sampleRequirements : Named Requirement :=
  [("node", .text ">= 18.0.0, < 23.0.0"),
   ("npm", .one ⟨.atLeast, .text "8.0.0"⟩),
   ("git", .one ⟨.atLeast, .text "2.0.0"⟩),
   ("python3", .all [⟨.atLeast, .text "3.10.0"⟩, ⟨.below, .text "4.0.0"⟩])]

/-- The requirements of the sample in the order in which they are read back. -/
def rereadRequirements : Named Requirement :=
  [("node", .text ">= 18.0.0, < 23.0.0"),
   ("python3", .all [⟨.atLeast, .text "3.10.0"⟩, ⟨.below, .text "4.0.0"⟩]),
   ("npm", .one ⟨.atLeast, .text "8.0.0"⟩),
   ("git", .one ⟨.atLeast, .text "2.0.0"⟩)]

def sampleCheckers : Named Checker :=
  [("rustc", ⟨"rustc", .text samplePattern, some "rustc", some (.one "--version"), none⟩)]

theorem rereadRequirements_perm : rereadRequirements.Perm sampleRequirements := by
  apply List.Perm.cons
  exact @List.perm_append_comm _ [_] [_, _]

section Names

variable [CharacterNames]

theorem ruleOf_text {pattern : String} (usable : (Pattern.compile pattern).isOk = true)
    (place : String) : ruleOf place (.text pattern) = .ok (.text pattern) := by
  rw [ruleOf, Rule.ofValue, Rule.resolve]
  cases compiled : Pattern.compile pattern with
  | ok p => rfl
  | error fault =>
    rw [compiled] at usable
    cases usable

theorem checkerOf_command {pattern : String} (usable : (Pattern.compile pattern).isOk = true)
    (name command flag : String) :
    checkerOf name (.record [("command", .text command), ("version_flag", .text flag),
      ("parse_version", .text pattern)]) =
      .ok ⟨name, .text pattern, some command, some (.one flag), none⟩ := by
  have rule := ruleOf_text usable ("checkers." ++ name)
  refine bind_eq_ok_iff.mpr ⟨some command, rfl, ?_⟩
  refine bind_eq_ok_iff.mpr ⟨some (.one flag), rfl, ?_⟩
  exact bind_eq_ok_iff.mpr ⟨_, rule, rfl⟩

theorem ofValue_of_sections {entries others : List (Value × Value)}
    {requirements : Named Requirement} {checkers : Named Checker}
    (first : sectionOf requirementOf [] entries = .ok requirements)
    (second : sectionOf checkerOf [] others = .ok checkers) (source : Option String) :
    ofValue (.record [("requirements", .table entries), ("checkers", .table others)]) source =
      .ok ⟨requirements, checkers, source⟩ := by
  have both : sections [(.text "requirements", .table entries), (.text "checkers", .table others)] =
      .ok (entries, others) := by
    refine bind_eq_ok_iff.mpr ⟨entries, sectionEntries_of_bare rfl _, ?_⟩
    exact bind_eq_ok_iff.mpr ⟨others, sectionEntries_of_bare rfl _, rfl⟩
  apply mapError_eq_ok_iff.mpr
  refine bind_eq_ok_iff.mpr ⟨_, both, ?_⟩
  refine bind_eq_ok_iff.mpr ⟨_, first, ?_⟩
  exact bind_eq_ok_iff.mpr ⟨_, second, rfl⟩

set_option maxRecDepth 2000 in
theorem isOk_compile_samplePattern : (Pattern.compile samplePattern).isOk = true := by
  rw [samplePattern]
  cbv

theorem sectionOf_checkers : sectionOf checkerOf [] [(.text "rustc", .record
    [("command", .text "rustc"), ("version_flag", .text "--version"),
      ("parse_version", .text samplePattern)])] = .ok sampleCheckers := by
  rw [sectionOf_cons (checkerOf_command isOk_compile_samplePattern _ _ _)]
  rfl

theorem ofValue_sample (source : Option String) :
    ofValue sample source = .ok ⟨sampleRequirements, sampleCheckers, source⟩ := by
  rw [sample, ← samplePattern]
  refine ofValue_of_sections ?_ sectionOf_checkers source
  simp only [List.map_cons, List.map_nil]
  rw [sectionOf_cons rfl, sectionOf_cons (requirementOf_constraintTable rfl _ _),
    sectionOf_cons (requirementOf_constraintTable rfl _ _),
    sectionOf_cons (requirementOf_pair rfl rfl _ _ _)]
  rfl

theorem ofValue_reread (source : Option String) :
    ofValue reread source = .ok ⟨rereadRequirements, sampleCheckers, source⟩ := by
  rw [reread, ← samplePattern]
  refine ofValue_of_sections ?_ sectionOf_checkers source
  simp only [List.map_cons, List.map_nil]
  rw [sectionOf_cons rfl, sectionOf_cons (requirementOf_pair rfl rfl _ _ _),
    sectionOf_cons (requirementOf_constraintTable rfl _ _),
    sectionOf_cons (requirementOf_constraintTable rfl _ _)]
  rfl

end Names

end EnvDoctor.Config
