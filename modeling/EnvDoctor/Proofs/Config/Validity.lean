import EnvDoctor.Proofs.Config.Escapes
import EnvDoctor.Proofs.Config.Requirements

/-!
# Valid configurations

Which values describe a configuration, said without the reading of them: tables of requirements and
of checkers, each entry of a given shape. Validation accepts these values and no others, and all
that it complains about comes with the source, unless it stops at a number that cannot be written or
at a pattern beyond the limits of patterns.
-/

namespace EnvDoctor

def ConfigFault.isLimit : ConfigFault → Bool
  | rule (.invalidPattern _ fault) => fault.isLimit
  | _ => false

namespace Config

/-- A requirement is a text, a constraint, or a list of constraints. -/
def IsRequirement (v : Value) : Prop :=
  (∃ s, v.bare = .text s) ∨ IsItem v ∨
    ∃ items, (v.bare = .list items ∨ v.bare = .tuple items) ∧ ∀ item ∈ items, IsItem item

/-- The value of an option that has two spellings: the one under its key if that is there, and else
the one under the other key. Without either the option is null. -/
inductive OptionIs (key otherKey : String) (entries : List (Value × Value)) : Value → Prop
  | own {v : Value} (set : Value.lookup key entries = some v) : OptionIs key otherKey entries v
  | other {v : Value} (unset : Value.lookup key entries = none)
      (set : Value.lookup otherKey entries = some v) : OptionIs key otherKey entries v
  | absent (unset : Value.lookup key entries = none)
      (unsetOther : Value.lookup otherKey entries = none) : OptionIs key otherKey entries .null

def IsCommand (v : Value) : Prop :=
  v = .null ∨ ∃ s, v = .text s

def IsFlag (v : Value) : Prop :=
  v.bare = .null ∨ (∃ s, v.bare = .text s) ∨
    ∃ items, (v.bare = .list items ∨ v.bare = .tuple items) ∧ ∀ item ∈ items, ∃ s, item = .text s

/-- A rule is the text of a pattern, a pattern, or a routine. -/
def IsRule [CharacterNames] (v : Value) : Prop :=
  (∃ source p, v = .text source ∧ Pattern.compile source = .ok p) ∨ (∃ p, v = .pattern p) ∨
    ∃ name run, v = .routine name run

def IsComponents (v : Value) : Prop :=
  v = .null ∨ ∃ name run, v = .routine name run

/-- A table of the options of a checker. -/
structure IsCheckerTable [CharacterNames] (entries : List (Value × Value)) : Prop where
  command : IsCommand ((Value.lookup "command" entries).getD .null)
  flag : ∃ v, OptionIs "version_flag" "versionFlag" entries v ∧ IsFlag v
  rule : ∃ v, OptionIs "parse_version" "parseVersion" entries v ∧ IsRule v
  components : ∃ v, OptionIs "parse_components" "parseComponents" entries v ∧ IsComponents v

def IsChecker [CharacterNames] (v : Value) : Prop :=
  ∃ entries, v.bare = .table entries ∧ IsCheckerTable entries

/-- The entries of a section. One that is missing or counts as absent has none. -/
inductive IsSection : Option Value → List (Value × Value) → Prop
  | missing : IsSection none []
  | absent {v : Value} (falsy : v.isTruthy = false) : IsSection (some v) []
  | table {v : Value} {entries : List (Value × Value)} (bare : v.bare = .table entries) :
      IsSection (some v) entries

/-- The entries for requirements and for checkers. A table without the keys of the two sections is
the section of requirements itself. -/
inductive HasSections (entries : List (Value × Value)) :
    List (Value × Value) → List (Value × Value) → Prop
  | flat (noRequirements : Value.lookup "requirements" entries = none)
      (noCheckers : Value.lookup "checkers" entries = none) : HasSections entries entries []
  | parted {requirements checkers : List (Value × Value)}
      (keyed : Value.lookup "requirements" entries ≠ none ∨ Value.lookup "checkers" entries ≠ none)
      (first : IsSection (Value.lookup "requirements" entries) requirements)
      (second : IsSection (Value.lookup "checkers" entries) checkers) :
      HasSections entries requirements checkers

/-- A value describes a configuration. -/
def Valid [CharacterNames] (data : Value) : Prop :=
  ∃ entries requirements checkers, data.bare = .table entries ∧
    HasSections entries requirements checkers ∧ (∀ e ∈ requirements, IsRequirement e.2) ∧
    ∀ e ∈ checkers, IsChecker e.2

/-- The options of a checker whose rule is the text of a pattern beyond the limits of patterns. What
is looked at before the rule is well. -/
structure MeetsLimit [CharacterNames] (entries : List (Value × Value)) : Prop where
  command : IsCommand ((Value.lookup "command" entries).getD .null)
  flag : ∃ v, OptionIs "version_flag" "versionFlag" entries v ∧ IsFlag v
  rule : ∃ source f, OptionIs "parse_version" "parseVersion" entries (.text source) ∧
    Pattern.compile source = .error f ∧ f.isLimit = true

/-- A rule is a pattern beyond the limits of patterns, and all before it is well. -/
def StopsAtPattern [CharacterNames] (data : Value) : Prop :=
  ∃ entries requirements checkers, data.bare = .table entries ∧
    HasSections entries requirements checkers ∧ (∀ e ∈ requirements, IsEntry requirementOf e) ∧
    FirstFaulty (IsEntry checkerOf) (fun e => e.1.holdsLong = false ∧
      ∃ options, e.2.bare = .table options ∧ MeetsLimit options) checkers

section Requirements

variable {place name : String} {v : Value}

theorem itemsFrom_isOk_iff {number : Nat} {items : List Value} :
    (∃ cs, itemsFrom place number items = .ok cs) ↔ ∀ item ∈ items, IsItem item := by
  induction items generalizing number with
  | nil => simp [itemsFrom]
  | cons v rest ih =>
    have later : (∃ cs, itemsFrom place (number + 1) rest = .ok cs) ↔ ∀ item ∈ rest, IsItem item := ih
    rw [List.forall_mem_cons, ← itemOf_isOk_iff (place ++ "[" ++ toString number ++ "]"), ← later]
    constructor
    · rintro ⟨cs, done⟩
      obtain ⟨c, first, done⟩ := bind_eq_ok_iff.mp done
      obtain ⟨others, more, -⟩ := bind_eq_ok_iff.mp done
      exact ⟨⟨c, first⟩, others, more⟩
    · rintro ⟨⟨c, first⟩, others, more⟩
      exact ⟨c :: others, bind_eq_ok_iff.mpr ⟨c, first, bind_eq_ok_iff.mpr ⟨others, more, rfl⟩⟩⟩

theorem requirementOf_isOk_iff (name : String) :
    (∃ r, requirementOf name v = .ok r) ↔ IsRequirement v := by
  have mapped {α : Type} {x : Except ConfigFault α} {f : α → Requirement} :
      (∃ r, f <$> x = .ok r) ↔ ∃ a, x = .ok a := by
    simp [map_eq_ok_iff]
  have single : IsItem v ↔ (∃ op version, v.bare = .constraint op version) ∨
      ∃ entries, v.bare = .table entries ∧ IsConstraint entries := Iff.rfl
  unfold requirementOf IsRequirement
  rw [single]
  cases bare : v.bare with
  | table entries => simp [mapped, constraintOf_isOk_iff]
  | list items | tuple items => simp [mapped, itemsFrom_isOk_iff]
  | _ => simp

end Requirements

section Checkers

variable {place name : String} {v : Value} {entries : List (Value × Value)}

theorem optionIs_iff {key otherKey : String} :
    OptionIs key otherKey entries v ↔ option key otherKey entries = v := by
  unfold option
  constructor
  · rintro (set | ⟨unset, set⟩ | ⟨unset, unsetOther⟩)
    · simp [set]
    · simp [unset, set]
    · simp [unset, unsetOther]
  · rintro rfl
    cases first : Value.lookup key entries with
    | some v => exact .own first
    | none =>
      cases second : Value.lookup otherKey entries with
      | some v => exact .other first second
      | none => exact .absent first second

theorem commandOf_isOk_iff : (∃ c, commandOf place v = .ok c) ↔ IsCommand v := by
  unfold IsCommand
  cases v <;> simp [commandOf]

theorem texts?_isSome_iff {items : List Value} :
    (∃ flags, texts? items = some flags) ↔ ∀ item ∈ items, ∃ s, item = .text s := by
  induction items with
  | nil => simp [texts?]
  | cons v rest ih =>
    rw [List.forall_mem_cons, ← ih]
    cases v <;> simp [texts?]

theorem flagOf_isOk_iff : (∃ flag, flagOf place v = .ok flag) ↔ IsFlag v := by
  unfold flagOf IsFlag
  cases bare : v.bare with
  | list items | tuple items =>
    cases texts : texts? items <;> simp [texts, ← texts?_isSome_iff]
  | _ => simp

theorem ruleOf_isOk_iff [CharacterNames] : (∃ rule, ruleOf place v = .ok rule) ↔ IsRule v := by
  unfold IsRule
  cases v with
  | text source => cases compiled : Pattern.compile source <;>
      simp [ruleOf, Rule.ofValue, Rule.resolve, compiled]
  | pattern p => simp [ruleOf, Rule.ofValue, Rule.resolve]
  | routine name run => simp [ruleOf, Rule.ofValue, Rule.resolve]
  | _ => simp [ruleOf]

/-- A rule is at fault with a limit of patterns if it is the text of a pattern beyond that limit. -/
theorem ruleOf_isLimit_iff [CharacterNames] : (∃ f, ruleOf place v = .error f ∧ f.isLimit = true) ↔
    ∃ source f, v = .text source ∧ Pattern.compile source = .error f ∧ f.isLimit = true := by
  cases v with
  | text source => cases compiled : Pattern.compile source <;>
      simp [ruleOf, Rule.ofValue, Rule.resolve, compiled, ConfigFault.isLimit]
  | pattern p => simp [ruleOf, Rule.ofValue, Rule.resolve]
  | routine name run => simp [ruleOf, Rule.ofValue, Rule.resolve]
  | _ => simp [ruleOf, ConfigFault.isLimit]

theorem componentsOf_isOk_iff : (∃ c, componentsOf place v = .ok c) ↔ IsComponents v := by
  unfold IsComponents
  cases v <;> simp [componentsOf]

theorem checkerOf_isOk_iff [CharacterNames] (name : String) :
    (∃ c, checkerOf name v = .ok c) ↔ IsChecker v := by
  unfold checkerOf IsChecker
  cases bare : v.bare with
  | table entries =>
    constructor
    · rintro ⟨_, done⟩
      obtain ⟨command, isCommand, done⟩ := bind_eq_ok_iff.mp done
      obtain ⟨flag, isFlag, done⟩ := bind_eq_ok_iff.mp done
      obtain ⟨rule, isRule, done⟩ := bind_eq_ok_iff.mp done
      obtain ⟨components, isComponents, -⟩ := bind_eq_ok_iff.mp done
      refine ⟨entries, rfl, commandOf_isOk_iff.mp ⟨command, isCommand⟩, ?_, ?_, ?_⟩
      · exact ⟨_, optionIs_iff.mpr rfl, flagOf_isOk_iff.mp ⟨flag, isFlag⟩⟩
      · exact ⟨_, optionIs_iff.mpr rfl, ruleOf_isOk_iff.mp ⟨rule, isRule⟩⟩
      · exact ⟨_, optionIs_iff.mpr rfl, componentsOf_isOk_iff.mp ⟨components, isComponents⟩⟩
    · rintro ⟨_, same, isCommand, ⟨flagValue, flagIs, isFlag⟩, ⟨ruleValue, ruleIs, isRule⟩,
        ⟨componentsValue, componentsIs, isComponents⟩⟩
      obtain rfl := Value.table.inj same
      obtain rfl := optionIs_iff.mp flagIs
      obtain rfl := optionIs_iff.mp ruleIs
      obtain rfl := optionIs_iff.mp componentsIs
      obtain ⟨command, isCommand⟩ := commandOf_isOk_iff.mpr isCommand
      obtain ⟨flag, isFlag⟩ := flagOf_isOk_iff.mpr isFlag
      obtain ⟨rule, isRule⟩ := ruleOf_isOk_iff.mpr isRule
      obtain ⟨components, isComponents⟩ := componentsOf_isOk_iff.mpr isComponents
      exact ⟨_, bind_eq_ok_iff.mpr ⟨command, isCommand, bind_eq_ok_iff.mpr ⟨flag, isFlag,
        bind_eq_ok_iff.mpr ⟨rule, isRule, bind_eq_ok_iff.mpr ⟨components, isComponents, rfl⟩⟩⟩⟩⟩
  | _ => simp

end Checkers

section Sections

variable {name : String} {v : Option Value} {entries requirements checkers : List (Value × Value)}

theorem sectionEntries_eq_ok_iff : sectionEntries name v = .ok entries ↔ IsSection v entries := by
  constructor
  · intro done
    cases v with
    | none =>
      cases done
      exact .missing
    | some v =>
      cases truthy : v.isTruthy with
      | false =>
        obtain rfl : entries = [] := by simpa [sectionEntries, truthy, eq_comm] using done
        exact .absent truthy
      | true =>
        cases bare : v.bare with
        | table entries' =>
          rw [sectionEntries_of_bare bare] at done
          cases done
          exact .table bare
        | _ => simp [sectionEntries, truthy, bare] at done
  · rintro (_ | falsy | bare)
    · rfl
    · simp [sectionEntries, falsy]
    · exact sectionEntries_of_bare bare name

theorem sections_eq_ok_iff :
    sections entries = .ok (requirements, checkers) ↔ HasSections entries requirements checkers := by
  have keyed : ((Value.lookup "requirements" entries).isSome ||
      (Value.lookup "checkers" entries).isSome) = true ↔
        (Value.lookup "requirements" entries ≠ none ∨ Value.lookup "checkers" entries ≠ none) := by
    rw [Bool.or_eq_true, Option.isSome_iff_ne_none, Option.isSome_iff_ne_none]
  unfold sections
  dsimp only
  split
  next present =>
    constructor
    · intro done
      obtain ⟨first, isFirst, done⟩ := bind_eq_ok_iff.mp done
      obtain ⟨second, isSecond, done⟩ := bind_eq_ok_iff.mp done
      cases done
      exact .parted (keyed.mp present) (sectionEntries_eq_ok_iff.mp isFirst)
        (sectionEntries_eq_ok_iff.mp isSecond)
    · rintro (⟨noRequirements, noCheckers⟩ | ⟨-, first, second⟩)
      · simp [noRequirements, noCheckers] at present
      · exact bind_eq_ok_iff.mpr ⟨requirements, sectionEntries_eq_ok_iff.mpr first,
          bind_eq_ok_iff.mpr ⟨checkers, sectionEntries_eq_ok_iff.mpr second, rfl⟩⟩
  next absent =>
    rw [keyed, not_or, not_not, not_not] at absent
    constructor
    · rintro ⟨⟩
      exact .flat absent.1 absent.2
    · rintro (⟨-, -⟩ | ⟨present | present, -, -⟩)
      · rfl
      · exact absurd absent.1 present
      · exact absurd absent.2 present

/-- Entries with values that can be read are read unless their keys cannot be written. -/
theorem isEntry_or_long {α : Type} {read : String → Value → Except ConfigFault α}
    (readable : ∀ e ∈ entries, ∃ a, read e.1.display e.2 = .ok a) :
    ∀ e ∈ entries, IsEntry read e ∨ e.1.holdsLong = true := by
  intro e among
  cases long : e.1.holdsLong with
  | true => exact .inr rfl
  | false => exact .inl ⟨long, readable e among⟩

/-- Validation accepts what has sections all of whose entries can be read. -/
theorem validate_isOk_iff [CharacterNames] {data : Value} (source : Option String) :
    (∃ config, validate data source = .ok config) ↔
      ∃ entries requirements checkers, data.bare = .table entries ∧
        HasSections entries requirements checkers ∧ (∀ e ∈ requirements, IsEntry requirementOf e) ∧
        ∀ e ∈ checkers, IsEntry checkerOf e := by
  unfold validate
  cases bare : data.bare with
  | table entries =>
    constructor
    · rintro ⟨_, done⟩
      obtain ⟨⟨requirements, checkers⟩, parts, done⟩ := bind_eq_ok_iff.mp done
      obtain ⟨_, first, done⟩ := bind_eq_ok_iff.mp done
      obtain ⟨_, second, -⟩ := bind_eq_ok_iff.mp done
      exact ⟨entries, requirements, checkers, rfl, sections_eq_ok_iff.mp parts,
        sectionOf_isOk_iff.mp ⟨_, first⟩, sectionOf_isOk_iff.mp ⟨_, second⟩⟩
    · rintro ⟨_, requirements, checkers, same, parts, first, second⟩
      obtain rfl := Value.table.inj same
      obtain ⟨read, isRead⟩ : ∃ read, sectionOf requirementOf [] requirements = .ok read :=
        sectionOf_isOk_iff.mpr first
      obtain ⟨built, isBuilt⟩ : ∃ built, sectionOf checkerOf [] checkers = .ok built :=
        sectionOf_isOk_iff.mpr second
      exact ⟨_, bind_eq_ok_iff.mpr ⟨_, sections_eq_ok_iff.mpr parts, bind_eq_ok_iff.mpr ⟨read, isRead,
        bind_eq_ok_iff.mpr ⟨built, isBuilt, rfl⟩⟩⟩⟩
  | _ => simp

end Sections

section Limits

variable {α β : Type}

def FailsAtLimit (x : Except ConfigFault α) : Prop :=
  ∃ f, x = .error f ∧ f.isLimit = true

theorem failsAtLimit_bind_iff {x : Except ConfigFault α} {g : α → Except ConfigFault β} :
    FailsAtLimit (x >>= g) ↔ FailsAtLimit x ∨ ∃ a, x = .ok a ∧ FailsAtLimit (g a) := by
  unfold FailsAtLimit
  cases x with
  | ok a => simp [bind, Except.bind]
  | error f => simp [bind, Except.bind]

theorem failsAtLimit_map_iff {x : Except ConfigFault α} {g : α → β} :
    FailsAtLimit (g <$> x) ↔ FailsAtLimit x := by
  simp only [FailsAtLimit, map_eq_error_iff]

variable {place name : String} {v : Value} {entries : List (Value × Value)}

theorem constraintOf_not_limit : ¬ FailsAtLimit (constraintOf place entries) := by
  cases known : knownOperator? (operatorIn entries) with
  | none =>
    rw [constraintOf_of_unknown known]
    cases long : (operatorIn entries).holdsLong <;>
      simp [shown, long, Except.bind, FailsAtLimit, ConfigFault.isLimit]
  | some op =>
    rw [constraintOf_of_known known]
    split <;> simp [FailsAtLimit, ConfigFault.isLimit]

theorem itemOf_not_limit : ¬ FailsAtLimit (itemOf place v) := by
  unfold itemOf
  cases v.bare with
  | table entries => exact constraintOf_not_limit
  | _ => simp [FailsAtLimit, ConfigFault.isLimit]

theorem itemsFrom_not_limit {number : Nat} {items : List Value} :
    ¬ FailsAtLimit (itemsFrom place number items) := by
  induction items generalizing number with
  | nil => simp [itemsFrom, FailsAtLimit]
  | cons v rest ih =>
    rw [itemsFrom, failsAtLimit_bind_iff]
    rintro (first | ⟨c, -, later⟩)
    · exact itemOf_not_limit first
    · rw [failsAtLimit_bind_iff] at later
      rcases later with more | ⟨_, -, _, done, -⟩
      · exact ih more
      · cases done

theorem requirementOf_not_limit : ¬ FailsAtLimit (requirementOf name v) := by
  unfold requirementOf
  dsimp only
  cases v.bare with
  | table entries => exact failsAtLimit_map_iff.not.mpr constraintOf_not_limit
  | list items | tuple items => exact failsAtLimit_map_iff.not.mpr itemsFrom_not_limit
  | _ => simp [FailsAtLimit, ConfigFault.isLimit]

theorem commandOf_not_limit : ¬ FailsAtLimit (commandOf place v) := by
  cases v <;> simp [commandOf, FailsAtLimit, ConfigFault.isLimit]

theorem flagOf_not_limit : ¬ FailsAtLimit (flagOf place v) := by
  unfold flagOf
  cases v.bare with
  | list items | tuple items =>
    cases texts : texts? items <;> simp [texts, FailsAtLimit, ConfigFault.isLimit]
  | _ => simp [FailsAtLimit, ConfigFault.isLimit]

theorem componentsOf_not_limit : ¬ FailsAtLimit (componentsOf place v) := by
  cases v <;> simp [componentsOf, FailsAtLimit, ConfigFault.isLimit]

theorem checkerOf_failsAtLimit_iff [CharacterNames] :
    FailsAtLimit (checkerOf name v) ↔ ∃ options, v.bare = .table options ∧ MeetsLimit options := by
  unfold checkerOf
  cases bare : v.bare with
  | table options =>
    simp only [failsAtLimit_bind_iff, commandOf_not_limit, flagOf_not_limit, componentsOf_not_limit,
      false_or]
    constructor
    · rintro ⟨command, isCommand, flag, isFlag, limit | ⟨_, -, _, -, _, done, -⟩⟩
      · obtain ⟨source, f, option, compiled, beyond⟩ := ruleOf_isLimit_iff.mp limit
        exact ⟨options, rfl, commandOf_isOk_iff.mp ⟨command, isCommand⟩,
          ⟨_, optionIs_iff.mpr rfl, flagOf_isOk_iff.mp ⟨flag, isFlag⟩⟩,
          source, f, optionIs_iff.mpr option, compiled, beyond⟩
      · cases done
    · rintro ⟨_, same, isCommand, ⟨flagValue, flagIs, isFlag⟩, ⟨source, f, ruleIs, compiled, beyond⟩⟩
      obtain rfl := Value.table.inj same
      obtain rfl := optionIs_iff.mp flagIs
      obtain ⟨command, isCommand⟩ := commandOf_isOk_iff.mpr isCommand
      obtain ⟨flag, isFlag⟩ := flagOf_isOk_iff.mpr isFlag
      exact ⟨command, isCommand, flag, isFlag,
        .inl (ruleOf_isLimit_iff.mpr ⟨source, f, optionIs_iff.mp ruleIs, compiled, beyond⟩)⟩
  | _ => simp [FailsAtLimit, ConfigFault.isLimit]

theorem sectionEntries_not_limit {v : Option Value} : ¬ FailsAtLimit (sectionEntries name v) := by
  unfold sectionEntries
  cases v with
  | none => simp [FailsAtLimit]
  | some v =>
    cases truthy : v.isTruthy <;> cases bare : v.bare <;>
      simp [truthy, bare, FailsAtLimit, ConfigFault.isLimit]

theorem sections_not_limit : ¬ FailsAtLimit (sections entries) := by
  unfold sections
  dsimp only
  split
  next =>
    simp only [failsAtLimit_bind_iff, sectionEntries_not_limit, false_or]
    rintro ⟨_, -, _, -, _, done, -⟩
    cases done
  next =>
    rintro ⟨_, done, -⟩
    cases done

theorem sectionOf_failsAtLimit_iff {read : String → Value → Except ConfigFault α}
    {start : Named α} :
    FailsAtLimit (sectionOf read start entries) ↔ FirstFaulty (IsEntry read)
      (fun e => e.1.holdsLong = false ∧ FailsAtLimit (read e.1.display e.2)) entries := by
  constructor
  · rintro ⟨f, failed, limit⟩
    refine (sectionOf_eq_error_iff.mp failed).imp fun e fault => ?_
    rcases fault with ⟨-, rfl⟩ | ⟨short, unread⟩
    · cases limit
    · exact ⟨short, f, unread, limit⟩
  · rintro ⟨before, e, after, whole, fine, short, f, unread, limit⟩
    exact ⟨f, sectionOf_eq_error_iff.mpr ⟨before, e, after, whole, fine, .inr ⟨short, unread⟩⟩,
      limit⟩

/-- Validation fails because of a limit of patterns exactly where the pattern of a rule is beyond
it. -/
theorem validate_failsAtLimit_iff [CharacterNames] {data : Value} (source : Option String) :
    FailsAtLimit (validate data source) ↔ StopsAtPattern data := by
  have first {requirements : List (Value × Value)} :
      ¬ FailsAtLimit (sectionOf requirementOf [] requirements) := by
    rw [sectionOf_failsAtLimit_iff]
    rintro ⟨_, _, _, -, -, -, limit⟩
    exact requirementOf_not_limit limit
  unfold validate StopsAtPattern
  cases bare : data.bare with
  | table entries =>
    simp only [failsAtLimit_bind_iff, sections_not_limit, first, false_or]
    constructor
    · rintro ⟨⟨requirements, checkers⟩, parts, read, isRead, limit | ⟨_, -, _, done, -⟩⟩
      · refine ⟨entries, requirements, checkers, rfl, sections_eq_ok_iff.mp parts,
          sectionOf_isOk_iff.mp ⟨read, isRead⟩, ?_⟩
        refine (sectionOf_failsAtLimit_iff.mp limit).imp fun e fault => ?_
        exact ⟨fault.1, checkerOf_failsAtLimit_iff.mp fault.2⟩
      · cases done
    · rintro ⟨_, requirements, checkers, same, parts, well, fault⟩
      obtain rfl := Value.table.inj same
      obtain ⟨read, isRead⟩ : ∃ read, sectionOf requirementOf [] requirements = .ok read :=
        sectionOf_isOk_iff.mpr well
      refine ⟨(requirements, checkers), sections_eq_ok_iff.mpr parts, read, isRead, .inl ?_⟩
      refine sectionOf_failsAtLimit_iff.mpr (fault.imp fun e fault => ?_)
      exact ⟨fault.1, checkerOf_failsAtLimit_iff.mpr fault.2⟩
  | _ => simp [FailsAtLimit, ConfigFault.isLimit]

end Limits

section Exactness

variable {data : Value} {source : Option String}

theorem eq_of_ofConfig {f : ConfigFault} {e : ConfigError}
    (same : LoadFault.ofConfig source f = .config e) : e = ⟨f, source⟩ := by
  unfold LoadFault.ofConfig at same
  split at same
  next =>
    split at same
    next => cases same
    next => exact (LoadFault.config.inj same).symm
  next => cases same
  next => exact (LoadFault.config.inj same).symm

theorem valid_of_accepted [CharacterNames] {config : Config}
    (accepted : ofValue data source = .ok config) :
    Valid data := by
  obtain ⟨entries, requirements, checkers, bare, parts, first, second⟩ :=
    (validate_isOk_iff source).mp ⟨config, mapError_eq_ok_iff.mp accepted⟩
  exact ⟨entries, requirements, checkers, bare, parts,
    fun e among => (requirementOf_isOk_iff _).mp (first e among).2,
    fun e among => (checkerOf_isOk_iff _).mp (second e among).2⟩

/-- Of what describes a configuration, only keys that cannot be written are not accepted. -/
theorem accepted_of_valid [CharacterNames] (valid : Valid data) (writable : ¬ StopsAtNumber data)
    (source : Option String) : ∃ config, ofValue data source = .ok config := by
  obtain ⟨entries, requirements, checkers, bare, parts, first, second⟩ := valid
  have separated := sections_eq_ok_iff.mpr parts
  have requirement := isEntry_or_long fun e among => (requirementOf_isOk_iff _).mpr (first e among)
  have checker := isEntry_or_long fun e among => (checkerOf_isOk_iff _).mpr (second e among)
  rcases forall_or_firstFaulty requirement with well | stops
  · rcases forall_or_firstFaulty checker with built | stops
    · obtain ⟨config, accepted⟩ := (validate_isOk_iff source).mpr
        ⟨entries, requirements, checkers, bare, parts, well, built⟩
      exact ⟨config, mapError_eq_ok_iff.mpr accepted⟩
    · exact absurd ⟨entries, requirements, checkers, bare, separated, .inr ⟨well, stops⟩⟩ writable
  · refine absurd ⟨entries, requirements, checkers, bare, separated, .inl ?_⟩ writable
    exact stops.imp fun e long => .inl long

/-- Validation accepts what describes a configuration and nothing else, and whatever is wrong is a
fault of the configuration with the source that was given. -/
structure Exact [CharacterNames] (data : Value) (source : Option String) : Prop where
  accepts : (∃ config, ofValue data source = .ok config) ↔ Valid data
  attributed : ∀ fault, ofValue data source = .error fault → ∃ f, fault = .config ⟨f, source⟩

/-- Validation is exact unless it stops at a number that cannot be written or at a pattern beyond
the limits of patterns. -/
theorem exact_iff [CharacterNames] (data : Value) (source : Option String) :
    Exact data source ↔ ¬ StopsAtNumber data ∧ ¬ StopsAtPattern data := by
  constructor
  · rintro ⟨-, attributed⟩
    have config (fault : LoadFault) (failed : ofValue data source = .error fault) :
        IsConfig fault := by
      obtain ⟨f, same⟩ := attributed fault failed
      exact ⟨_, same⟩
    constructor
    · intro stops
      obtain ⟨failed, other⟩ := ofValue_escapes_iff.mpr (.inl ⟨stops, rfl⟩)
      exact other (config _ failed)
    · intro stops
      obtain ⟨f, invalid, limit⟩ := (validate_failsAtLimit_iff source).mpr stops
      unfold ConfigFault.isLimit at limit
      split at limit
      next text g =>
        obtain ⟨failed, other⟩ := ofValue_escapes_iff.mpr (.inr ⟨text, g, invalid, limit, rfl⟩)
        exact other (config _ failed)
      next => cases limit
  · rintro ⟨writable, within⟩
    refine ⟨⟨fun ⟨_, accepted⟩ => valid_of_accepted accepted,
      fun valid => accepted_of_valid valid writable source⟩, ?_⟩
    intro fault failed
    by_cases config : IsConfig fault
    · obtain ⟨e, rfl⟩ := config
      obtain ⟨f, -, same⟩ := mapError_eq_error_iff.mp failed
      exact ⟨f, congrArg _ (eq_of_ofConfig same)⟩
    · rcases ofValue_escapes_iff.mp ⟨failed, config⟩ with ⟨stops, -⟩ | ⟨text, g, invalid, limit, -⟩
      · exact absurd stops writable
      · exact absurd ((validate_failsAtLimit_iff source).mp ⟨_, invalid, limit⟩) within

def numberedOperator : Value :=
  .record [("node", .record [("version", .text "1"), ("operator", .int (Nat.pow 16 3600 - 1 : Nat))])]

/-- A number with more digits than are written is no operator, but no fault of the configuration
tells so. -/
theorem not_exact_of_long_operator : ¬ Exact numberedOperator none := by
  have long : (Value.int (Nat.pow 16 3600 - 1 : Nat)).holdsLong = true := by decide +kernel
  have stops : StopsAtNumber numberedOperator :=
    ⟨_, _, [], rfl, rfl, .inl ⟨[], _, [], rfl, by simp, .inr (.inl ⟨_, rfl, long⟩)⟩⟩
  obtain ⟨failed, other⟩ := ofValue_escapes_iff.mpr (.inl ⟨stops, rfl⟩)
  intro exact
  obtain ⟨f, same⟩ := exact.attributed _ failed
  exact other ⟨_, same⟩

end Exactness

end Config

end EnvDoctor
