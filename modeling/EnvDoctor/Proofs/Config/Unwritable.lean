import EnvDoctor.Config.Validation
import EnvDoctor.Proofs.Outcome

/-!
# Numbers that cannot be written

Validation writes out the keys of sections, and operators that it does not know. A number that is
too long for that stops it, unless something else is wrong before.
-/

namespace EnvDoctor.Config

def operatorIn (entries : List (Value × Value)) : Value :=
  (Value.lookup "operator" entries).getD .null

def knownOperator? : Value → Option Operator
  | .text s => Operator.ofSymbol? s
  | _ => none

/-- A table of an operator and a version whose operator cannot be written. -/
def UnwritableConstraint (v : Value) : Prop :=
  ∃ entries, v.bare = .table entries ∧ (operatorIn entries).holdsLong = true

/-- A table of a known operator and a version text. -/
def IsConstraint (entries : List (Value × Value)) : Prop :=
  ∃ op version, knownOperator? (operatorIn entries) = some op ∧
    Value.lookup "version" entries = some (.text version)

def IsItem (v : Value) : Prop :=
  (∃ op version, v.bare = .constraint op version) ∨
    ∃ entries, v.bare = .table entries ∧ IsConstraint entries

/-- A requirement in which an operator cannot be written, all before it being well. -/
def UnwritableRequirement (v : Value) : Prop :=
  UnwritableConstraint v ∨ ∃ items, (v.bare = .list items ∨ v.bare = .tuple items) ∧
    FirstFaulty IsItem UnwritableConstraint items

/-- An entry of a section whose key can be written and whose value can be read. -/
def IsEntry {α : Type} (read : String → Value → Except ConfigFault α) (e : Value × Value) : Prop :=
  e.1.holdsLong = false ∧ ∃ a, read e.1.display e.2 = .ok a

/-- A key or an operator cannot be written, and all before it is well: first the requirements, then
the checkers. -/
def StopsAtNumber [CharacterNames] (data : Value) : Prop :=
  ∃ entries requirements checkers, data.bare = .table entries ∧
    sections entries = .ok (requirements, checkers) ∧
    (FirstFaulty (IsEntry requirementOf)
        (fun e => e.1.holdsLong = true ∨ UnwritableRequirement e.2) requirements ∨
      (∀ e ∈ requirements, IsEntry requirementOf e) ∧
        FirstFaulty (IsEntry checkerOf) (fun e => e.1.holdsLong = true) checkers)

theorem shown_eq_ok_iff {form : Value → String} {v : Value} {s : String} :
    shown form v = .ok s ↔ v.holdsLong = false ∧ s = form v := by
  unfold shown
  cases v.holdsLong <;> simp [eq_comm]

theorem shown_eq_error_iff {form : Value → String} {v : Value} {fault : ConfigFault} :
    shown form v = .error fault ↔ v.holdsLong = true ∧ fault = .numberTooLong ⟨none⟩ := by
  unfold shown
  cases v.holdsLong <;> simp [eq_comm]

variable {place : String} {n : Numeral.TooLong}

theorem holdsLong_of_knownOperator? {v : Value} {op : Operator} (known : knownOperator? v = some op) :
    v.holdsLong = false := by
  cases v with
  | text s => rfl
  | _ => cases known

theorem constraintOf_of_unknown {entries : List (Value × Value)}
    (unknown : knownOperator? (operatorIn entries) = none) :
    constraintOf place entries = (shown Value.literal (operatorIn entries)).bind fun operator =>
      .error (.unsupportedOperator place operator) := by
  unfold constraintOf
  dsimp only
  split
  next => rfl
  next known _ => cases unknown.symm.trans known
  next known _ => cases unknown.symm.trans known

theorem constraintOf_of_known {entries : List (Value × Value)} {op : Operator}
    (known : knownOperator? (operatorIn entries) = some op) :
    constraintOf place entries =
      match Value.lookup "version" entries with
      | some (.text version) => .ok ⟨op, .text version⟩
      | _ => .error (.versionNotText place) := by
  unfold constraintOf
  dsimp only
  split
  next unknown => cases known.symm.trans unknown
  next op' version same text =>
    obtain rfl : op = op' := Option.some.inj (known.symm.trans same)
    rw [text]
    rfl
  next noText =>
    split
    next version text => exact absurd text (noText version)
    next => rfl

theorem constraintOf_isOk_iff {entries : List (Value × Value)} :
    (∃ c, constraintOf place entries = .ok c) ↔ IsConstraint entries := by
  unfold IsConstraint
  cases known : knownOperator? (operatorIn entries) with
  | none =>
    rw [constraintOf_of_unknown known]
    cases long : (operatorIn entries).holdsLong <;> simp [shown, long, Except.bind]
  | some op =>
    rw [constraintOf_of_known known]
    split
    next version text => simp [text]
    next other => simpa using other

theorem constraintOf_eq_numberTooLong_iff {entries : List (Value × Value)} :
    constraintOf place entries = .error (.numberTooLong n) ↔
      (operatorIn entries).holdsLong = true ∧ n = ⟨none⟩ := by
  cases known : knownOperator? (operatorIn entries) with
  | none =>
    rw [constraintOf_of_unknown known]
    cases long : (operatorIn entries).holdsLong <;> simp [shown, long, Except.bind, eq_comm]
  | some op =>
    rw [constraintOf_of_known known, holdsLong_of_knownOperator? known]
    split <;> simp

theorem itemOf_eq_numberTooLong_iff {v : Value} :
    itemOf place v = .error (.numberTooLong n) ↔ UnwritableConstraint v ∧ n = ⟨none⟩ := by
  unfold itemOf UnwritableConstraint
  cases bare : v.bare with
  | table entries => simp [constraintOf_eq_numberTooLong_iff]
  | _ => simp

theorem itemOf_isOk_iff (place : String) {v : Value} :
    (∃ c, itemOf place v = .ok c) ↔ IsItem v := by
  unfold itemOf IsItem
  cases bare : v.bare with
  | table entries => simp [constraintOf_isOk_iff]
  | constraint op version => simp
  | _ => simp

theorem itemsFrom_eq_numberTooLong_iff {number : Nat} {items : List Value} :
    itemsFrom place number items = .error (.numberTooLong n) ↔
      FirstFaulty IsItem UnwritableConstraint items ∧ n = ⟨none⟩ := by
  induction items generalizing number with
  | nil => simp [itemsFrom, not_firstFaulty_nil]
  | cons v rest ih =>
    rw [itemsFrom, bind_eq_error_iff, itemOf_eq_numberTooLong_iff, firstFaulty_cons_iff,
      ← itemOf_isOk_iff (place ++ "[" ++ toString number ++ "]")]
    simp only [bind_eq_error_iff, ih]
    constructor
    · rintro (⟨long, same⟩ | ⟨c, item, ⟨first, same⟩ | ⟨cs, -, done⟩⟩)
      · exact ⟨.inl long, same⟩
      · exact ⟨.inr ⟨⟨c, item⟩, first⟩, same⟩
      · cases done
    · rintro ⟨long | ⟨⟨c, item⟩, first⟩, same⟩
      · exact .inl ⟨long, same⟩
      · exact .inr ⟨c, item, .inl ⟨first, same⟩⟩

theorem not_unwritableConstraint {v : Value} (noTable : ∀ entries, v.bare ≠ .table entries) :
    ¬ UnwritableConstraint v := by
  rintro ⟨entries, table, -⟩
  exact noTable entries table

theorem requirementOf_eq_numberTooLong_iff {name : String} {v : Value} :
    requirementOf name v = .error (.numberTooLong n) ↔ UnwritableRequirement v ∧ n = ⟨none⟩ := by
  unfold requirementOf UnwritableRequirement
  dsimp only
  cases bare : v.bare with
  | table entries =>
    simp [UnwritableConstraint, bare, map_eq_error_iff, constraintOf_eq_numberTooLong_iff]
  | list items =>
    have single := not_unwritableConstraint (v := v) (by simp [bare])
    simp [single, map_eq_error_iff, itemsFrom_eq_numberTooLong_iff]
  | tuple items =>
    have single := not_unwritableConstraint (v := v) (by simp [bare])
    simp [single, map_eq_error_iff, itemsFrom_eq_numberTooLong_iff]
  | _ => simp [UnwritableConstraint, bare]

theorem commandOf_ne_numberTooLong (v : Value) : commandOf place v ≠ .error (.numberTooLong n) := by
  cases v <;> simp [commandOf]

theorem flagOf_ne_numberTooLong (v : Value) : flagOf place v ≠ .error (.numberTooLong n) := by
  unfold flagOf
  split
  · simp
  · simp
  · split <;> simp
  · split <;> simp
  · simp

theorem ruleOf_ne_numberTooLong [CharacterNames] (v : Value) :
    ruleOf place v ≠ .error (.numberTooLong n) := by
  unfold ruleOf
  split
  next => simp
  next => split <;> simp
  next => split <;> simp
  next => split <;> simp
  next => simp

theorem componentsOf_ne_numberTooLong (v : Value) :
    componentsOf place v ≠ .error (.numberTooLong n) := by
  cases v <;> simp [componentsOf]

theorem checkerOf_ne_numberTooLong [CharacterNames] (name : String) (v : Value) :
    checkerOf name v ≠ .error (.numberTooLong n) := by
  unfold checkerOf
  dsimp only
  split
  next entries bare =>
    simp only [Ne, bind_eq_error_iff, commandOf_ne_numberTooLong, flagOf_ne_numberTooLong,
      ruleOf_ne_numberTooLong, componentsOf_ne_numberTooLong, false_or]
    rintro ⟨_, -, _, -, _, -, _, -, done⟩
    cases done
  next => simp

variable {α : Type} {read : String → Value → Except ConfigFault α}

theorem sectionOf_isOk_iff {start : Named α} {entries : List (Value × Value)} :
    (∃ things, sectionOf read start entries = .ok things) ↔ ∀ e ∈ entries, IsEntry read e := by
  induction entries generalizing start with
  | nil => simp [sectionOf]
  | cons e rest ih =>
    obtain ⟨key, v⟩ := e
    rw [List.forall_mem_cons]
    constructor
    · rintro ⟨things, done⟩
      obtain ⟨name, written, done⟩ := bind_eq_ok_iff.mp done
      obtain ⟨short, rfl⟩ := shown_eq_ok_iff.mp written
      obtain ⟨a, value, done⟩ := bind_eq_ok_iff.mp done
      exact ⟨⟨short, a, value⟩, ih.mp ⟨things, done⟩⟩
    · rintro ⟨⟨short, a, value⟩, more⟩
      obtain ⟨things, done⟩ :
          ∃ things, sectionOf read (start.set key.display a) rest = .ok things := ih.mpr more
      refine ⟨things, ?_⟩
      rw [sectionOf, bind_eq_ok_iff]
      refine ⟨_, shown_eq_ok_iff.mpr ⟨short, rfl⟩, ?_⟩
      exact bind_eq_ok_iff.mpr ⟨a, value, done⟩

theorem sectionOf_eq_error_iff {start : Named α} {entries : List (Value × Value)}
    {fault : ConfigFault} : sectionOf read start entries = .error fault ↔
      FirstFaulty (IsEntry read) (fun e => e.1.holdsLong = true ∧ fault = .numberTooLong ⟨none⟩ ∨
        e.1.holdsLong = false ∧ read e.1.display e.2 = .error fault) entries := by
  induction entries generalizing start with
  | nil => simp [sectionOf, not_firstFaulty_nil]
  | cons e rest ih =>
    obtain ⟨key, v⟩ := e
    rw [firstFaulty_cons_iff, sectionOf, bind_eq_error_iff, shown_eq_error_iff]
    dsimp only [IsEntry]
    constructor
    · rintro (long | ⟨name, written, failed⟩)
      · exact .inl (.inl long)
      · obtain ⟨short, rfl⟩ := shown_eq_ok_iff.mp written
        rcases bind_eq_error_iff.mp failed with unread | ⟨a, value, failed⟩
        · exact .inl (.inr ⟨short, unread⟩)
        · exact .inr ⟨⟨short, a, value⟩, ih.mp failed⟩
    · rintro ((long | ⟨short, unread⟩) | ⟨⟨short, a, value⟩, failed⟩)
      · exact .inl long
      · exact .inr ⟨_, shown_eq_ok_iff.mpr ⟨short, rfl⟩, bind_eq_error_iff.mpr (.inl unread)⟩
      · exact .inr ⟨_, shown_eq_ok_iff.mpr ⟨short, rfl⟩,
          bind_eq_error_iff.mpr (.inr ⟨a, value, ih.mpr failed⟩)⟩

theorem sectionEntries_ne_numberTooLong (name : String) (v : Option Value) :
    sectionEntries name v ≠ .error (.numberTooLong n) := by
  unfold sectionEntries
  split
  · simp
  · split
    · simp
    · split <;> simp

theorem sections_ne_numberTooLong (entries : List (Value × Value)) :
    sections entries ≠ .error (.numberTooLong n) := by
  unfold sections
  dsimp only
  split
  next =>
    simp only [Ne, bind_eq_error_iff, sectionEntries_ne_numberTooLong, false_or]
    rintro ⟨_, -, _, -, done⟩
    cases done
  next => nofun

theorem requirements_stop_iff {start : Named Requirement} {entries : List (Value × Value)} :
    sectionOf requirementOf start entries = .error (.numberTooLong n) ↔
      FirstFaulty (IsEntry requirementOf)
        (fun e => e.1.holdsLong = true ∨ UnwritableRequirement e.2) entries ∧ n = ⟨none⟩ := by
  rw [sectionOf_eq_error_iff]
  constructor
  · intro first
    obtain ⟨_, e, _, -, -, fault⟩ := id first
    have same : n = ⟨none⟩ := by
      rcases fault with ⟨-, same⟩ | ⟨-, unread⟩
      · exact ConfigFault.numberTooLong.inj same
      · exact (requirementOf_eq_numberTooLong_iff.mp unread).2
    refine ⟨first.imp fun e fault => ?_, same⟩
    rcases fault with ⟨long, -⟩ | ⟨-, unread⟩
    · exact .inl long
    · exact .inr (requirementOf_eq_numberTooLong_iff.mp unread).1
  · rintro ⟨first, rfl⟩
    refine first.imp fun e fault => ?_
    cases long : e.1.holdsLong with
    | true => exact .inl ⟨rfl, rfl⟩
    | false =>
      rcases fault with impossible | unwritable
      · rw [long] at impossible
        cases impossible
      · exact .inr ⟨rfl, requirementOf_eq_numberTooLong_iff.mpr ⟨unwritable, rfl⟩⟩

theorem checkers_stop_iff [CharacterNames] {start : Named Checker}
    {entries : List (Value × Value)} :
    sectionOf checkerOf start entries = .error (.numberTooLong n) ↔
      FirstFaulty (IsEntry checkerOf) (fun e => e.1.holdsLong = true) entries ∧ n = ⟨none⟩ := by
  rw [sectionOf_eq_error_iff]
  constructor
  · intro first
    have key {e : Value × Value} : (e.1.holdsLong = true ∧
        ConfigFault.numberTooLong n = .numberTooLong ⟨none⟩ ∨
          e.1.holdsLong = false ∧ checkerOf e.1.display e.2 = .error (.numberTooLong n)) →
        e.1.holdsLong = true ∧ n = ⟨none⟩ := by
      rintro (⟨long, same⟩ | ⟨-, unread⟩)
      · exact ⟨long, ConfigFault.numberTooLong.inj same⟩
      · exact absurd unread (checkerOf_ne_numberTooLong _ _)
    obtain ⟨_, e, _, -, -, fault⟩ := id first
    exact ⟨first.imp fun e fault => (key fault).1, (key fault).2⟩
  · rintro ⟨first, rfl⟩
    exact first.imp fun e long => .inl ⟨long, rfl⟩

/-- Validation fails because of a number exactly where a key or an operator cannot be written. -/
theorem validate_eq_numberTooLong_iff [CharacterNames] {data : Value} {source : Option String} :
    validate data source = .error (.numberTooLong n) ↔ StopsAtNumber data ∧ n = ⟨none⟩ := by
  unfold validate StopsAtNumber
  cases bare : data.bare with
  | table entries =>
    dsimp only
    rw [bind_eq_error_iff]
    constructor
    · rintro (failed | ⟨⟨requirements, checkers⟩, parts, failed⟩)
      · exact absurd failed (sections_ne_numberTooLong entries)
      · rcases bind_eq_error_iff.mp failed with stopped | ⟨read, all, failed⟩
        · obtain ⟨first, same⟩ := requirements_stop_iff.mp stopped
          exact ⟨⟨entries, requirements, checkers, rfl, parts, .inl first⟩, same⟩
        · have well := sectionOf_isOk_iff.mp ⟨read, all⟩
          rcases bind_eq_error_iff.mp failed with stopped | ⟨_, -, done⟩
          · obtain ⟨first, same⟩ := checkers_stop_iff.mp stopped
            exact ⟨⟨entries, requirements, checkers, rfl, parts, .inr ⟨well, first⟩⟩, same⟩
          · cases done
    · rintro ⟨⟨_, requirements, checkers, same, parts, stops⟩, number⟩
      obtain rfl := Value.table.inj same
      refine .inr ⟨(requirements, checkers), parts, bind_eq_error_iff.mpr ?_⟩
      rcases stops with first | ⟨well, first⟩
      · exact .inl (requirements_stop_iff.mpr ⟨first, number⟩)
      · obtain ⟨read, all⟩ := sectionOf_isOk_iff.mpr well
        refine .inr ⟨read, all, bind_eq_error_iff.mpr (.inl ?_)⟩
        exact checkers_stop_iff.mpr ⟨first, number⟩
  | _ => simp

end EnvDoctor.Config
