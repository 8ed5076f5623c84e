import EnvDoctor.Proofs.Config.Unwritable
import EnvDoctor.Requirement.Parser
import EnvDoctor.Text.CharacterName

/-!
# Requirements as they are stored

Validation reads tables of an operator and a version strictly; requirements that come from elsewhere
are read with empty texts for what is missing. Both readings agree on all that validation accepts,
so a stored requirement has the constraints of the value that it was read from.
-/

namespace EnvDoctor.Config

def entriesOf (v : Value) : List (Value × Value) :=
  match v.bare with
  | .table entries => entries
  | _ => []

/-- The entries that are read as requirements: those of the section for them if there is a section
at all, and otherwise all. -/
def listed (data : Value) : List (Value × Value) :=
  let entries := entriesOf data
  match Value.lookup "requirements" entries, Value.lookup "checkers" entries with
  | none, none => entries
  | requirements, _ => (requirements.map entriesOf).getD []

section Readings

variable {place name : String} {v : Value} {entries : List (Value × Value)}

theorem fieldText_of_lookup {key s : String} (field : Value.lookup key entries = some (.text s)) :
    Constraint.fieldText key entries = .ok s := by
  unfold Constraint.fieldText
  rw [field]
  by_cases empty : s = ""
  · simp [empty, Value.isTruthy]
  · simp [empty, Value.isTruthy]

theorem lookup_of_knownOperator? {op : Operator}
    (known : knownOperator? (operatorIn entries) = some op) :
    Value.lookup "operator" entries = some (.text op.symbol) := by
  unfold operatorIn at known
  cases field : Value.lookup "operator" entries with
  | none =>
    rw [field] at known
    cases known
  | some v =>
    rw [field, Option.getD_some] at known
    cases v with
    | text s => rw [Operator.eq_symbol_of_ofSymbol? known]
    | _ => cases known

/-- The strict reading of a table is a case of the lenient one. -/
theorem ofEntries_of_constraintOf {c : Constraint} (accepted : constraintOf place entries = .ok c) :
    Constraint.ofEntries entries = .ok c := by
  obtain ⟨op, version, known, text⟩ := constraintOf_isOk_iff.mp ⟨c, accepted⟩
  have same : c = ⟨op, .text version⟩ := by
    rw [constraintOf_of_known known, text] at accepted
    exact (Except.ok.inj accepted).symm
  rw [Constraint.ofEntries, fieldText_of_lookup (lookup_of_knownOperator? known),
    fieldText_of_lookup text, same]
  simp [Constraint.make, bind, Except.bind]

theorem ofItem_of_itemOf {c : Constraint} (accepted : itemOf place v = .ok c) :
    Constraint.ofItem v = .ok c := by
  unfold itemOf at accepted
  unfold Constraint.ofItem
  cases bare : v.bare with
  | constraint op version => simpa [bare] using accepted
  | table entries =>
    rw [bare] at accepted
    exact ofEntries_of_constraintOf accepted
  | _ => simp [bare] at accepted

theorem mapM_ofItem_of_itemsFrom {number : Nat} {items : List Value} {cs : List Constraint}
    (accepted : itemsFrom place number items = .ok cs) : items.mapM Constraint.ofItem = .ok cs := by
  induction items generalizing number cs with
  | nil =>
    cases accepted
    rfl
  | cons v rest ih =>
    obtain ⟨c, first, accepted⟩ := bind_eq_ok_iff.mp accepted
    obtain ⟨others, more, same⟩ := bind_eq_ok_iff.mp accepted
    cases same
    rw [List.mapM_cons, ofItem_of_itemOf first, ih more]
    rfl

/-- A value that is accepted as a requirement has the constraints of what is stored for it. -/
theorem listOfValue_of_requirementOf {r : Requirement} (accepted : requirementOf name v = .ok r) :
    Constraint.listOfValue v = .ok (Constraint.ofRequirement r) := by
  unfold requirementOf at accepted
  unfold Constraint.listOfValue
  dsimp only at accepted
  cases bare : v.bare with
  | text s =>
    rw [bare] at accepted
    cases accepted
    rfl
  | constraint op version =>
    rw [bare] at accepted
    cases accepted
    rfl
  | table entries =>
    rw [bare] at accepted
    obtain ⟨c, read, same⟩ := map_eq_ok_iff.mp accepted
    subst same
    exact bind_eq_ok_iff.mpr ⟨c, ofEntries_of_constraintOf read, rfl⟩
  | list items | tuple items =>
    rw [bare] at accepted
    obtain ⟨cs, read, same⟩ := map_eq_ok_iff.mp accepted
    subst same
    exact mapM_ofItem_of_itemsFrom read
  | _ => simp [bare] at accepted

end Readings

section Sections

variable {α : Type} {read : String → Value → Except ConfigFault α}

theorem find?_sectionOf_of_notMem {start things : Named α} {entries : List (Value × Value)}
    (done : sectionOf read start entries = .ok things) {name : String}
    (other : name ∉ entries.map fun e => e.1.display) : things.find? name = start.find? name := by
  induction entries generalizing start with
  | nil =>
    cases done
    rfl
  | cons e rest ih =>
    obtain ⟨key, written, done⟩ := bind_eq_ok_iff.mp done
    obtain ⟨-, rfl⟩ := shown_eq_ok_iff.mp written
    obtain ⟨a, -, done⟩ := bind_eq_ok_iff.mp done
    rw [List.map_cons, List.mem_cons, not_or] at other
    rw [ih done other.2, Named.find?_set, if_neg (Ne.symm other.1)]

/-- Entries under distinct new names are stored in order, each under its name. -/
theorem stored_of_sectionOf {start things : Named α} {entries : List (Value × Value)}
    (done : sectionOf read start entries = .ok things)
    (distinct : (start.names ++ entries.map fun e => e.1.display).Nodup) :
    things.names = start.names ++ (entries.map fun e => e.1.display) ∧
      ∀ e ∈ entries, ∃ a, things.find? e.1.display = some a ∧ read e.1.display e.2 = .ok a := by
  induction entries generalizing start with
  | nil =>
    cases done
    simp
  | cons e rest ih =>
    obtain ⟨key, written, done⟩ := bind_eq_ok_iff.mp done
    obtain ⟨-, rfl⟩ := shown_eq_ok_iff.mp written
    obtain ⟨a, value, done⟩ := bind_eq_ok_iff.mp done
    obtain ⟨-, others, apart⟩ := List.nodup_append.mp distinct
    have fresh : e.1.display ∉ start.names := by
      intro held
      exact apart _ held _ List.mem_cons_self rfl
    have names : (start.set e.1.display a).names = start.names ++ [e.1.display] := by
      rw [Named.names_set, if_neg fresh]
    have step := ih done (by simpa [names] using distinct)
    rw [names] at step
    refine ⟨by simpa using step.1, ?_⟩
    intro e' among
    rcases List.mem_cons.mp among with rfl | among
    · refine ⟨a, ?_, value⟩
      rw [find?_sectionOf_of_notMem done (List.nodup_cons.mp others).1, Named.find?_set, if_pos rfl]
    · exact step.2 e' among

end Sections

theorem entriesOf_of_not_truthy {v : Value} (absent : v.isTruthy = false) : entriesOf v = [] := by
  cases v with
  | table entries => simpa [Value.isTruthy, entriesOf, Value.bare] using absent
  | knot label v => cases absent
  | _ => rfl

theorem eq_entriesOf_of_sectionEntries {name : String} {v : Option Value}
    {entries : List (Value × Value)} (accepted : sectionEntries name v = .ok entries) :
    entries = (v.map entriesOf).getD [] := by
  unfold sectionEntries at accepted
  cases v with
  | none => exact (Except.ok.inj accepted).symm
  | some v =>
    dsimp only at accepted
    split at accepted
    next absent =>
      cases accepted
      exact (entriesOf_of_not_truthy (by simpa using absent)).symm
    next =>
      split at accepted
      next entries' bare =>
        cases accepted
        simp [entriesOf, bare]
      next => cases accepted

theorem eq_listed_of_sections {data : Value} {entries requirements checkers : List (Value × Value)}
    (table : data.bare = .table entries) (parts : sections entries = .ok (requirements, checkers)) :
    requirements = listed data := by
  have own : entriesOf data = entries := by
    unfold entriesOf
    rw [table]
  unfold sections at parts
  unfold listed
  rw [own]
  dsimp only at parts ⊢
  split at parts
  next present =>
    obtain ⟨first, accepted, parts⟩ := bind_eq_ok_iff.mp parts
    obtain ⟨second, -, same⟩ := bind_eq_ok_iff.mp parts
    cases same
    rw [eq_entriesOf_of_sectionEntries accepted]
    split
    next requirements checkers => simp [requirements, checkers] at present
    next => rfl
  next absent =>
    cases parts
    split
    next => rfl
    next other => simp_all

theorem sectionEntries_of_bare {v : Value} {entries : List (Value × Value)}
    (table : v.bare = .table entries) (name : String) :
    sectionEntries name (some v) = .ok entries := by
  have own : entriesOf v = entries := by simp [entriesOf, table]
  unfold sectionEntries
  cases present : v.isTruthy with
  | false => simp [present, ← own, entriesOf_of_not_truthy present]
  | true => simp [present, table]

/-- A table without sections is read as one with a section of all its entries. -/
theorem sections_single {m : Value} {entries : List (Value × Value)}
    (table : m.bare = .table entries)
    (noRequirements : Value.lookup "requirements" entries = none)
    (noCheckers : Value.lookup "checkers" entries = none) :
    sections [(.text "requirements", m)] = sections entries := by
  have flat : sections entries = .ok (entries, []) := by
    unfold sections
    simp [noRequirements, noCheckers]
    rfl
  rw [flat]
  refine bind_eq_ok_iff.mpr ⟨entries, sectionEntries_of_bare table _, ?_⟩
  exact bind_eq_ok_iff.mpr ⟨[], rfl, rfl⟩

/-- An accepted value whose requirements have distinct names is stored name by name in order, and
each stored requirement has the constraints of the value that it comes from. A table without
sections is a section of requirements. -/
theorem keeps_requirements [CharacterNames] :
    (∀ (data : Value) (source : Option String) (config : Config),
      ofValue data source = .ok config → ((listed data).map fun e => e.1.display).Nodup →
        config.requirements.names = (listed data).map (fun e => e.1.display) ∧
        ∀ e ∈ listed data, ∃ r cs, config.requirements.find? e.1.display = some r ∧
          Constraint.listOfValue r.toValue = .ok cs ∧ Constraint.listOfValue e.2 = .ok cs) ∧
    ∀ (m : Value) (entries : List (Value × Value)) (source : Option String),
      m.bare = .table entries → Value.lookup "requirements" entries = none →
        Value.lookup "checkers" entries = none →
        ofValue m source = ofValue (.record [("requirements", m)]) source := by
  constructor
  · intro data source config accepted distinct
    have valid : validate data source = .ok config := mapError_eq_ok_iff.mp accepted
    unfold validate at valid
    split at valid
    next entries table =>
      obtain ⟨⟨requirements, checkers⟩, parts, valid⟩ := bind_eq_ok_iff.mp valid
      obtain ⟨stored, read, valid⟩ := bind_eq_ok_iff.mp valid
      obtain ⟨_, -, same⟩ := bind_eq_ok_iff.mp valid
      cases same
      obtain rfl := eq_listed_of_sections table parts
      obtain ⟨names, each⟩ := stored_of_sectionOf read (by simpa using distinct)
      refine ⟨by simpa using names, ?_⟩
      intro e among
      obtain ⟨r, found, accepted⟩ := each e among
      exact ⟨r, _, found, Constraint.listOfValue_toValue r, listOfValue_of_requirementOf accepted⟩
    next => cases valid
  · intro m entries source table noRequirements noCheckers
    have same := sections_single table noRequirements noCheckers
    rw [ofValue, ofValue, validate, validate, table]
    simp only [Value.record, Value.bare, List.map_cons, List.map_nil, same]

/-- Requirements of all forms, one of them under a key that is no text. -/
def shapes : Value :=
  .table
    [(.text "node", .text ">= 18, x"),
     (.bool true, .record [("version", .text ""), ("operator", .text "^")]),
     (.text "git", .constraint .below (.bool true)),
     (.text "npm", .tuple [.constraint .atLeast (.text "8"),
       .record [("operator", .text "<"), ("version", .text "11.0.0")]])]

def storedShapes : Config where
  requirements :=
    [("node", .text ">= 18, x"), ("True", .one ⟨.caret, .text ""⟩), ("git", .one ⟨.below, .bool true⟩),
     ("npm", .all [⟨.atLeast, .text "8"⟩, ⟨.below, .text "11.0.0"⟩])]
  checkers := []
  source := some "inline"

theorem keeps_requirements_shapes :
    ofValue (.record [("requirements", shapes)]) (some "inline") = .ok storedShapes ∧
      ((listed (.record [("requirements", shapes)])).map fun e => e.1.display) =
        ["node", "True", "git", "npm"] ∧
      storedShapes.requirements.names = ["node", "True", "git", "npm"] ∧
      (∀ e ∈ listed (.record [("requirements", shapes)]), ∃ r cs,
        storedShapes.requirements.find? e.1.display = some r ∧
          Constraint.listOfValue r.toValue = .ok cs ∧ Constraint.listOfValue e.2 = .ok cs) ∧
      ofValue shapes (some "inline") =
        ofValue (.record [("requirements", shapes)]) (some "inline") := by
  have accepted : ofValue (.record [("requirements", shapes)]) (some "inline") =
      .ok storedShapes := rfl
  have names : ((listed (.record [("requirements", shapes)])).map fun e => e.1.display) =
      ["node", "True", "git", "npm"] := by decide +kernel
  obtain ⟨same, each⟩ := keeps_requirements.1 _ _ _ accepted (by rw [names]; decide)
  exact ⟨accepted, names, same.trans names, each,
    keeps_requirements.2 shapes _ (some "inline") rfl rfl rfl⟩

end EnvDoctor.Config
