import EnvDoctor.Proofs.Range.Tested
import EnvDoctor.Proofs.Version.Canonical
import EnvDoctor.Requirement.Verdict

/-!
# Verdicts as splits

Each constraint with a version text is held against the version apart from the others. If that gives
an answer for all of them, each becomes one entry of the verdict, under its own description, and the
verdict splits the constraints in two and keeps their order. There is no answer if the comparison
breaks off, which takes a numeric identifier that is too long, or if the canonical version text is no
range, which takes an identifier in the digits of another script.
-/

namespace EnvDoctor

/-- A text without characters beyond the ASCII range. -/
def IsAscii (s : String) : Prop :=
  ∀ c ∈ s.toList, c.toNat < 128

instance (s : String) : Decidable (IsAscii s) :=
  List.decidableBAll _ _

namespace Constraint

variable [VersionLibrary]

def ofPair (c : Operator × String) : Constraint :=
  ⟨c.1, .text c.2⟩

/-- The text of a constraint is a version beside which its operator means `v`. -/
def Admits (v : Version) (c : Operator × String) : Prop :=
  ∃ w ∈ Version.parse? c.2, c.1.Means w v

instance (v : Version) (c : Operator × String) : Decidable (Admits v c) :=
  inferInstanceAs (Decidable (∃ w ∈ Version.parse? c.2, c.1.Means w v))

/-- The operator and the canonical version text, or a complaint about the version text. -/
def description (c : Operator × String) : String :=
  match Version.clean? c.2 with
  | none => "Invalid version format: " ++ c.1.symbol ++ c.2
  | some cleaned => c.1.symbol ++ cleaned

/-- Whether a version is found to be admitted, if its comparison answers. -/
def answer (v : Version) (c : Operator × String) : Except Range.Fault Bool :=
  match Version.parse? c.2 with
  | none => .ok false
  | some w => do
    let range ← Range.parse (c.1.symbol ++ toString w)
    range.admits v

/-- Where the version text is none, nothing is compared. -/
theorem exists_version_of_fault {v : Version} {c : Operator × String} {fault : Range.Fault}
    (broken : answer v c = .error fault) : ∃ w, Version.parse? c.2 = some w := by
  cases version : Version.parse? c.2 with
  | none =>
    rw [answer, version] at broken
    cases broken
  | some w => exact ⟨w, rfl⟩

section Library

variable {isDigit : Char → Bool} [lawful : LawfulVersionLibrary isDigit] {v w : Version}
  {c : Operator × String} (strict : Version.AllStrict isDigit v.pre)
  (read : Version.parse? c.2 = some w)

include read in
omit lawful in
/-- A constraint whose version is written in ASCII stands for plain comparators. -/
theorem answer_of_wellFormed (wf : w.WellFormed Char.isDigit) :
    answer v c = Range.admits [(PartialVersion.full w).expand c.1] v := by
  rw [answer, read]
  dsimp only
  rw [Range.parse_symbol_append c.1 wf]
  rfl

include read lawful in
theorem strict_of_mem_expand (op : Operator) :
    ∀ x ∈ (PartialVersion.full w).expand op, Version.AllStrict isDigit x.bound.pre := by
  have written : Version.AllStrict isDigit (PartialVersion.full w).lower.pre :=
    (Version.wellFormed_of_parse? read).strict
  exact PartialVersion.strict_of_mem_expand lawful.digits written

include strict read lawful

theorem admits_iff_of_answer (wf : w.WellFormed Char.isDigit) {b : Bool}
    (answered : answer v c = .ok b) : b = true ↔ Admits v c := by
  rw [answer_of_wellFormed read wf] at answered
  rw [Comparator.forall_metBy_of_admits strict (strict_of_mem_expand read c.1) answered,
    PartialVersion.forall_metBy_expand_full, Admits, read]
  simp

theorem exists_answer_eq (wf : w.WellFormed Char.isDigit) (short : v.HasShortIdentifiers)
    (otherShort : w.HasShortIdentifiers) : ∃ b, answer v c = .ok b := by
  rw [answer_of_wellFormed read wf]
  exact Comparator.exists_admits_eq strict (strict_of_mem_expand read c.1) short
    (PartialVersion.short_of_mem_expand (p := .full w) otherShort)

/-- Only an identifier that is too long keeps a comparison from answering. -/
theorem not_short_of_fault (wf : w.WellFormed Char.isDigit) {fault : Range.Fault}
    (broken : answer v c = .error fault) :
    ¬ (v.HasShortIdentifiers ∧ w.HasShortIdentifiers) := by
  rintro ⟨short, otherShort⟩
  obtain ⟨b, answered⟩ := exists_answer_eq strict read wf short otherShort
  rw [broken] at answered
  cases answered

end Library

end Constraint

namespace Finding

/-- A constraint holds or fails as a proposition does. -/
def judge (holds : Prop) [Decidable holds] (description : String) : Finding :=
  if holds then .holds description else .fails description

variable {α : Type} (p : α → Prop) [DecidablePred p] (describe : α → String)

theorem filterMap_satisfied?_judge (xs : List α) :
    (xs.map fun x => judge (p x) (describe x)).filterMap satisfied? =
      (xs.filter fun x => p x).map describe := by
  induction xs with
  | nil => rfl
  | cons x xs ih =>
    rw [List.map_cons, List.filterMap_cons, ih]
    by_cases h : p x <;> simp [judge, satisfied?, h]

theorem filterMap_failed?_judge (xs : List α) :
    (xs.map fun x => judge (p x) (describe x)).filterMap failed? =
      (xs.filter fun x => ¬ p x).map describe := by
  induction xs with
  | nil => rfl
  | cons x xs ih =>
    rw [List.map_cons, List.filterMap_cons, ih]
    by_cases h : p x <;> simp [judge, failed?, h]

/-- A constraint with a version text is judged by its answer, under its description. -/
theorem ofConstraint_ofPair [VersionLibrary] (v : Version) (c : Operator × String) :
    ofConstraint v (Constraint.ofPair c) =
      (fun b => judge (b = true) (Constraint.description c)) <$> Constraint.answer v c := by
  obtain ⟨op, raw⟩ := c
  cases read : Version.parse? raw with
  | none =>
    simp [ofConstraint, judge, Constraint.ofPair, Constraint.answer, Constraint.description,
      Constraint.display, Version.ofValue?, Version.clean?, read,
      String.append_assoc]
  | some w =>
    simp only [ofConstraint, judge, Constraint.ofPair, Constraint.answer, Constraint.description,
      Version.ofValue?, Version.clean?, read, Option.map_some, map_bind]
    rfl

section Answers

variable [VersionLibrary] {v : Version} {cs : List (Operator × String)}

theorem mapM_ofConstraint_of_answers
    (answers : ∀ c ∈ cs, ∃ b, Constraint.answer v c = .ok b) :
    (cs.map Constraint.ofPair).mapM (ofConstraint v) =
      .ok (cs.map fun c => judge (Constraint.answer v c = .ok true) (Constraint.description c)) := by
  induction cs with
  | nil => rfl
  | cons c cs ih =>
    obtain ⟨⟨b, answered⟩, others⟩ := List.forall_mem_cons.mp answers
    have first : judge (b = true) (Constraint.description c) =
        judge (Constraint.answer v c = .ok true) (Constraint.description c) := by
      cases b <;> simp [judge, answered]
    rw [List.map_cons, List.mapM_cons, ofConstraint_ofPair, ih others, List.map_cons, ← first,
      answered]
    rfl

theorem exists_mapM_ofConstraint_eq_error {c : Operator × String} (among : c ∈ cs)
    {fault : Range.Fault} (broken : Constraint.answer v c = .error fault) :
    ∃ fault, (cs.map Constraint.ofPair).mapM (ofConstraint v) = .error fault := by
  cases done : (cs.map Constraint.ofPair).mapM (ofConstraint v) with
  | error fault => exact ⟨fault, rfl⟩
  | ok findings =>
    obtain ⟨finding, judged⟩ := exists_ok_of_mapM done (List.mem_map_of_mem among)
    rw [ofConstraint_ofPair, broken] at judged
    cases judged

end Answers

end Finding

namespace Verdict

section Library

variable [VersionLibrary] {current : String} {v : Version} {cs : List (Operator × String)}

theorem ofConstraints_of_parse?_eq_none (unread : Version.parse? current = none)
    (cs : List Constraint) : ofConstraints (.text current) cs = invalidCurrent := by
  simp [ofConstraints, Version.ofValue?, unread]

section Read

variable (read : Version.parse? current = some v)

include read

/-- If all constraints are answered, the verdict splits them by their answers. -/
theorem ofConstraints_of_answers (answers : ∀ c ∈ cs, ∃ b, Constraint.answer v c = .ok b) :
    ofConstraints (.text current) (cs.map Constraint.ofPair) =
      ⟨((cs.filter fun c => ¬ Constraint.answer v c = .ok true).map
          Constraint.description).isEmpty,
        (cs.filter fun c => Constraint.answer v c = .ok true).map Constraint.description,
        (cs.filter fun c => ¬ Constraint.answer v c = .ok true).map Constraint.description⟩ := by
  simp only [ofConstraints, Version.ofValue?, read, Finding.mapM_ofConstraint_of_answers answers,
    ofFindings, Finding.filterMap_satisfied?_judge, Finding.filterMap_failed?_judge]

theorem ofConstraints_of_fault {c : Operator × String} (among : c ∈ cs) {fault : Range.Fault}
    (broken : Constraint.answer v c = .error fault) :
    ofConstraints (.text current) (cs.map Constraint.ofPair) = processingError := by
  obtain ⟨fault, failed⟩ := Finding.exists_mapM_ofConstraint_eq_error among broken
  simp [ofConstraints, Version.ofValue?, read, failed]

omit read in
theorem answers_or_fault (v : Version) (cs : List (Operator × String)) :
    (∀ c ∈ cs, ∃ b, Constraint.answer v c = .ok b) ∨
      ∃ c ∈ cs, ∃ fault, Constraint.answer v c = .error fault := by
  by_cases answers : ∀ c ∈ cs, ∃ b, Constraint.answer v c = .ok b
  · exact .inl answers
  · simp only [not_forall] at answers
    obtain ⟨c, among, unanswered⟩ := answers
    refine .inr ⟨c, among, ?_⟩
    cases answered : Constraint.answer v c with
    | ok b => exact absurd ⟨b, answered⟩ unanswered
    | error fault => exact ⟨fault, rfl⟩

/-- Going through the answers up to the first negative one tells whether the verdict is
positive. -/
theorem satisfies_of_allM_answer {b : Bool} (answered : cs.allM (Constraint.answer v) = .ok b) :
    (ofConstraints (.text current) (cs.map Constraint.ofPair)).satisfies = b := by
  cases b with
  | true =>
    have all := allM_eq_true_iff.mp answered
    have none : (cs.filter fun c => ¬ Constraint.answer v c = .ok true) = [] := by
      rw [List.filter_eq_nil_iff]
      intro c among
      simp [all c among]
    rw [ofConstraints_of_answers read fun c among => ⟨true, all c among⟩, none]
    rfl
  | false =>
    obtain ⟨before, c, after, rfl, -, fails⟩ := allM_eq_false_iff.mp answered
    have among : c ∈ before ++ c :: after := by simp
    rcases answers_or_fault v (before ++ c :: after) with answers | ⟨d, inside, fault, broken⟩
    · have failed : c ∈ (before ++ c :: after).filter fun c => ¬ Constraint.answer v c = .ok true :=
        List.mem_filter.mpr ⟨among, by simp [fails]⟩
      rw [ofConstraints_of_answers read answers, Bool.eq_false_iff, Ne, List.isEmpty_iff,
        List.map_eq_nil_iff]
      exact List.ne_nil_of_mem failed
    · rw [ofConstraints_of_fault read inside broken]
      rfl

end Read

end Library

section Lawful

variable [VersionLibrary] {isDigit : Char → Bool} [lawful : LawfulVersionLibrary isDigit]

include lawful

end Lawful

/-- The version with the numbers of a constraint and an identifier that is too long: the comparison
breaks off, and no entry of the verdict is left. -/
theorem answer_longPrerelease : Constraint.answer (.longPrerelease 1 0 0) (.equal, "1.0.0-1") =
    .error (.incomparable (Numeral.TooLong.message ⟨some 4301⟩)) := by
  have version : Version.parse? "1.0.0-1" = some ⟨1, 0, 0, [['1']]⟩ := by decide +kernel
  have wf : Version.WellFormed Char.isDigit ⟨1, 0, 0, [['1']]⟩ := by
    refine ⟨by decide, ?_⟩
    unfold Version.AllStrict
    decide
  rw [Constraint.answer_of_wellFormed (c := (.equal, "1.0.0-1")) version wf]
  exact Range.admits_eq_error (Version.strictCompare_longPrerelease 1 0 0 rfl)

section Lawful

variable [VersionLibrary] {isDigit : Char → Bool} [lawful : LawfulVersionLibrary isDigit]

/-- No description of a constraint is the complaint about constraints that cannot be gone through:
it begins with an operator or with the word for what is not valid. -/
theorem description_ne_processingError (c : Operator × String) :
    Constraint.description c ≠ "Error processing version requirement" := by
  obtain ⟨op, raw⟩ := c
  intro same
  unfold Constraint.description at same
  split at same
  · have first := congrArg (fun s : String => s.toList.head?) same
    simp at first
  · have first := congrArg (fun s : String => s.toList.head?) same
    cases op <;> simp [Operator.symbol] at first

/-- A verdict that cannot be given for the whole is one on a constraint without an answer. -/
theorem exists_fault_of_processingError {current : String} {cs : List (Operator × String)}
    (failed : "Error processing version requirement" ∈
      (ofConstraints (.text current) (cs.map Constraint.ofPair)).failed) :
    ∃ v, Version.parse? current = some v ∧
      ∃ c ∈ cs, ∃ fault, Constraint.answer v c = .error fault := by
  cases read : Version.parse? current with
  | none =>
    rw [ofConstraints_of_parse?_eq_none read] at failed
    simp [invalidCurrent] at failed
  | some v =>
    rcases answers_or_fault v cs with answers | fault
    · rw [ofConstraints_of_answers read answers] at failed
      obtain ⟨c, -, same⟩ := List.mem_map.mp failed
      exact absurd same (description_ne_processingError c)
    · exact ⟨v, rfl, fault⟩

include lawful

end Lawful

end Verdict

end EnvDoctor
