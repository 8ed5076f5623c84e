import EnvDoctor.Proofs.Range.Composition
import EnvDoctor.Proofs.Requirement.Split
import EnvDoctor.Proofs.Version.Canonical
import EnvDoctor.Requirement.Parser

/-!
# Requirement texts as ranges

A requirement text whose fragments are blank or made of an operator and a version can be read in
two ways: fragment by fragment as a list of constraints, or as a whole as a range. Both readings
find the same operators and versions, wherever blanks stand, so both give one verdict. Where a
comparison breaks off, the range fails, and the requirement is not satisfied.
-/

namespace EnvDoctor

/-- An operator and a version text, perhaps with a `v` in front of it, with the blanks before them,
between them and after them. -/
structure Clause where
  before : List Char
  operator : Operator
  gap : List Char
  marked : Bool
  version : List Char
  after : List Char

namespace Clause

def mark (c : Clause) : List Char :=
  if c.marked then ['v'] else []

def core (c : Clause) : List Char :=
  Text.trimRight c.version

def written (c : Clause) : List Char :=
  c.before ++ (c.operator.symbol.toList ++ c.gap ++ (c.mark ++ c.version)) ++ c.after

/-- The version text is in ASCII, begins with a digit and is a version; around it there are blanks
alone. -/
structure WellFormed [VersionLibrary] (c : Clause) : Prop where
  blankBefore : ∀ x ∈ c.before, Text.isBlank x = true
  blankGap : ∀ x ∈ c.gap, Text.isBlank x = true
  blankAfter : ∀ x ∈ c.after, Text.isBlank x = true
  ascii : ∀ x ∈ c.version, x.toNat < 128
  digit : ∃ d ∈ c.version.head?, d.isDigit = true
  isVersion : (Version.clean? (String.ofList c.version)).isSome = true

end Clause

/-- What stands between two commas of a requirement text. -/
inductive Fragment where
  | blank (blanks : List Char)
  | clause (c : Clause)

namespace Fragment

def written : Fragment → List Char
  | blank blanks => blanks
  | clause c => c.written

def WellFormed [VersionLibrary] : Fragment → Prop
  | blank blanks => ∀ x ∈ blanks, Text.isBlank x = true
  | clause c => c.WellFormed

def text (fragments : List Fragment) : String :=
  String.ofList (Text.joinWith [','] (fragments.map written))

/-- The operator and the version text that a fragment holds. -/
def constraint? : Fragment → Option (Operator × String)
  | blank _ => none
  | clause c => some (c.operator, String.ofList (c.mark ++ c.core))

end Fragment

namespace Constraint

theorem versionText?_append {gap body : List Char} (blankGap : ∀ c ∈ gap, Text.isBlank c = true)
    (inner : ∀ c ∈ body, Range.isInner c = true) (nonempty : body ≠ []) :
    versionText? (gap ++ body) = some body := by
  have left : Text.trimLeft (gap ++ body) = body := by
    apply (Text.takeWhile_append_of_stops blankGap _).2
    intro c hc
    exact Range.not_blank_of_isInner (inner c (List.mem_of_mem_head? hc))
  have oneLine : '\n' ∉ body := fun feed => absurd (inner '\n' feed) (by decide)
  simp [versionText?, left, nonempty, oneLine]

/-- A fragment of an operator and a version is read as such, whatever blanks stand around both. -/
theorem ofFragment?_operator_append {before gap body after : List Char} (op : Operator)
    (blankBefore : ∀ c ∈ before, Text.isBlank c = true)
    (blankGap : ∀ c ∈ gap, Text.isBlank c = true) (inner : ∀ c ∈ body, Range.isInner c = true)
    (nonempty : body ≠ []) (shorter : body.head? ≠ some '=')
    (blankAfter : ∀ c ∈ after, Text.isBlank c = true) :
    ofFragment? (before ++ (op.symbol.toList ++ gap ++ body) ++ after) =
      some ⟨op, .text (String.ofList body)⟩ := by
  have trimmed : Text.trim (before ++ (op.symbol.toList ++ gap ++ body) ++ after) =
      op.symbol.toList ++ gap ++ body := by
    apply Text.trim_append_append _ _ _ blankBefore blankAfter
    · simp [nonempty]
    · intro c hc
      rw [List.append_assoc, List.head?_append_of_ne_nil _ op.toList_symbol_ne_nil] at hc
      exact Range.not_blank_of_isInner
        (Range.isInner_of_mem_symbol op c (List.mem_of_mem_head? hc))
    · intro c hc
      rw [List.getLast?_append_of_ne_nil _ nonempty] at hc
      exact Range.not_blank_of_isInner (inner c (List.mem_of_mem_getLast? hc))
  have version := versionText?_append blankGap inner nonempty
  obtain ⟨c, rest, cut⟩ : ∃ c rest, gap ++ body = c :: rest :=
    List.exists_cons_of_ne_nil (by simp [nonempty])
  -- Only an equals sign would make the operator a longer one.
  have next : '=' ≠ c := by
    rintro rfl
    cases gap with
    | nil =>
      rw [List.nil_append] at cut
      exact shorter (by rw [cut]; rfl)
    | cons g gap =>
      obtain rfl : g = '=' := (List.cons.inj cut).1
      exact absurd (blankGap '=' List.mem_cons_self) (by decide)
  rw [cut] at version
  rw [ofFragment?, trimmed, List.append_assoc, cut]
  cases op <;>
    simp [Operator.longestFirst, withOperator?, Operator.symbol, List.isPrefixOf?, next, version]

end Constraint

section Library

variable [VersionLibrary]

/-- The plain comparators of an operator and a version text. -/
def Constraint.comparators (c : Operator × String) : List Comparator :=
  ((Version.parse? c.2).map fun w => (PartialVersion.full w).expand c.1).getD []

theorem Constraint.answer_eq_admits {v w : Version} {c : Operator × String}
    (read : Version.parse? c.2 = some w) (wf : w.WellFormed Char.isDigit) :
    answer v c = Range.admits [comparators c] v := by
  rw [answer_of_wellFormed read wf, comparators, read]
  rfl

/-- The alternative of all comparators of some things is held against a version thing by thing. -/
theorem Range.admits_flatMap {α : Type} (comparators : α → List Comparator) (xs : List α)
    (v : Version) :
    Range.admits [xs.flatMap comparators] v = xs.allM fun x => Range.admits [comparators x] v := by
  induction xs with
  | nil => rfl
  | cons x xs ih =>
    rw [List.flatMap_cons, List.allM, ← ih, admits, admits, admits, test_single_append]
    cases Range.test [comparators x] v with
    | error complaint => rfl
    | ok b => cases b <;> rfl

variable {isDigit : Char → Bool} [lawful : LawfulVersionLibrary isDigit]

include lawful

/-- A complete version is read with or without a `v` in front. -/
theorem Version.parse?_ofList_append {mark core : List Char} {v : Version}
    (marks : mark = [] ∨ mark = ['v']) (read : Version.ofChars? isDigit core = some v) :
    Version.parse? (String.ofList (mark ++ core)) = some v := by
  have leading : ∀ c ∈ mark, isLeadingSign c = true := by
    rcases marks with rfl | rfl
    · simp
    · exact List.forall_mem_singleton.mpr rfl
  have surrounded : parse? (String.ofList ([] ++ (mark ++ core) ++ [])) = some v :=
    parse?_surrounded (by simp) leading (by simp) read
  rwa [List.nil_append, List.append_nil] at surrounded

namespace Clause

variable {c : Clause}

omit [VersionLibrary] lawful in
theorem mark_cases (c : Clause) : c.mark = [] ∨ c.mark = ['v'] := by
  unfold mark
  split
  · exact .inr rfl
  · exact .inl rfl

/-- A clause is its operator and a complete version, with blanks around both. -/
theorem WellFormed.exists_version (wf : c.WellFormed) :
    ∃ v after, Version.ofChars? Char.isDigit c.core = some v ∧
      Version.parse? (String.ofList (c.mark ++ c.core)) = some v ∧
      (∀ x ∈ after, Text.isBlank x = true) ∧
      c.written = c.before ++ (c.operator.symbol.toList ++ c.gap ++ (c.mark ++ c.core)) ++ after := by
  obtain ⟨d, first, digit⟩ := wf.digit
  obtain ⟨v, read⟩ : ∃ v, Version.parse? (String.ofList c.version) = some v := by
    have cleaned := wf.isVersion
    rwa [Version.clean?, Option.isSome_map, Option.isSome_iff_exists] at cleaned
  have notBlank : Text.isBlank d = false :=
    Range.not_blank_of_isInner
      (Range.isInner_of_isIdentifierChar (Version.isIdentifierChar_of_isDigit digit))
  have left : Text.trimLeft c.version = c.version := by
    apply (Text.takeWhile_append_of_stops (s := []) (by simp) _).2
    intro x hx
    rwa [← Option.mem_unique first hx]
  obtain ⟨trail, blankTrail, whole⟩ : ∃ trail, (∀ x ∈ trail, Text.isBlank x = true) ∧
      c.version = c.core ++ trail := Text.exists_blanks_trimRight c.version
  -- The digit stands before the blanks at the end, so that no sign is dropped before it.
  have begins : d ∈ c.core.head? := by
    rw [whole, List.head?_append] at first
    cases core : c.core.head? with
    | some e =>
      rw [core] at first
      exact first
    | none =>
      rw [core] at first
      have blank := blankTrail d (List.mem_of_mem_head? first)
      rw [notBlank] at blank
      cases blank
  have noSign : c.core.dropWhile Version.isLeadingSign = c.core := by
    apply (Text.takeWhile_append_of_stops (s := []) (by simp) _).2
    intro x hx
    rw [← Option.mem_unique begins hx]
    exact Version.isLeadingSign_of_isDigit digit
  have ascii : ∀ x ∈ c.core, x.toNat < 128 := by
    intro x hx
    apply wf.ascii
    rw [whole]
    exact List.mem_append_left _ hx
  rw [Version.parse?_eq, String.toList_ofList, Text.trim, left, ← Clause.core, noSign] at read
  have marked := Version.parse?_ofList_append c.mark_cases read
  rw [Version.ofChars?_of_ascii lawful.digits ascii] at read
  refine ⟨v, trail ++ c.after, read, marked, ?_, ?_⟩
  · intro x hx
    exact (List.mem_append.mp hx).elim (blankTrail x) (wf.blankAfter x)
  · rw [written, whole]
    simp only [List.append_assoc]

theorem WellFormed.parse?_text (wf : c.WellFormed) :
    ∃ v, Version.parse? (String.ofList (c.mark ++ c.core)) = some v ∧
      v.WellFormed Char.isDigit := by
  obtain ⟨v, after, read, marked, -⟩ := wf.exists_version
  exact ⟨v, marked, Version.wellFormed_of_ofChars? read⟩

/-- No fragment is cut inside a clause. -/
theorem WellFormed.inner (wf : c.WellFormed) : ∀ x ∈ c.mark ++ c.core, Range.isInner x = true := by
  obtain ⟨v, after, read, -⟩ := wf.exists_version
  intro x hx
  rcases List.mem_append.mp hx with hx | hx
  · rcases c.mark_cases with none | some
    · rw [none] at hx
      cases hx
    · rw [some, List.mem_singleton] at hx
      rw [hx]
      decide
  · exact Range.isInner_of_ofChars? Version.isDigitClass_ascii read x hx

/-- The fragment of a clause is read as its operator and its version text. -/
theorem WellFormed.ofFragment?_written (wf : c.WellFormed) :
    Constraint.ofFragment? c.written =
      some (Constraint.ofPair (c.operator, String.ofList (c.mark ++ c.core))) := by
  obtain ⟨v, after, read, -, blankAfter, written⟩ := wf.exists_version
  obtain ⟨d, rest, core, digit⟩ := Version.exists_digit_of_ofChars? read
  rw [written]
  apply Constraint.ofFragment?_operator_append c.operator wf.blankBefore wf.blankGap wf.inner _ _
    blankAfter
  · simp [core]
  · rcases c.mark_cases with none | some
    · rw [none, List.nil_append, core]
      rintro ⟨⟩
      exact absurd digit (by decide)
    · rw [some]
      rintro ⟨⟩

/-- As part of a range, a clause is one comparator. -/
theorem WellFormed.tokens_written (wf : c.WellFormed) :
    (Range.tokens c.written).mapM Range.comparator =
      .ok [Constraint.comparators (c.operator, String.ofList (c.mark ++ c.core))] := by
  obtain ⟨v, after, read, marked, blankAfter, written⟩ := wf.exists_version
  have single := Range.comparator_of_ofChars? c.operator c.mark_cases read
  rw [written, Range.tokens_operator_append c.operator wf.blankBefore wf.blankGap wf.inner
    blankAfter, List.mapM_cons, single, Constraint.comparators, marked]
  rfl

theorem WellFormed.blank_or_inner (wf : c.WellFormed) :
    ∀ x ∈ c.written, Text.isBlank x = true ∨ Range.isInner x = true := by
  obtain ⟨v, after, -, -, blankAfter, written⟩ := wf.exists_version
  intro x hx
  rw [written] at hx
  rcases List.mem_append.mp hx with hx | hx
  · rcases List.mem_append.mp hx with hx | hx
    · exact .inl (wf.blankBefore x hx)
    · rcases List.mem_append.mp hx with hx | hx
      · exact (List.mem_append.mp hx).symm.imp (wf.blankGap x)
          (Range.isInner_of_mem_symbol c.operator x)
      · exact .inr (wf.inner x hx)
  · exact .inl (blankAfter x hx)

end Clause

namespace Fragment

variable {f : Fragment}

theorem ofFragment?_written (wf : f.WellFormed) :
    Constraint.ofFragment? f.written = f.constraint?.map Constraint.ofPair := by
  cases f with
  | clause c => exact Clause.WellFormed.ofFragment?_written wf
  | blank blanks =>
    rw [Constraint.ofFragment?, written, Text.trim_of_forall_blank wf]
    rfl

theorem tokens_written (wf : f.WellFormed) :
    (Range.tokens f.written).mapM Range.comparator =
      .ok (f.constraint?.toList.map Constraint.comparators) := by
  cases f with
  | clause c => exact Clause.WellFormed.tokens_written wf
  | blank blanks =>
    rw [written, Range.tokens_of_blank wf]
    rfl

theorem not_mem_written (wf : f.WellFormed) {x : Char} (visible : Text.isBlank x = false)
    (cuts : Range.isInner x = false) : x ∉ f.written := by
  intro hx
  have plain : Text.isBlank x = true ∨ Range.isInner x = true := by
    cases f with
    | clause c => exact Clause.WellFormed.blank_or_inner wf x hx
    | blank blanks => exact .inl (wf x hx)
  simp [visible, cuts] at plain

theorem parse?_of_constraint? (wf : f.WellFormed) :
    ∀ c ∈ f.constraint?, ∃ v, Version.parse? c.2 = some v ∧ v.WellFormed Char.isDigit := by
  intro c hc
  cases f with
  | clause clause =>
    cases hc
    exact Clause.WellFormed.parse?_text wf
  | blank blanks => cases hc

section Texts

variable {fragments : List Fragment} (wf : ∀ f ∈ fragments, f.WellFormed)

include wf

/-- As a requirement, a text of fragments is read as the constraints that they hold. -/
theorem ofText_text : Constraint.ofText (text fragments) =
    (fragments.filterMap constraint?).map Constraint.ofPair := by
  have pieces : (Text.splitOn ',' (Text.joinWith [','] (fragments.map written))).filterMap
      Constraint.ofFragment? = (fragments.map written).filterMap Constraint.ofFragment? := by
    cases fragments with
    | nil => rfl
    | cons f more =>
      rw [Text.splitOn_joinWith (by simp)]
      intro piece hp
      obtain ⟨g, hg, rfl⟩ := List.mem_map.mp hp
      exact not_mem_written (wf g hg) (by decide) (by decide)
  rw [Constraint.ofText, text, String.toList_ofList, Constraint.ofChars, pieces,
    List.filterMap_map, List.map_filterMap]
  exact List.filterMap_congr fun f hf => ofFragment?_written (wf f hf)

theorem mapM_comparator_tokens :
    ((fragments.map written).flatMap Range.tokens).mapM Range.comparator =
      .ok ((fragments.filterMap constraint?).map Constraint.comparators) := by
  induction fragments with
  | nil => rfl
  | cons f more ih =>
    rw [List.map_cons, List.flatMap_cons, List.mapM_append,
      tokens_written (wf f List.mem_cons_self), ih fun g hg => wf g (List.mem_cons_of_mem f hg)]
    cases held : f.constraint? <;> simp [held] <;> rfl

/-- As a range, a text of fragments is one alternative: the plain comparators of the constraints
that they hold. -/
theorem parse_text : Range.parse (text fragments) =
    .ok [(fragments.filterMap constraint?).flatMap Constraint.comparators] := by
  have noBar : '|' ∉ Text.joinWith [','] (fragments.map written) := by
    intro bar
    rcases Text.mem_joinWith bar with comma | ⟨piece, hp, bar⟩
    · exact absurd comma (by decide)
    · obtain ⟨f, hf, rfl⟩ := List.mem_map.mp hp
      exact not_mem_written (wf f hf) (by decide) (by decide) bar
  rw [Range.parse, text, String.toList_ofList, Range.ofChars,
    Range.alternatives_of_not_mem noBar, List.mapM_cons, Range.alternative, Range.tokens_joinWith,
    mapM_comparator_tokens wf, List.flatMap_def]
  rfl

/-- The range holds a version against the constraints of the fragments one by one, until one of
them is not satisfied. -/
theorem check_text_eq_allM {current : String} {v : Version}
    (read : Version.parse? current = some v) :
    Range.check (.text current) (.text (text fragments)) =
      (fragments.filterMap constraint?).allM (Constraint.answer v) := by
  have answers : ∀ c ∈ fragments.filterMap constraint?,
      Range.admits [Constraint.comparators c] v = Constraint.answer v c := by
    intro c hc
    obtain ⟨f, hf, held⟩ := List.mem_filterMap.mp hc
    obtain ⟨w, version, plain⟩ := parse?_of_constraint? (wf f hf) c held
    exact (Constraint.answer_eq_admits version plain).symm
  rw [Range.check_text_of_parse (parse_text wf) read, Range.admits_flatMap]
  exact allM_congr answers

end Texts

end Fragment

end Library

namespace Fragment

end Fragment

end EnvDoctor
