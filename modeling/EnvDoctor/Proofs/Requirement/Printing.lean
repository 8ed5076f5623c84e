import EnvDoctor.Proofs.Requirement.Grammar

/-!
# Printed requirements

Constraints are printed with commas between them, each as its operator directly followed by its
version text. What a requirement text is read as can be read again from its printed form, unless the
version text behind `>` or `<` begins with an equals sign and goes on: such a constraint comes back
under the longer operator.
-/

namespace EnvDoctor

theorem Text.joinWith_cons_blank (separator blank : Char) (piece : List Char)
    (more : List (List Char)) : joinWith [separator, blank] (piece :: more) =
      joinWith [separator] (piece :: more.map (List.cons blank)) := by
  induction more generalizing piece with
  | nil => rfl
  | cons second rest ih =>
    have first (pieces : List (List Char)) : joinWith [separator] ((blank :: second) :: pieces) =
        blank :: joinWith [separator] (second :: pieces) := by
      cases pieces with
      | nil => rfl
      | cons third last => rw [joinWith_cons_cons, joinWith_cons_cons, List.cons_append]
    rw [List.map_cons, joinWith_cons_cons, first, ← ih]
    simp [joinWith]

/-- The operator that an equals sign makes of a shorter one. -/
def Operator.longer? : Operator → Option Operator
  | above => some atLeast
  | below => some atMost
  | _ => none

namespace Operator

variable {op longer : Operator}

theorem longer?_eq_some_iff : op.longer? = some longer ↔ longer.shorter? = some op := by
  cases op <;> cases longer <;> decide

theorem symbol_of_longer? (longest : op.longer? = some longer) :
    longer.symbol.toList = op.symbol.toList ++ ['='] := by
  cases op with
  | above | below =>
    cases longest
    rfl
  | _ => cases longest

theorem isLongest_of_longer? (longest : op.longer? = some longer) (rest : List Char) :
    longer.IsLongest (longer.symbol.toList ++ rest) := by
  rw [isLongest_iff]
  rintro (rfl | rfl)
  · cases op <;> cases longest
  · cases op <;> cases longest

end Operator

namespace Constraint

def printed (cs : List Constraint) : String :=
  ", ".intercalate (cs.map display)

/-- The operator and the beginning of the version text are printed as a longer operator. -/
def Merges (c : Constraint) : Prop :=
  (c.operator = .above ∨ c.operator = .below) ∧
    ∃ rest, rest ≠ "" ∧ c.version = .text ("=" ++ rest)

/-- What every version text is that stands in a requirement text. -/
structure IsVersionText (version : List Char) : Prop where
  nonempty : version ≠ []
  first : ∀ c ∈ version.head?, Text.isBlank c = false
  last : ∀ c ∈ version.getLast?, Text.isBlank c = false
  oneLine : '\n' ∉ version
  uncut : ',' ∉ version

def ofParts (c : Operator × List Char) : Constraint :=
  ofPair (c.1, String.ofList c.2)

/-- An operator and a version text as they are read after they have been printed. -/
def reread (c : Operator × List Char) : Operator × List Char :=
  match c.1.longer?, c.2 with
  | some longer, '=' :: next :: rest => (longer, Text.trim (next :: rest))
  | _, _ => c

theorem toList_display_ofParts (c : Operator × List Char) :
    (ofParts c).display.toList = c.1.symbol.toList ++ c.2 := by
  simp [ofParts, ofPair, display]

theorem ofParts_inj {c d : Operator × List Char} : ofParts c = ofParts d ↔ c = d := by
  simp [ofParts, ofPair, Prod.ext_iff, String.ofList_inj]

namespace IsVersionText

variable {version : List Char}

theorem of_trim {s : List Char} (nonempty : Text.trim s ≠ []) (oneLine : '\n' ∉ Text.trim s)
    (uncut : ',' ∉ s) : IsVersionText (Text.trim s) where
  nonempty := nonempty
  first := fun _ => Text.not_blank_of_head?_trim
  last := fun _ => Text.not_blank_of_getLast?_trim
  oneLine := oneLine
  uncut := fun comma => uncut (Text.mem_of_mem_trim comma)

theorem equals : IsVersionText ['='] where
  nonempty := by simp
  first := by
    rintro c ⟨⟩
    decide
  last := by
    rintro c ⟨⟩
    decide
  oneLine := by decide
  uncut := by decide

theorem trim_eq (text : IsVersionText version) : Text.trim version = version := by
  have whole : Text.trim ([] ++ version ++ []) = version :=
    Text.trim_append_append text.nonempty text.first text.last (by simp) (by simp)
  rwa [List.nil_append, List.append_nil] at whole

/-- Blanks around an operator and a version text are trimmed away. -/
theorem trim_printed (text : IsVersionText version) (op : Operator) {blanks : List Char}
    (blank : ∀ c ∈ blanks, Text.isBlank c = true) :
    Text.trim (blanks ++ (op.symbol.toList ++ version)) = op.symbol.toList ++ version := by
  have whole : Text.trim (blanks ++ (op.symbol.toList ++ version) ++ []) =
      op.symbol.toList ++ version := by
    apply Text.trim_append_append _ _ _ blank (by simp)
    · simp [text.nonempty]
    · intro c hc
      rw [List.head?_append_of_ne_nil _ op.toList_symbol_ne_nil] at hc
      exact Range.not_blank_of_isInner
        (Range.isInner_of_mem_symbol op c (List.mem_of_mem_head? hc))
    · intro c hc
      rw [List.getLast?_append_of_ne_nil _ text.nonempty] at hc
      exact text.last c hc
  rwa [List.append_nil] at whole

theorem comma_notMem_printed (text : IsVersionText version) (op : Operator) :
    ',' ∉ op.symbol.toList ++ version := by
  intro comma
  rcases List.mem_append.mp comma with comma | comma
  · exact absurd (Range.isInner_of_mem_symbol op ',' comma) (by decide)
  · exact text.uncut comma

end IsVersionText

/-- What is read from a fragment has a version text. -/
theorem exists_parts_of_ofFragment? {fragment : List Char} (uncut : ',' ∉ fragment)
    {c : Constraint} (read : ofFragment? fragment = some c) :
    ∃ parts, IsVersionText parts.2 ∧ ofParts parts = c := by
  rcases ofFragment?_eq_some_iff.mp read with ⟨op, version, states, rfl⟩ | ⟨-, short, -, -, rfl⟩
  · obtain ⟨rest, whole, rfl⟩ := states.follows
    have clear : ',' ∉ rest := by
      intro comma
      apply uncut
      apply Text.mem_of_mem_trim
      rw [whole]
      exact List.mem_append_right _ comma
    exact ⟨(op, Text.trim rest), .of_trim states.nonempty states.oneLine clear, rfl⟩
  · exact ⟨(short, ['=']), .equals, rfl⟩

theorem exists_parts_of_filterMap {fragments : List (List Char)}
    (uncut : ∀ fragment ∈ fragments, ',' ∉ fragment) :
    ∃ parts : List (Operator × List Char), (∀ c ∈ parts, IsVersionText c.2) ∧
      fragments.filterMap ofFragment? = parts.map ofParts := by
  induction fragments with
  | nil => exact ⟨[], by simp, rfl⟩
  | cons fragment fragments ih =>
    obtain ⟨parts, texts, same⟩ := ih fun g hg => uncut g (List.mem_cons_of_mem _ hg)
    cases read : ofFragment? fragment with
    | none => exact ⟨parts, texts, by rw [List.filterMap_cons_none read, same]⟩
    | some c =>
      obtain ⟨first, text, rfl⟩ :=
        exists_parts_of_ofFragment? (uncut fragment List.mem_cons_self) read
      refine ⟨first :: parts, List.forall_mem_cons.mpr ⟨text, texts⟩, ?_⟩
      rw [List.filterMap_cons_some read, same, List.map_cons]

/-- What is read from a requirement text has version texts. -/
theorem exists_parts_ofText (text : String) :
    ∃ parts : List (Operator × List Char), (∀ c ∈ parts, IsVersionText c.2) ∧
      ofText text = parts.map ofParts :=
  exists_parts_of_filterMap fun _ => Text.notMem_of_mem_splitOn

/-- An equals sign at the beginning of a version text makes the operator a longer one, stands
alone, or comes behind an operator that does not become longer. -/
theorem reread_cases (op : Operator) (version : List Char) :
    (∃ longer next rest, op.longer? = some longer ∧ version = '=' :: next :: rest ∧
      reread (op, version) = (longer, Text.trim (next :: rest))) ∨
    reread (op, version) = (op, version) ∧
      ((∃ longer, op.longer? = some longer ∧ version = ['=']) ∨
        op.IsLongest (op.symbol.toList ++ version)) := by
  rw [Operator.isLongest_iff]
  unfold reread
  split
  next longer next rest becomes whole =>
    exact .inl ⟨longer, next, rest, becomes, whole, rfl⟩
  next stays =>
    refine .inr ⟨rfl, ?_⟩
    by_contra neither
    push Not at neither
    obtain ⟨alone, short, equals⟩ := neither
    obtain ⟨tail, rfl⟩ := List.head?_eq_some_iff.mp equals
    obtain ⟨longer, becomes⟩ : ∃ longer, op.longer? = some longer := by
      rcases short with rfl | rfl
      · exact ⟨_, rfl⟩
      · exact ⟨_, rfl⟩
    cases tail with
    | nil => exact alone longer becomes rfl
    | cons next rest => exact stays longer next rest becomes rfl

section Printed

variable {op longer : Operator} {version blanks : List Char} (text : IsVersionText version)
  (blank : ∀ c ∈ blanks, Text.isBlank c = true)

include text blank

theorem states_printed (longest : op.IsLongest (op.symbol.toList ++ version)) :
    States (blanks ++ (op.symbol.toList ++ version)) op version := by
  have whole := text.trim_printed op blank
  refine ⟨?_, ⟨version, whole, text.trim_eq.symm⟩, text.nonempty, text.oneLine⟩
  rwa [whole]

theorem states_printed_longer {next : Char} {rest : List Char}
    (becomes : op.longer? = some longer) (begins : version = '=' :: next :: rest) :
    States (blanks ++ (op.symbol.toList ++ version)) longer (Text.trim (next :: rest)) := by
  have whole : Text.trim (blanks ++ (op.symbol.toList ++ version)) =
      longer.symbol.toList ++ next :: rest := by
    rw [text.trim_printed op blank, Operator.symbol_of_longer? becomes, begins, List.append_assoc]
    rfl
  refine ⟨?_, ⟨_, whole, rfl⟩, ?_, ?_⟩
  · rw [whole]
    exact Operator.isLongest_of_longer? becomes _
  · intro nothing
    cases eq_nil_of_trim_behind whole nothing
  · intro feed
    apply text.oneLine
    rw [begins]
    exact List.mem_cons_of_mem _ (Text.mem_of_mem_trim feed)

/-- A printed constraint is read as one constraint, whatever blanks stand before it. -/
theorem ofFragment?_printed : ofFragment? (blanks ++ (op.symbol.toList ++ version)) =
    some (ofParts (reread (op, version))) := by
  rcases reread_cases op version with ⟨longer, next, rest, becomes, begins, same⟩ | ⟨same, stays⟩
  · rw [same]
    exact (states_printed_longer text blank becomes begins).ofFragment?_eq
  · rw [same]
    rcases stays with ⟨longer, becomes, rfl⟩ | longest
    · have alone := (text.trim_printed op blank).trans (Operator.symbol_of_longer? becomes).symm
      rw [ofFragment?_eq_some_iff]
      exact .inr ⟨longer, op, Operator.longer?_eq_some_iff.mp becomes, alone, rfl⟩
    · exact (states_printed text blank longest).ofFragment?_eq

end Printed

theorem filterMap_printed {parts : List (Operator × List Char)} {blanks : List Char}
    (texts : ∀ c ∈ parts, IsVersionText c.2) (blank : ∀ c ∈ blanks, Text.isBlank c = true) :
    (parts.map fun c => blanks ++ (c.1.symbol.toList ++ c.2)).filterMap ofFragment? =
      parts.map fun c => ofParts (reread c) := by
  induction parts with
  | nil => rfl
  | cons c parts ih =>
    obtain ⟨text, texts⟩ := List.forall_mem_cons.mp texts
    rw [List.map_cons, List.filterMap_cons_some (ofFragment?_printed text blank), ih texts,
      List.map_cons]

theorem ofText_printed {parts : List (Operator × List Char)}
    (texts : ∀ c ∈ parts, IsVersionText c.2) :
    ofText (printed (parts.map ofParts)) = parts.map fun c => ofParts (reread c) := by
  have chars : (printed (parts.map ofParts)).toList =
      Text.joinWith [',', ' '] (parts.map fun c => c.1.symbol.toList ++ c.2) := by
    rw [printed, String.toList_intercalate, Text.joinWith_eq_intercalate]
    simp [Function.comp_def, toList_display_ofParts]
  rw [ofText, ofChars, chars]
  cases parts with
  | nil => rfl
  | cons c parts =>
    have whole : Text.joinWith [',', ' '] ((c :: parts).map fun c => c.1.symbol.toList ++ c.2) =
        Text.joinWith [','] ((c.1.symbol.toList ++ c.2) ::
          parts.map fun c => [' '] ++ (c.1.symbol.toList ++ c.2)) := by
      rw [List.map_cons, Text.joinWith_cons_blank, List.map_map]
      rfl
    obtain ⟨text, others⟩ := List.forall_mem_cons.mp texts
    have uncut : ∀ piece ∈ (c.1.symbol.toList ++ c.2) ::
        parts.map (fun c => [' '] ++ (c.1.symbol.toList ++ c.2)), ',' ∉ piece := by
      intro piece among
      rcases List.mem_cons.mp among with rfl | among
      · exact text.comma_notMem_printed c.1
      · obtain ⟨c', hc', rfl⟩ := List.mem_map.mp among
        exact List.not_mem_cons_of_ne_of_not_mem (by decide)
          ((others c' hc').comma_notMem_printed c'.1)
    have first : ofFragment? ([] ++ (c.1.symbol.toList ++ c.2)) = some (ofParts (reread c)) :=
      ofFragment?_printed text (by simp)
    have blank : ∀ c ∈ [' '], Text.isBlank c = true := List.forall_mem_singleton.mpr rfl
    have rest := filterMap_printed others blank
    rw [List.nil_append] at first
    rw [whole, Text.splitOn_joinWith (by simp) uncut, List.filterMap_cons_some first, rest,
      List.map_cons]

/-- A constraint is read as another one exactly if its operator becomes a longer one. -/
theorem reread_eq_self_iff (c : Operator × List Char) : reread c = c ↔ ¬ (ofParts c).Merges := by
  obtain ⟨op, version⟩ := c
  constructor
  · rintro same ⟨short, rest, goes, text⟩
    have begins : version = '=' :: rest.toList := by
      have chars := congrArg String.toList (Value.text.inj text)
      simpa using chars
    obtain ⟨next, tail, more⟩ : ∃ next tail, rest.toList = next :: tail :=
      List.exists_cons_of_ne_nil (by simpa using goes)
    rw [begins, more] at same
    rcases short with short | short
    · obtain rfl : op = .above := short
      cases congrArg Prod.fst same
    · obtain rfl : op = .below := short
      cases congrArg Prod.fst same
  · intro apart
    rcases reread_cases op version with ⟨longer, next, rest, becomes, rfl, -⟩ | ⟨same, -⟩
    · refine absurd ⟨?_, String.ofList (next :: rest), ?_, ?_⟩ apart
      · cases op with
        | above => exact .inl rfl
        | below => exact .inr rfl
        | _ => cases becomes
      · simp
      · exact congrArg Value.text (String.toList_inj.mp (by simp))
    · exact same

/-- A printed requirement is read as the same constraints exactly if none of them merges. -/
theorem ofText_printed_eq_iff (text : String) :
    ofText (printed (ofText text)) = ofText text ↔ ∀ c ∈ ofText text, ¬ c.Merges := by
  obtain ⟨parts, texts, same⟩ := exists_parts_ofText text
  rw [same, ofText_printed texts, List.map_inj_left, List.forall_mem_map]
  refine forall₂_congr fun c _ => ?_
  rw [ofParts_inj, reread_eq_self_iff]

/-- A space keeps the two signs apart, and the printed form does not. -/
theorem not_reread_of_space : ofText (printed (ofText "> =1.0")) ≠ ofText "> =1.0" := by
  intro same
  have operators := congrArg (List.map Constraint.operator) same
  revert operators
  decide +kernel

end Constraint

end EnvDoctor
