import EnvDoctor.Proofs.Range.Written

/-!
# The layout of ranges

How an alternative falls into its comparators. A comma cuts it in two whose comparators are found
apart, because no blank is dropped across a comma; blanks around a comparator, and between its
operator and its version, make no difference.
-/

namespace EnvDoctor.Range

/-- Whether blanks are dropped at the end of a text. At its start they are if `after`. -/
def gluesAfter (after : Bool) (s : List Char) : Bool :=
  s.foldl (fun after c => after && Text.isBlank c || isOperatorChar c) after

theorem isOperatorChar_eq_false_of {p : Char → Bool}
    (clear : ['>', '<', '=', '^', '~'].any p = false) {c : Char} (holds : p c = true) :
    isOperatorChar c = false := by
  rw [Bool.eq_false_iff]
  intro operator
  have among : c ∈ ['>', '<', '=', '^', '~'] := by
    simpa [isOperatorChar, or_assoc] using operator
  exact List.any_eq_false.mp clear c among holds

theorem isOperatorChar_of_isBlank {c : Char} (blank : Text.isBlank c = true) :
    isOperatorChar c = false :=
  isOperatorChar_eq_false_of (by decide) blank

theorem glueFrom_append (after : Bool) (s t : List Char) :
    glueFrom after (s ++ t) = glueFrom after s ++ glueFrom (gluesAfter after s) t := by
  induction s generalizing after with
  | nil => rfl
  | cons c s ih =>
    have step : gluesAfter after (c :: s) =
        gluesAfter (after && Text.isBlank c || isOperatorChar c) s := rfl
    rw [List.cons_append, glueFrom, glueFrom, step]
    cases dropped : after && Text.isBlank c with
    | true => exact ih true
    | false =>
      rw [if_neg (by simp), if_neg (by simp), Bool.false_or, ih, List.cons_append]

section Blank

variable {blanks : List Char} (blank : ∀ c ∈ blanks, Text.isBlank c = true)

include blank

theorem glueFrom_true_of_blank : glueFrom true blanks = [] := by
  induction blanks with
  | nil => rfl
  | cons c blanks ih =>
    rw [glueFrom, blank c List.mem_cons_self, Bool.and_self, if_pos rfl]
    exact ih fun d hd => blank d (List.mem_cons_of_mem c hd)

theorem glueFrom_false_of_blank : glueFrom false blanks = blanks := by
  induction blanks with
  | nil => rfl
  | cons c blanks ih =>
    rw [glueFrom, Bool.false_and, if_neg (by simp),
      isOperatorChar_of_isBlank (blank c List.mem_cons_self),
      ih fun d hd => blank d (List.mem_cons_of_mem c hd)]

theorem gluesAfter_of_blank (after : Bool) : gluesAfter after blanks = after := by
  induction blanks with
  | nil => rfl
  | cons c blanks ih =>
    have first := blank c List.mem_cons_self
    rw [gluesAfter, List.foldl_cons, first, isOperatorChar_of_isBlank first, Bool.and_true,
      Bool.or_false]
    exact ih fun d hd => blank d (List.mem_cons_of_mem c hd)

theorem glueFrom_blank_append (after : Bool) (s : List Char) :
    glueFrom after (blanks ++ s) = glueFrom after blanks ++ glueFrom after s := by
  rw [glueFrom_append, gluesAfter_of_blank blank]

theorem isSeparator_of_mem_glueFrom (after : Bool) :
    ∀ c ∈ glueFrom after blanks, isSeparator c = true := by
  intro c hc
  cases after with
  | true =>
    rw [glueFrom_true_of_blank blank] at hc
    cases hc
  | false =>
    rw [glueFrom_false_of_blank blank] at hc
    rw [isSeparator, blank c hc, Bool.true_or]

/-- Blanks at the end of a text add no comparator, whatever is dropped of them. -/
theorem fields_glueFrom_append_blank (after : Bool) (s : List Char) :
    Text.fields isSeparator (glueFrom after (s ++ blanks)) =
      Text.fields isSeparator (glueFrom after s) := by
  rw [glueFrom_append]
  exact Text.fields_append_of_forall (isSeparator_of_mem_glueFrom blank _) _

/-- Blanks at the start of a text add no comparator. -/
theorem fields_glue_blank_append (s : List Char) :
    Text.fields isSeparator (glue (blanks ++ s)) = Text.fields isSeparator (glue s) := by
  rw [glue, glueFrom_blank_append blank]
  exact Text.fields_append_left_of_forall (isSeparator_of_mem_glueFrom blank _) _

end Blank

/-- The blanks around an alternative need not be trimmed. -/
theorem tokens_eq (s : List Char) : tokens s = Text.fields isSeparator (glue s) := by
  obtain ⟨before, after, blankBefore, blankAfter, whole⟩ := Text.exists_blanks_trim s
  conv_rhs => rw [whole, List.append_assoc]
  rw [fields_glue_blank_append blankBefore, glue, fields_glueFrom_append_blank blankAfter]
  rfl

/-- The comparators on both sides of a comma are found apart. -/
theorem tokens_append_comma (s t : List Char) : tokens (s ++ ',' :: t) = tokens s ++ tokens t := by
  have comma : ∀ after, glueFrom after (',' :: t) = ',' :: glue t := by
    intro after
    cases after <;> rfl
  simp only [tokens_eq]
  rw [glue, glueFrom_append, comma]
  exact Text.fields_append_cons (by decide) _ _

theorem tokens_joinWith (pieces : List (List Char)) :
    tokens (Text.joinWith [','] pieces) = pieces.flatMap tokens := by
  induction pieces with
  | nil => rfl
  | cons piece more ih =>
    cases more with
    | nil => simp [Text.joinWith]
    | cons second rest =>
      rw [Text.joinWith_cons_cons, tokens_append_comma, ih]
      exact List.flatMap_cons.symm

theorem tokens_of_blank {blanks : List Char} (blank : ∀ c ∈ blanks, Text.isBlank c = true) :
    tokens blanks = [] := by
  rw [tokens_eq, ← List.append_nil blanks, fields_glue_blank_append blank]
  rfl

/-- An operator and a text that is cut nowhere are one comparator, whatever blanks stand around
them. -/
theorem tokens_operator_append {before gap body after : List Char} (op : Operator)
    (blankBefore : ∀ c ∈ before, Text.isBlank c = true)
    (blankGap : ∀ c ∈ gap, Text.isBlank c = true) (inner : ∀ c ∈ body, isInner c = true)
    (blankAfter : ∀ c ∈ after, Text.isBlank c = true) :
    tokens (before ++ (op.symbol.toList ++ gap ++ body) ++ after) =
      [op.symbol.toList ++ body] := by
  have symbol := isInner_of_mem_symbol op
  have operator : gluesAfter false op.symbol.toList = true := by cases op <;> decide
  have glued : glue (op.symbol.toList ++ gap ++ body) = op.symbol.toList ++ body := by
    rw [glue, List.append_assoc, glueFrom_append, operator,
      glueFrom_of_visible fun c hc => not_blank_of_isInner (symbol c hc),
      glueFrom_blank_append blankGap, glueFrom_true_of_blank blankGap, List.nil_append,
      glueFrom_of_visible fun c hc => not_blank_of_isInner (inner c hc)]
  have whole : ∀ c ∈ op.symbol.toList ++ body, isSeparator c = false := by
    intro c hc
    apply isSeparator_of_isInner
    exact (List.mem_append.mp hc).elim (symbol c) (inner c)
  have nonempty : op.symbol.toList ++ body ≠ [] :=
    List.append_ne_nil_of_left_ne_nil op.toList_symbol_ne_nil body
  rw [tokens_eq, List.append_assoc, fields_glue_blank_append blankBefore, glue,
    fields_glueFrom_append_blank blankAfter, ← glue, glued,
    Text.fields_of_forall_not nonempty whole]

end EnvDoctor.Range
