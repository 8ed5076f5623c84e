import EnvDoctor.Proofs.Outcome
import EnvDoctor.Proofs.Range.Layout
import EnvDoctor.Proofs.Range.Tested
import EnvDoctor.Version.Strict

/-!
# Ranges made of ranges

A range that is read ends in no operator, so nothing that follows it after a blank or a comma is
drawn into its last comparator: the comparators of both parts are found apart. Bars cut a text into
alternatives that are found apart in any case.
-/

namespace EnvDoctor.Range

/-- A text is cut into pieces of which only the last one changes with what follows, unless bars
meet. -/
theorem exists_alternatives_append (s : List Char) : ∃ before last,
    alternatives s = before ++ [last] ∧ ∀ t first after,
      (s.getLast? = some '|' → t.head? ≠ some '|') → alternatives t = first :: after →
        alternatives (s ++ t) = before ++ (last ++ first) :: after := by
  fun_induction alternatives s with
  | case1 => exact ⟨[], [], rfl, fun _ _ _ _ right => right⟩
  | case2 rest ih =>
    obtain ⟨before, last, left, whole⟩ := ih
    refine ⟨[] :: before, last, by rw [left]; rfl, ?_⟩
    intro t first after apart right
    have inside : rest.getLast? = some '|' → t.head? ≠ some '|' := by
      intro bar
      apply apart
      simp [List.getLast?_cons, bar]
    exact congrArg (List.cons []) (whole t first after inside right)
  | case3 c rest other ih =>
    obtain ⟨before, last, left, whole⟩ := ih
    have step : ∀ t first after, ((c :: rest).getLast? = some '|' → t.head? ≠ some '|') →
        alternatives t = first :: after →
          alternatives (c :: (rest ++ t)) =
            Text.consFirst c (before ++ (last ++ first) :: after) := by
      intro t first after apart right
      rw [alternatives_cons, whole t first after _ right]
      · intro bar
        apply apart
        simp [List.getLast?_cons, bar]
      · rintro rfl
        cases rest with
        | nil => exact apart rfl
        | cons d rest =>
          intro second
          exact other rest rfl (by rw [Option.some.inj second])
    cases before with
    | nil =>
      refine ⟨[], c :: last, by rw [left]; rfl, ?_⟩
      intro t first after apart right
      exact step t first after apart right
    | cons piece before =>
      refine ⟨(c :: piece) :: before, last, by rw [left]; rfl, ?_⟩
      intro t first after apart right
      exact step t first after apart right

section Blanks

variable {blanks : List Char} (blank : ∀ c ∈ blanks, Text.isBlank c = true)

include blank

theorem tokens_append_blank (s : List Char) : tokens (s ++ blanks) = tokens s := by
  simp only [tokens_eq]
  exact fields_glueFrom_append_blank blank false s

theorem tokens_blank_append (s : List Char) : tokens (blanks ++ s) = tokens s := by
  simp only [tokens_eq]
  exact fields_glue_blank_append blank s

/-- Blanks behind an operator make no difference to the comparators. -/
theorem tokens_insert_blank (op : Operator) (s t : List Char) :
    tokens (s ++ (op.symbol.toList ++ (blanks ++ t))) =
      tokens (s ++ (op.symbol.toList ++ t)) := by
  have operator : gluesAfter false (s ++ op.symbol.toList) = true := by
    rw [gluesAfter, List.foldl_append]
    cases op <;> simp [Operator.symbol, isOperatorChar]
  simp only [tokens_eq, glue, ← List.append_assoc s]
  rw [glueFrom_append false _ (blanks ++ t), glueFrom_append false _ t, operator,
    glueFrom_blank_append blank, glueFrom_true_of_blank blank, List.nil_append]

end Blanks

theorem exists_alternatives_eq_cons (s : List Char) :
    ∃ first after, alternatives s = first :: after := by
  obtain ⟨before, last, left, -⟩ := exists_alternatives_append s
  exact List.exists_cons_of_ne_nil (by simp [left])

theorem alternative_of_tokens_eq {s t : List Char} (same : tokens s = tokens t) :
    alternative s = alternative t := by
  rw [alternative, alternative, same]

/-- Bars between blanks cut a range into the alternatives on both sides. -/
theorem ofChars_append_bars (s t : List Char) :
    ofChars (s ++ (" || ".toList ++ t)) = do
      let left ← ofChars s
      let right ← ofChars t
      return left ++ right := by
  obtain ⟨before, last, left, whole⟩ := exists_alternatives_append s
  obtain ⟨first, after, right⟩ := exists_alternatives_eq_cons t
  have blank : ∀ c ∈ [' '], Text.isBlank c = true := List.forall_mem_singleton.mpr rfl
  have bars : alternatives (" || ".toList ++ t) = [' '] :: (' ' :: first) :: after := by
    simp [alternatives, Text.consFirst, right]
  have lastSame : alternative (last ++ [' ']) = alternative last :=
    alternative_of_tokens_eq (tokens_append_blank blank last)
  have firstSame : alternative (' ' :: first) = alternative first :=
    alternative_of_tokens_eq (tokens_blank_append blank first)
  rw [ofChars, whole _ _ _ (fun _ => by simp) bars, ofChars, ofChars, left, right]
  simp [lastSame, firstSame]

/-- Blanks behind an operator make no difference to a range. -/
theorem ofChars_insert_blank {blanks : List Char} (blank : ∀ c ∈ blanks, Text.isBlank c = true)
    (op : Operator) (s t : List Char) :
    ofChars (s ++ (op.symbol.toList ++ (blanks ++ t))) =
      ofChars (s ++ (op.symbol.toList ++ t)) := by
  obtain ⟨before, last, left, whole⟩ := exists_alternatives_append s
  obtain ⟨first, after, right⟩ := exists_alternatives_eq_cons t
  have noBar : '|' ∉ op.symbol.toList :=
    fun bar => absurd (isInner_of_mem_symbol op '|' bar) (by decide)
  have apart (rest : List Char) : (op.symbol.toList ++ rest).head? ≠ some '|' := by
    cases op <;> simp [Operator.symbol]
  have spaced : alternatives (blanks ++ t) = (blanks ++ first) :: after :=
    alternatives_append_of_notMem (fun bar => absurd (blank '|' bar) (by decide)) right
  have same : alternative (last ++ (op.symbol.toList ++ (blanks ++ first))) =
      alternative (last ++ (op.symbol.toList ++ first)) :=
    alternative_of_tokens_eq (tokens_insert_blank blank op last first)
  rw [ofChars, ofChars,
    whole _ _ _ (fun _ => apart _) (alternatives_append_of_notMem noBar spaced),
    whole _ _ _ (fun _ => apart _) (alternatives_append_of_notMem noBar right)]
  simp [same]

/-- How a text falls into the numbers of a comparator. -/
inductive Numbers.TakenFrom : List Char → Numbers → Prop where
  | major {s a : List Char} (first : Version.takeNumber? Text.isDigit s = some (a, [])) :
      TakenFrom s (.major a)
  | minor {s t a b : List Char}
      (first : Version.takeNumber? Text.isDigit s = some (a, '.' :: t))
      (second : Version.takeNumber? Text.isDigit t = some (b, [])) :
      TakenFrom s (.minor a b)
  | full {s t u tail a b c : List Char} {pre : List (List Char)}
      (first : Version.takeNumber? Text.isDigit s = some (a, '.' :: t))
      (second : Version.takeNumber? Text.isDigit t = some (b, '.' :: u))
      (third : Version.takeNumber? Text.isDigit u = some (c, tail))
      (rest : Version.tail? Version.isIdentifier tail = some pre) :
      TakenFrom s (.full a b c pre)

theorem afterPoint?_eq_some {s rest : List Char} (read : afterPoint? s = some rest) :
    s = '.' :: rest := by
  unfold afterPoint? at read
  split at read
  next => rw [Option.some.inj read]
  next => cases read

theorem takenFrom_of_numbers? {s : List Char} {n : Numbers} (read : numbers? s = some n) :
    Numbers.TakenFrom s n := by
  unfold numbers? at read
  obtain ⟨⟨a, s₁⟩, first, read⟩ := Option.bind_eq_some_iff.mp read
  dsimp only at read
  split at read
  next empty =>
    cases read
    rw [List.isEmpty_iff.mp empty] at first
    exact .major first
  obtain ⟨t, point, read⟩ := Option.bind_eq_some_iff.mp read
  rw [afterPoint?_eq_some point] at first
  obtain ⟨⟨b, s₂⟩, second, read⟩ := Option.bind_eq_some_iff.mp read
  dsimp only at read
  split at read
  next empty =>
    cases read
    rw [List.isEmpty_iff.mp empty] at second
    exact .minor first second
  obtain ⟨u, point, read⟩ := Option.bind_eq_some_iff.mp read
  rw [afterPoint?_eq_some point] at second
  obtain ⟨⟨c, tail⟩, third, read⟩ := Option.bind_eq_some_iff.mp read
  obtain ⟨pre, rest, same⟩ := Option.bind_eq_some_iff.mp read
  cases same
  exact .full first second third rest

section Closed

theorem not_operator_of_takeNumber? {s ds rest : List Char}
    (taken : Version.takeNumber? Text.isDigit s = some (ds, rest))
    (clear : ∀ c ∈ rest, isOperatorChar c = false) :
    s ≠ [] ∧ ∀ c ∈ s, isOperatorChar c = false := by
  obtain ⟨rfl, d, more, rfl, first, -, digits⟩ := Version.exists_digits_of_takeNumber? taken
  refine ⟨by simp, ?_⟩
  intro c hc
  rcases List.mem_append.mp hc with hc | hc
  · apply isOperatorChar_eq_false_of (p := Text.isDigit) (by decide)
    rcases List.mem_cons.mp hc with rfl | hc
    · exact Text.isDigit_of_isDigit first
    · exact digits c hc
  · exact clear c hc

theorem not_operator_of_tail? {s : List Char} {pre : List (List Char)}
    (read : Version.tail? Version.isIdentifier s = some pre) :
    ∀ c ∈ s, isOperatorChar c = false := by
  intro c hc
  have parts (id : List Char) (valid : Version.isIdentifier id = true) :
      ∀ c ∈ id, Version.isIdentifierChar c = true := fun _ => Version.isIdentifierChar_of_mem valid
  rcases Version.char_of_tail? (fun _ plain => plain) parts read hc with identifier | rfl | rfl
  · exact isOperatorChar_eq_false_of (by decide) identifier
  · decide
  · decide

/-- The numbers of a comparator are not empty and hold no operator. -/
theorem not_operator_of_numbers? {s : List Char} {n : Numbers} (read : numbers? s = some n) :
    s ≠ [] ∧ ∀ c ∈ s, isOperatorChar c = false := by
  have point {t : List Char} (clear : t ≠ [] ∧ ∀ c ∈ t, isOperatorChar c = false) :
      ∀ c ∈ '.' :: t, isOperatorChar c = false :=
    List.forall_mem_cons.mpr ⟨by decide, clear.2⟩
  cases takenFrom_of_numbers? read with
  | major first => exact not_operator_of_takeNumber? first (List.forall_mem_nil _)
  | minor first second =>
    apply not_operator_of_takeNumber? first
    exact point (not_operator_of_takeNumber? second (List.forall_mem_nil _))
  | full first second third rest =>
    apply not_operator_of_takeNumber? first
    apply point
    apply not_operator_of_takeNumber? second
    exact point (not_operator_of_takeNumber? third (not_operator_of_tail? rest))

theorem takeOperator_cases (s : List Char) :
    takeOperator s = (.equal, s) ∨
      ∃ op rest, takeOperator s = (op, rest) ∧ s = op.symbol.toList ++ rest := by
  unfold takeOperator
  dsimp only
  cases found : Operator.longestFirst.findSome? fun op =>
      (op.symbol.toList.isPrefixOf? s).map fun rest => (op, rest) with
  | none => exact .inl rfl
  | some taken =>
    obtain ⟨op, -, matched⟩ := List.exists_of_findSome?_eq_some found
    obtain ⟨rest, begins, rfl⟩ := Option.map_eq_some_iff.mp matched
    exact .inr ⟨op, rest, rfl, (List.append_eq_of_isPrefixOf?_eq_some begins).symm⟩

theorem takeOperator_suffix (s : List Char) : (takeOperator s).2 <:+ s := by
  rcases takeOperator_cases s with none | ⟨op, rest, taken, rfl⟩
  · simp [none]
  · simp [taken]

theorem dropV_suffix (s : List Char) : dropV s <:+ s := by
  unfold dropV
  split
  next => exact List.suffix_cons _ _
  next => exact List.suffix_rfl

/-- A comparator that is read does not end in an operator. -/
theorem not_operator_of_getLast?_comparator {token : List Char} {cs : List Comparator}
    (read : comparator token = .ok cs) {c : Char} (last : token.getLast? = some c) :
    isOperatorChar c = false := by
  unfold comparator at read
  dsimp only at read
  split at read
  next => cases read
  next n numbers =>
    obtain ⟨nonempty, clear⟩ := not_operator_of_numbers? numbers
    obtain ⟨front, whole⟩ := (dropV_suffix _).trans (takeOperator_suffix token)
    rw [← whole, List.getLast?_append_of_ne_nil _ nonempty] at last
    exact clear c (List.mem_of_mem_getLast? last)

/-- A text behind which blanks are dropped ends in an operator, or nothing is left of it. -/
theorem ends_of_gluesAfter {s : List Char} {after : Bool} (glues : gluesAfter after s = true) :
    after = true ∧ glueFrom after s = [] ∨
      ∃ front c, glueFrom after s = front ++ [c] ∧ isOperatorChar c = true := by
  induction s generalizing after with
  | nil => exact .inl ⟨glues, rfl⟩
  | cons c s ih =>
    rw [gluesAfter, List.foldl_cons, ← gluesAfter] at glues
    rw [glueFrom]
    cases dropped : after && Text.isBlank c with
    | true =>
      rw [dropped, Bool.true_or] at glues
      rw [if_pos rfl]
      exact (ih glues).imp_left fun nothing => ⟨(Bool.and_eq_true_iff.mp dropped).1, nothing.2⟩
    | false =>
      rw [dropped, Bool.false_or] at glues
      rw [if_neg (by simp)]
      rcases ih glues with ⟨operator, nothing⟩ | ⟨front, d, ends, operator⟩
      · exact .inr ⟨[], c, by rw [nothing]; rfl, operator⟩
      · exact .inr ⟨c :: front, d, by rw [ends]; rfl, operator⟩

/-- No blanks are dropped behind an alternative that is read. -/
theorem not_gluesAfter_of_alternative {s : List Char} {cs : List Comparator}
    (read : alternative s = .ok cs) : gluesAfter false s = false := by
  rw [Bool.eq_false_iff]
  intro glues
  rcases ends_of_gluesAfter glues with ⟨impossible, -⟩ | ⟨front, c, ends, operator⟩
  · cases impossible
  have visible : isSeparator c = false := by
    rw [Bool.eq_false_iff]
    intro separates
    rw [isOperatorChar_eq_false_of (by decide) separates] at operator
    cases operator
  obtain ⟨piece, among⟩ := Text.exists_mem_fields_append_singleton visible front
  have token : piece ++ [c] ∈ tokens s := by
    rw [tokens_eq, glue, ends]
    exact among
  obtain ⟨parts, done, -⟩ := bind_eq_ok_iff.mp read
  obtain ⟨comparators, accepted⟩ := exists_ok_of_mapM done token
  rw [not_operator_of_getLast?_comparator accepted (c := c) (by simp)] at operator
  cases operator

end Closed

/-- Blanks and commas behind a text behind which no blanks are dropped cut it from what follows. -/
theorem tokens_append_separators {s separators : List Char} (closed : gluesAfter false s = false)
    (separate : ∀ c ∈ separators, isSeparator c = true) (nonempty : separators ≠ [])
    (t : List Char) : tokens (s ++ (separators ++ t)) = tokens s ++ tokens t := by
  have kept (more : List Char) (separate : ∀ c ∈ more, isSeparator c = true) :
      glue (more ++ t) = more ++ glue t := by
    induction more with
    | nil => rfl
    | cons c more ih =>
      have operator := isOperatorChar_eq_false_of (by decide) (separate c List.mem_cons_self)
      rw [List.cons_append, glue, glueFrom, if_neg (by simp), operator]
      exact congrArg (List.cons c) (ih fun d hd => separate d (List.mem_cons_of_mem c hd))
  obtain ⟨c, more, rfl⟩ := List.exists_cons_of_ne_nil nonempty
  have rest := Text.fields_append_left_of_forall
    (fun d hd => separate d (List.mem_cons_of_mem c hd)) (glue t)
  simp only [tokens_eq]
  rw [glue, glueFrom_append, closed, ← glue, ← glue, kept _ separate, List.cons_append,
    Text.fields_append_cons (separate c List.mem_cons_self), rest]

theorem alternative_append_separators {s separators t : List Char} {cs ds : List Comparator}
    (left : alternative s = .ok cs) (right : alternative t = .ok ds)
    (separate : ∀ c ∈ separators, isSeparator c = true) (nonempty : separators ≠ []) :
    alternative (s ++ (separators ++ t)) = .ok (cs ++ ds) := by
  have cut := tokens_append_separators (not_gluesAfter_of_alternative left) separate nonempty t
  obtain ⟨first, readFirst, same⟩ := bind_eq_ok_iff.mp left
  cases same
  obtain ⟨second, readSecond, same⟩ := bind_eq_ok_iff.mp right
  cases same
  rw [alternative, cut, List.mapM_append, readFirst, readSecond]
  exact congrArg Except.ok List.flatten_append

/-- Two single alternatives with blanks or commas between them are one, of the comparators of
both. -/
theorem ofChars_append_separators {s separators t : List Char} {x y : Range}
    (left : ofChars s = .ok x) (right : ofChars t = .ok y) (leftSingle : ¬ ['|', '|'] <:+: s)
    (rightSingle : ¬ ['|', '|'] <:+: t) (separate : ∀ c ∈ separators, isSeparator c = true)
    (nonempty : separators ≠ []) : ∃ cs ds, x = [cs] ∧ y = [ds] ∧
      ofChars (s ++ (separators ++ t)) = .ok [cs ++ ds] := by
  have single := alternatives_of_apart leftSingle
  rw [ofChars_of_single single] at left
  rw [ofChars_of_single (alternatives_of_apart rightSingle)] at right
  obtain ⟨cs, readLeft, rfl⟩ := map_eq_ok_iff.mp left
  obtain ⟨ds, readRight, rfl⟩ := map_eq_ok_iff.mp right
  have noBar : '|' ∉ separators := fun bar => absurd (separate '|' bar) (by decide)
  have whole : alternatives (s ++ (separators ++ t)) = [s ++ (separators ++ t)] := by
    obtain ⟨before, last, pieces, whole⟩ := exists_alternatives_append s
    rw [single] at pieces
    obtain ⟨rfl, same⟩ := List.append_eq_singleton_iff.mp pieces.symm |>.resolve_right (by simp)
    cases same
    apply whole
    · intro _ bar
      rw [List.head?_append_of_ne_nil _ nonempty] at bar
      exact noBar (List.mem_of_mem_head? bar)
    · exact alternatives_append_of_notMem noBar (alternatives_of_apart rightSingle)
  refine ⟨cs, ds, rfl, rfl, ?_⟩
  rw [ofChars_of_single whole, alternative_append_separators readLeft readRight separate nonempty]
  rfl

theorem parse_append_bars (left right : String) :
    parse (left ++ " || " ++ right) = do
      let x ← parse left
      let y ← parse right
      return x ++ y := by
  have text : (left ++ " || " ++ right).toList = left.toList ++ (" || ".toList ++ right.toList) := by
    simp
  rw [parse, text, ofChars_append_bars]
  rfl

section Verdicts

variable [VersionLibrary]

theorem test_append (r s : Range) (v : Version) :
    Range.test (r ++ s) v = orM (r.test v) (s.test v) := by
  induction r with
  | nil => rfl
  | cons alternative r ih =>
    rw [Range.test, List.cons_append, List.anyM, Range.test, List.anyM]
    cases alternative.allM (·.test v) with
    | error complaint => rfl
    | ok b =>
      cases b with
      | true => rfl
      | false => exact ih

theorem test_single_append (cs ds : List Comparator) (v : Version) :
    Range.test [cs ++ ds] v = andM (Range.test [cs] v) (Range.test [ds] v) := by
  rw [test_singleton, test_singleton, test_singleton]
  induction cs with
  | nil => rfl
  | cons c cs ih =>
    rw [List.cons_append, List.allM, List.allM]
    cases c.test v with
    | error complaint => rfl
    | ok b =>
      cases b with
      | true => exact ih
      | false => rfl

/-- The verdict on a whole range is made of the verdicts on two parts. -/
def Combines (combine : Except Fault Bool → Except Fault Bool → Except Fault Bool)
    (left right whole : String) : Prop :=
  ∀ version : Value, check version (.text whole) =
    combine (check version (.text left)) (check version (.text right))

theorem combines_of_admits {left right whole : String} {x y z : Range}
    {combine : Except Fault Bool → Except Fault Bool → Except Fault Bool}
    (first : parse left = .ok x) (second : parse right = .ok y) (both : parse whole = .ok z)
    (neither : combine (.ok false) (.ok false) = .ok false)
    (admits : ∀ v, z.admits v = combine (x.admits v) (y.admits v)) :
    Combines combine left right whole := by
  intro version
  rw [check_of_parse first, check_of_parse second, check_of_parse both]
  cases Version.ofValue? version with
  | none => exact neither.symm
  | some v => exact admits v

/-- Bars between two ranges give the alternatives of both, and any blanks and commas between two
single alternatives that can be read give the comparators of both; so the verdicts are joined by or
and by and, the second one being asked for only if the first one does not decide. Blanks behind an
operator change nothing. -/
theorem parse_composes :
    (∀ left right : String,
      ((∃ fault, parse (left ++ " || " ++ right) = .error fault) ↔
        (∃ fault, parse left = .error fault) ∨ ∃ fault, parse right = .error fault) ∧
      ∀ x y, parse left = .ok x → parse right = .ok y →
        parse (left ++ " || " ++ right) = .ok (x ++ y) ∧
          Combines orM left right (left ++ " || " ++ right)) ∧
    (∀ left separators right : String, ¬ ['|', '|'] <:+: left.toList →
      ¬ ['|', '|'] <:+: right.toList → separators ≠ "" →
      (∀ c ∈ separators.toList, isSeparator c = true) →
      ∀ x y, parse left = .ok x → parse right = .ok y →
        ∃ cs ds, x = [cs] ∧ y = [ds] ∧ parse (left ++ separators ++ right) = .ok [cs ++ ds] ∧
          Combines andM left right (left ++ separators ++ right)) ∧
    ∀ (before blanks after : String) (op : Operator),
      (∀ c ∈ blanks.toList, Text.isBlank c = true) →
      parse (before ++ op.symbol ++ blanks ++ after) = parse (before ++ op.symbol ++ after) := by
  refine ⟨?_, ?_, ?_⟩
  · intro left right
    have whole := parse_append_bars left right
    constructor
    · rw [whole]
      cases parse left with
      | error fault => exact iff_of_true ⟨fault, rfl⟩ (.inl ⟨fault, rfl⟩)
      | ok x =>
        cases parse right with
        | error fault => exact iff_of_true ⟨fault, rfl⟩ (.inr ⟨fault, rfl⟩)
        | ok y => exact iff_of_false (by rintro ⟨_, ⟨⟩⟩) (by rintro (⟨_, ⟨⟩⟩ | ⟨_, ⟨⟩⟩))
    · intro x y first second
      rw [first, second] at whole
      refine ⟨whole, combines_of_admits first second whole rfl fun v => ?_⟩
      rw [admits, admits, admits, test_append]
      cases x.test v with
      | error complaint => rfl
      | ok b => cases b <;> rfl
  · intro left separators right leftSingle rightSingle nonempty separate x y first second
    have some : separators.toList ≠ [] := by
      intro none
      exact nonempty (String.toList_inj.mp none)
    obtain ⟨cs, ds, rfl, rfl, both⟩ :=
      ofChars_append_separators first second leftSingle rightSingle separate some
    have whole : parse (left ++ separators ++ right) = .ok [cs ++ ds] := by
      rw [parse, String.toList_append, String.toList_append, List.append_assoc, both]
    refine ⟨cs, ds, rfl, rfl, whole, combines_of_admits first second whole rfl fun v => ?_⟩
    rw [admits, admits, admits, test_single_append]
    cases Range.test [cs] v with
    | error complaint => rfl
    | ok b => cases b <;> rfl
  · intro before blanks after op blank
    have same := ofChars_insert_blank blank op before.toList after.toList
    simpa only [parse, String.toList_append, List.append_assoc] using same

end Verdicts

theorem parse_composes_gaps :
    parse "^ 1.0.0-rc.1," = .ok [[⟨.atLeast, ⟨1, 0, 0, [['r', 'c'], ['1']]⟩⟩,
      ⟨.below, .floor 2 0 0⟩]] ∧
    parse ",<\t1.5" = .ok [[⟨.below, .floor 1 5 0⟩]] ∧
    Combines orM "^ 1.0.0-rc.1," ",<\t1.5" ("^ 1.0.0-rc.1," ++ " || " ++ ",<\t1.5") ∧
    (∃ fault, parse ("^ 1.0.0-rc.1," ++ " || " ++ "<=") = .error fault) ∧
    Combines andM "^ 1.0.0-rc.1," ",<\t1.5" ("^ 1.0.0-rc.1," ++ " ,\u2003" ++ ",<\t1.5") ∧
    parse ("<1 || " ++ "^" ++ " \t" ++ "1.0.0") = parse ("<1 || " ++ "^" ++ "1.0.0") := by
  have left : parse "^ 1.0.0-rc.1," = .ok [[⟨.atLeast, ⟨1, 0, 0, [['r', 'c'], ['1']]⟩⟩,
      ⟨.below, .floor 2 0 0⟩]] := by decide +kernel
  have right : parse ",<\t1.5" = .ok [[⟨.below, .floor 1 5 0⟩]] := by decide +kernel
  have operatorAlone : parse "<=" = .error (.invalidComparator "<=") := by decide +kernel
  obtain ⟨bars, separators, blanks⟩ := parse_composes
  have gap : ∀ c ∈ " ,\u2003".toList, isSeparator c = true :=
    List.all_eq_true.mp (by decide +kernel)
  have blank : ∀ c ∈ " \t".toList, Text.isBlank c = true := List.all_eq_true.mp (by decide +kernel)
  obtain ⟨cs, ds, -, -, -, both⟩ := separators _ " ,\u2003" _ (by decide +kernel)
    (by decide +kernel) (by decide) gap _ _ left right
  exact ⟨left, right, ((bars _ _).2 _ _ left right).2,
    (bars _ "<=").1.mpr (.inr ⟨_, operatorAlone⟩), both,
    blanks "<1 || " " \t" "1.0.0" .caret blank⟩

end EnvDoctor.Range
