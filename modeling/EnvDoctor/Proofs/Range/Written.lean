import EnvDoctor.Proofs.Version.Library
import EnvDoctor.Range.Parser

/-!
# Ranges of one operator and one written version

An operator in front of the written form of a well-formed version is a range of one alternative,
namely the plain comparators of that operator and that version. Nothing in the text separates,
nothing in it is dropped, and the operator is recognised because a digit follows it.
-/

namespace EnvDoctor

/-- A character at which no range is cut: no blank, no comma and no bar. -/
def Range.isInner (c : Char) : Bool :=
  !Text.isBlank c && c != ',' && c != '|'

namespace Range

theorem isInner_of_isIdentifierChar {c : Char} (h : Version.isIdentifierChar c = true) :
    isInner c = true := by
  have between := Version.toNat_of_isIdentifierChar h
  have comma : c ≠ ',' := by
    rintro rfl
    exact absurd h (by decide)
  have bar : c ≠ '|' := by
    rintro rfl
    exact absurd h (by decide)
  have blank : Text.isBlank c = false := by
    simp only [Text.isBlank, Bool.or_eq_false_iff, Bool.and_eq_false_iff, decide_eq_false_iff_not,
      beq_eq_false_iff_ne]
    omega
  simp [isInner, blank, comma, bar]

theorem isInner_of_isDigit {c : Char} (h : Text.isDigit c = true) : isInner c = true := by
  have comma : c ≠ ',' := by
    rintro rfl
    exact absurd h (by decide)
  have bar : c ≠ '|' := by
    rintro rfl
    exact absurd h (by decide)
  simp [isInner, Text.not_blank_of_isDigit h, comma, bar]

theorem isInner_of_mem_symbol (op : Operator) : ∀ c ∈ op.symbol.toList, isInner c = true := by
  apply List.all_eq_true.mp
  cases op <;> decide

theorem not_blank_of_isInner {c : Char} (inner : isInner c = true) : Text.isBlank c = false := by
  simp only [isInner, Bool.and_eq_true, Bool.not_eq_true'] at inner
  exact inner.1.1

theorem isSeparator_of_isInner {c : Char} (inner : isInner c = true) : isSeparator c = false := by
  have comma : c ≠ ',' := by
    rintro rfl
    exact absurd inner (by decide)
  simp [isSeparator, not_blank_of_isInner inner, comma]

variable {s : List Char}

theorem glueFrom_of_visible (visible : ∀ c ∈ s, Text.isBlank c = false) (after : Bool) :
    glueFrom after s = s := by
  induction s generalizing after with
  | nil => rfl
  | cons c s ih =>
    have blank := visible c List.mem_cons_self
    simp [glueFrom, blank, ih (fun d hd => visible d (List.mem_cons_of_mem c hd))]

theorem alternatives_cons {c : Char} (single : c = '|' → s.head? ≠ some '|') :
    alternatives (c :: s) = Text.consFirst c (alternatives s) := by
  rw [alternatives]
  intro rest bar second
  rw [second] at single
  exact single bar rfl

theorem alternatives_append_of_notMem {t first : List Char} {after : List (List Char)}
    (noBar : '|' ∉ s) (right : alternatives t = first :: after) :
    alternatives (s ++ t) = (s ++ first) :: after := by
  induction s with
  | nil => exact right
  | cons c s ih =>
    rw [List.mem_cons, not_or] at noBar
    rw [List.cons_append, alternatives_cons fun bar => absurd bar.symm noBar.1, ih noBar.2]
    rfl

/-- A text in which no bars meet is its only alternative. -/
theorem alternatives_of_apart (apart : ¬ ['|', '|'] <:+: s) : alternatives s = [s] := by
  induction s with
  | nil => rfl
  | cons c s ih =>
    have single : c = '|' → s.head? ≠ some '|' := by
      rintro rfl second
      obtain ⟨rest, rfl⟩ := List.head?_eq_some_iff.mp second
      exact apart (List.prefix_append ['|', '|'] rest).isInfix
    rw [alternatives_cons single, ih fun bars => apart (List.infix_cons bars)]
    rfl

theorem alternatives_of_not_mem (noBar : '|' ∉ s) : alternatives s = [s] :=
  alternatives_of_apart fun bars => noBar (bars.subset List.mem_cons_self)

theorem ofChars_of_single (single : alternatives s = [s]) :
    ofChars s = (fun comparators => [comparators]) <$> alternative s := by
  rw [ofChars, single, List.mapM_cons, List.mapM_nil]
  cases alternative s <;> rfl

section Uncut

variable (uncut : ∀ c ∈ s, isSeparator c = false) (nonempty : s ≠ [])

include uncut nonempty

theorem tokens_of_uncut : tokens s = [s] := by
  have visible : ∀ c ∈ s, Text.isBlank c = false :=
    fun c hc => (Bool.or_eq_false_iff.mp (uncut c hc)).1
  rw [tokens, Text.trim_of_forall_not_blank visible, glue, glueFrom_of_visible visible,
    Text.fields_of_forall_not nonempty uncut]

/-- A text that is cut nowhere is a range of one comparator. -/
theorem ofChars_of_uncut (single : alternatives s = [s]) :
    ofChars s = (fun comparators => [comparators]) <$> comparator s := by
  have only : alternative s = comparator s := by
    rw [alternative, tokens_of_uncut uncut nonempty, List.mapM_cons, List.mapM_nil]
    cases comparator s <;> simp
  rw [ofChars_of_single single, only]

end Uncut

theorem ofChars_of_inner (nonempty : s ≠ []) (inner : ∀ c ∈ s, isInner c = true) :
    ofChars s = (fun comparators => [comparators]) <$> comparator s := by
  have noBar : '|' ∉ s := fun bar => absurd (inner '|' bar) (by decide)
  exact ofChars_of_uncut (fun c hc => isSeparator_of_isInner (inner c hc)) nonempty
    (alternatives_of_not_mem noBar)

/-- An operator is recognised if no equals sign follows that would make it a longer one. -/
theorem takeOperator_symbol_append (op : Operator) {c : Char} (shorter : c ≠ '=')
    (rest : List Char) : takeOperator (op.symbol.toList ++ c :: rest) = (op, c :: rest) := by
  cases op <;>
    simp [takeOperator, Operator.longestFirst, Operator.symbol, List.isPrefixOf?, shorter.symm]

/-- Three numbers and a tail are taken apart by the grammar of ranges, if the tail is one. -/
theorem numbers?_digits_append (v : Version) {tail : List Char}
    (stops : ∀ c ∈ tail.head?, Text.isDigit c = false) :
    numbers? (Text.decimalDigits v.major ++ '.' :: (Text.decimalDigits v.minor ++
        '.' :: (Text.decimalDigits v.patch ++ tail))) =
      (Version.tail? Version.isIdentifier tail).map (.full (Text.decimalDigits v.major)
        (Text.decimalDigits v.minor) (Text.decimalDigits v.patch)) := by
  have digits : ∀ d : Char, d.isDigit = true → Text.isDigit d = true :=
    fun _ => Text.isDigit_of_isDigit
  have beforePoint : ∀ rest : List Char, ∀ c ∈ ('.' :: rest).head?, Text.isDigit c = false := by
    intro rest c hc
    rw [← Option.some.inj hc]
    decide
  cases read : Version.tail? Version.isIdentifier tail <;>
    simp [numbers?, afterPoint?,
      Version.takeNumber?_append (Text.isCanonical_decimalDigits _) digits (beforePoint _),
      Version.takeNumber?_append (Text.isCanonical_decimalDigits _) digits stops, read]

theorem numbers?_of_tail? (v : Version) {tail : List Char}
    (read : Version.tail? Version.isIdentifier tail = some v.pre) :
    numbers? (Text.decimalDigits v.major ++ '.' :: (Text.decimalDigits v.minor ++
        '.' :: (Text.decimalDigits v.patch ++ tail))) =
      some (.full (Text.decimalDigits v.major) (Text.decimalDigits v.minor)
        (Text.decimalDigits v.patch) v.pre) := by
  rw [numbers?_digits_append v, read]
  · rfl
  · intro c hc
    rcases Version.head?_of_tail?_eq_some read c hc with rfl | rfl <;> decide

/-- A version with an identifier in the digits of another script is none for the grammar of
ranges. -/
theorem numbers?_written_eq_none {isDigit : Char → Bool} (digits : Version.IsDigitClass isDigit)
    {v : Version} (strict : Version.AllStrict isDigit v.pre)
    (other : ¬ ∀ id ∈ v.pre, Version.isIdentifier id = true) : numbers? v.written = none := by
  have uncut : ∀ id ∈ v.pre, ∀ c ∈ id, c ≠ '.' ∧ c ≠ '+' := fun id hid _ hc =>
    Version.ne_of_identifier_or_digit digits
      (Version.char_of_isStrictIdentifier (strict id hid) hc)
  have unread : Version.tail? Version.isIdentifier (Version.writtenTail v.pre ++ []) = none := by
    rw [Version.tail?_writtenTail_append_eq uncut rfl, if_neg (mt List.all_eq_true.mp other)]
  rw [List.append_nil] at unread
  rw [Version.written_eq, numbers?_digits_append v, unread]
  · rfl
  · intro c hc
    unfold Version.writtenTail at hc
    split at hc
    · cases hc
    · rw [← Option.some.inj hc]
      decide

/-- The grammar of ranges takes a complete version in ASCII digits apart as the grammar of versions
does. -/
theorem numbers?_of_ofChars? {v : Version} (read : Version.ofChars? Char.isDigit s = some v) :
    numbers? s = some (.full (Text.decimalDigits v.major) (Text.decimalDigits v.minor)
      (Text.decimalDigits v.patch) v.pre) := by
  obtain ⟨-, tail, tailRead, rfl⟩ := Version.ofChars?_eq_some_iff.mp read
  apply numbers?_of_tail?
  exact Version.tail?_imp (fun _ => Version.isIdentifier_of_isStrictIdentifier) tailRead

/-- A version in any digits is cut nowhere. -/
theorem isInner_of_ofChars? {isDigit : Char → Bool} (digits : Version.IsDigitClass isDigit)
    {v : Version} (read : Version.ofChars? isDigit s = some v) : ∀ c ∈ s, isInner c = true := by
  intro c hc
  rcases Version.char_of_ofChars? read hc with (h | h) | rfl | rfl
  · exact isInner_of_isIdentifierChar h
  · exact isInner_of_isDigit (digits.decimal h)
  · decide
  · decide

theorem value_full {v : Version}
    (short : ∀ n ∈ v.numbers, (Text.decimalDigits n).length ≤ Numeral.digitLimit) :
    (Numbers.full (Text.decimalDigits v.major) (Text.decimalDigits v.minor)
      (Text.decimalDigits v.patch) v.pre).value = .ok (.full v) := by
  have short : ∀ n ∈ v.numbers, Numeral.read (Text.decimalDigits n) = .ok n :=
    fun n hn => Numeral.read_decimalDigits (short n hn)
  simp only [Numbers.value, short v.major (by simp [Version.numbers]),
    short v.minor (by simp [Version.numbers]), short v.patch (by simp [Version.numbers])]
  rfl

/-- A number is left alone where one leading `v` is dropped. -/
theorem dropV_of_isDigit {d : Char} (digit : d.isDigit = true) (rest : List Char) :
    dropV (d :: rest) = d :: rest := by
  unfold dropV
  split
  next heq =>
    cases heq
    exact absurd digit (by decide)
  next => rfl

section Numbers

variable (op : Operator) {d : Char} {rest : List Char} {n : Numbers} {p : PartialVersion}
  (digit : d.isDigit = true) (read : numbers? (d :: rest) = some n) (value : n.value = .ok p)

include digit read value

/-- An operator in front of numbers, perhaps with a `v` between them, is one comparator. -/
theorem comparator_symbol_append {mark : List Char} (marks : mark = [] ∨ mark = ['v']) :
    comparator (op.symbol.toList ++ (mark ++ d :: rest)) = .ok (p.expand op) := by
  have shorter : d ≠ '=' := by
    rintro rfl
    exact absurd digit (by decide)
  rcases marks with rfl | rfl
  · simp [comparator, takeOperator_symbol_append op shorter, dropV_of_isDigit digit, read, value]
  · have operator := takeOperator_symbol_append op (c := 'v') (by decide) (d :: rest)
    simp [comparator, operator, dropV, read, value]

/-- An operator and numbers that are cut nowhere are a range of their plain comparators. -/
theorem parse_symbol_ofList (inner : ∀ c ∈ d :: rest, isInner c = true) :
    parse (op.symbol ++ String.ofList (d :: rest)) = .ok [p.expand op] := by
  have whole : ∀ c ∈ op.symbol.toList ++ d :: rest, isInner c = true := by
    intro c hc
    exact (List.mem_append.mp hc).elim (isInner_of_mem_symbol op c) (inner c)
  have text : (op.symbol ++ String.ofList (d :: rest)).toList = op.symbol.toList ++ d :: rest := by
    simp
  have single := comparator_symbol_append op digit read value (.inl rfl)
  rw [List.nil_append] at single
  rw [parse, text, ofChars_of_inner (by simp) whole, single]
  rfl

end Numbers

/-- An operator in front of a complete version, perhaps with a `v` between them, is one
comparator. -/
theorem comparator_of_ofChars? (op : Operator) {mark : List Char} (marks : mark = [] ∨ mark = ['v'])
    {v : Version} (read : Version.ofChars? Char.isDigit s = some v) :
    comparator (op.symbol.toList ++ (mark ++ s)) = .ok ((PartialVersion.full v).expand op) := by
  have numbers := numbers?_of_ofChars? read
  have value := value_full (Version.wellFormed_of_ofChars? read).short
  obtain ⟨d, rest, rfl, digit⟩ := Version.exists_digit_of_ofChars? read
  exact comparator_symbol_append op digit numbers value marks

/-- An operator and a version written in ASCII digits are the range of their plain comparators. -/
theorem parse_symbol_append (op : Operator) {v : Version} (wf : v.WellFormed Char.isDigit) :
    parse (op.symbol ++ toString v) = .ok [(PartialVersion.full v).expand op] := by
  have read := wf.ofChars?_written Version.isDigitClass_ascii
  have numbers := numbers?_of_ofChars? read
  have inner := isInner_of_ofChars? Version.isDigitClass_ascii read
  obtain ⟨d, rest, written, digit⟩ := v.written_eq_digit_cons
  rw [written] at numbers inner
  have text : toString v = String.ofList (d :: rest) := congrArg String.ofList written
  rw [text]
  exact parse_symbol_ofList op digit numbers (value_full wf.short) inner

/-- Behind an operator, a written version with an identifier in the digits of another script cannot
be read. -/
theorem parse_symbol_append_of_other (op : Operator) {isDigit : Char → Bool}
    (digits : Version.IsDigitClass isDigit) {v : Version} (wf : v.WellFormed isDigit)
    (other : ¬ ∀ id ∈ v.pre, Version.isIdentifier id = true) :
    parse (op.symbol ++ toString v) = .error (.invalidComparator (op.symbol ++ toString v)) := by
  have unread := numbers?_written_eq_none digits wf.strict other
  have inner := isInner_of_ofChars? digits (wf.ofChars?_written digits)
  obtain ⟨d, rest, written, digit⟩ := v.written_eq_digit_cons
  have shorter : d ≠ '=' := by
    rintro rfl
    exact absurd digit (by decide)
  rw [written] at unread inner
  have text : (op.symbol ++ toString v).toList = op.symbol.toList ++ d :: rest := by
    rw [String.toList_append, ← written]
    exact congrArg _ String.toList_ofList
  have single : comparator (op.symbol.toList ++ d :: rest) =
      .error (.invalidComparator (op.symbol ++ toString v)) := by
    rw [comparator, takeOperator_symbol_append op shorter]
    dsimp only
    rw [dropV_of_isDigit digit, unread, ← text, String.ofList_toList]
  rw [parse, text, ofChars_of_inner (by simp) fun c hc =>
    (List.mem_append.mp hc).elim (isInner_of_mem_symbol op c) (inner c), single]
  rfl

/-- A range that is read is held against the version, if there is one. -/
theorem check_of_parse [VersionLibrary] {range : String} {r : Range} (read : parse range = .ok r)
    (version : Value) :
    check version (.text range) = (Version.ofValue? version).elim (.ok false) r.admits := by
  rw [check, ofValue, read]
  cases Version.ofValue? version <;> rfl

theorem check_text_of_parse [VersionLibrary] {range text : String} {r : Range} {v : Version}
    (read : parse range = .ok r) (version : Version.parse? text = some v) :
    check (.text text) (.text range) = r.admits v := by
  rw [check_of_parse read, Version.ofValue?, version]
  rfl

end Range

end EnvDoctor
