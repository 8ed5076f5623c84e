import EnvDoctor.Proofs.Range.Composition
import EnvDoctor.Proofs.Range.Incomplete
import EnvDoctor.Proofs.Range.Meaning

/-!
# The bounds of ranges

The grammar of ranges differs from the grammar of versions in one point within ASCII: it lets
identifiers of digits with leading zeros pass. So the bounds of a range are canonical versions
exactly if no such identifier is written in it, and a complete comparator is read exactly if its
version is one and no such identifier stands in it.
-/

namespace EnvDoctor

namespace Version

/-- A version that can be written, in the form in which it would be cleaned. -/
structure IsClean [VersionLibrary] (v : Version) : Prop where
  writable : ∀ n ∈ v.numbers, ∃ ds, Numeral.write n = .ok ds
  clean : clean? (toString v) = some (toString v)

theorem exists_write_iff {n : ℕ} :
    (∃ ds, Numeral.write n = .ok ds) ↔ (Text.decimalDigits n).length ≤ Numeral.digitLimit := by
  unfold Numeral.write
  dsimp only
  split
  next long => exact iff_of_false (by rintro ⟨_, ⟨⟩⟩) (by omega)
  next short => exact iff_of_true ⟨_, rfl⟩ (by omega)

section Plain

variable [VersionLibrary] {isDigit : Char → Bool} [lawful : LawfulVersionLibrary isDigit]
  {v : Version} (plain : ∀ id ∈ v.pre, isIdentifier id = true)

include plain lawful

theorem parse?_toString : parse? (toString v) = ofChars? Char.isDigit v.written := by
  have text : (toString v).toList = v.written := String.toList_ofList
  rw [← ofChars?_of_ascii lawful.digits (toNat_lt_of_mem_written plain), ← text]
  apply parse?_eq_ofChars?
  · intro c hc
    rw [text] at hc
    apply Range.not_blank_of_isInner
    rcases char_of_written plain hc with identifier | rfl | rfl
    · exact Range.isInner_of_isIdentifierChar identifier
    · decide
    · decide
  · obtain ⟨d, rest, whole, digit⟩ := v.written_eq_digit_cons
    intro c hc
    rw [text, whole] at hc
    rwa [← Option.some.inj hc]

/-- If no identifier of a version would be cut, it is clean exactly if it could have been read. -/
theorem isClean_iff_wellFormed : v.IsClean ↔ v.WellFormed Char.isDigit := by
  constructor
  · rintro ⟨writable, clean⟩
    obtain ⟨w, read, -⟩ := Option.map_eq_some_iff.mp clean
    rw [parse?_toString plain] at read
    -- The lax grammar finds the same identifiers in the written form as the strict one.
    have lax := Range.numbers?_of_tail? v (tail?_writtenTail plain plain)
    rw [← written_eq, Range.numbers?_of_ofChars? read] at lax
    obtain ⟨-, -, -, same⟩ := Range.Numbers.full.inj (Option.some.inj lax)
    refine ⟨fun n hn => exists_write_iff.mp (writable n hn), ?_⟩
    rw [← same]
    exact (wellFormed_of_ofChars? read).strict
  · intro wf
    refine ⟨fun n hn => exists_write_iff.mpr (wf.short n hn), ?_⟩
    rw [clean?, parse?_toString plain, wf.ofChars?_written isDigitClass_ascii]
    rfl

end Plain

end Version

namespace PartialVersion

/-- The plain comparators of an operator and a version have clean bounds exactly if the identifiers
of the version are strict. -/
theorem forall_isClean_expand_iff [VersionLibrary] {isDigit : Char → Bool}
    [LawfulVersionLibrary isDigit] {p : PartialVersion} (op : Operator)
    (plain : ∀ id ∈ p.lower.pre, Version.isIdentifier id = true)
    (fits : ∀ g ∈ p.given, (Text.decimalDigits g).length < Numeral.digitLimit) :
    (∀ c ∈ p.expand op, c.bound.IsClean) ↔ Version.AllStrict Char.isDigit p.lower.pre := by
  constructor
  · intro clean
    cases p with
    | major a | minor a b => exact List.forall_mem_nil _
    | full v =>
      obtain ⟨first, more, whole, bound⟩ := expand_full_eq_cons op v
      have firstClean : first.bound.IsClean := clean first (by simp [whole])
      rw [bound] at firstClean
      exact ((Version.isClean_iff_wellFormed plain).mp firstClean).strict
  · intro strict c among
    have near := near_of_mem_expand among
    apply (Version.isClean_iff_wellFormed (near.forall_pre (by decide) plain)).mpr
    exact ⟨near.short fits, near.forall_pre (by decide) strict⟩

end PartialVersion

namespace Range

def Numbers.digits : Numbers → List (List Char)
  | major a => [a]
  | minor a b => [a, b]
  | full a b c _ => [a, b, c]

def Numbers.identifiers : Numbers → List (List Char)
  | full _ _ _ pre => pre
  | _ => []

def parts? (token : List Char) : Option (Operator × Numbers) :=
  (numbers? (dropV (takeOperator token).2)).map fun n => ((takeOperator token).1, n)

/-- The operators and the numbers that are written in a range, one pair for each comparator. -/
def operands (s : String) : List (Operator × Numbers) :=
  ((alternatives s.toList).flatMap tokens).filterMap parts?

/-- The prereleases in a range have identifiers as the grammar of versions has them. -/
def HasStrictIdentifiers (s : String) : Prop :=
  ∀ operand ∈ operands s, Version.AllStrict Char.isDigit operand.2.identifiers

section Numbers

variable {s : List Char} {n : Numbers} {p : PartialVersion}

theorem plain_of_numbers? (read : numbers? s = some n) :
    (∀ ds ∈ n.digits, ds ≠ []) ∧ ∀ id ∈ n.identifiers, Version.isIdentifier id = true := by
  have nonempty {s ds rest : List Char}
      (taken : Version.takeNumber? Text.isDigit s = some (ds, rest)) : ds ≠ [] := by
    obtain ⟨-, d, more, rfl, -⟩ := Version.exists_digits_of_takeNumber? taken
    exact List.cons_ne_nil d more
  cases takenFrom_of_numbers? read with
  | major first => simp [Numbers.digits, Numbers.identifiers, nonempty first]
  | minor first second =>
    simp [Numbers.digits, Numbers.identifiers, nonempty first, nonempty second]
  | full first second third rest =>
    refine ⟨?_, Version.tail?_eq_some rest⟩
    simp [Numbers.digits, nonempty first, nonempty second, nonempty third]

/-- The values of the numbers, if none of them is too long. -/
theorem value_eq_ok (value : n.value = .ok p) :
    (∀ ds ∈ n.digits, ds.length ≤ Numeral.digitLimit) ∧
      p.given = n.digits.map Text.digitsValue ∧ p.lower.pre = n.identifiers := by
  cases n with
  | major a =>
    obtain ⟨x, first, same⟩ := bind_eq_ok_iff.mp value
    cases same
    obtain ⟨short, rfl⟩ := Numeral.length_le_of_read first
    exact ⟨List.forall_mem_singleton.mpr short, rfl, rfl⟩
  | minor a b =>
    obtain ⟨x, first, value⟩ := bind_eq_ok_iff.mp value
    obtain ⟨y, second, same⟩ := bind_eq_ok_iff.mp value
    cases same
    obtain ⟨short₁, rfl⟩ := Numeral.length_le_of_read first
    obtain ⟨short₂, rfl⟩ := Numeral.length_le_of_read second
    exact ⟨by simp [Numbers.digits, short₁, short₂], rfl, rfl⟩
  | full a b c pre =>
    obtain ⟨x, first, value⟩ := bind_eq_ok_iff.mp value
    obtain ⟨y, second, value⟩ := bind_eq_ok_iff.mp value
    obtain ⟨z, third, same⟩ := bind_eq_ok_iff.mp value
    cases same
    obtain ⟨short₁, rfl⟩ := Numeral.length_le_of_read first
    obtain ⟨short₂, rfl⟩ := Numeral.length_le_of_read second
    obtain ⟨short₃, rfl⟩ := Numeral.length_le_of_read third
    exact ⟨by simp [Numbers.digits, short₁, short₂, short₃], rfl, rfl⟩

theorem Numbers.forall_isClean_expand_iff [VersionLibrary] {isDigit : Char → Bool}
    [LawfulVersionLibrary isDigit] (op : Operator) (read : numbers? s = some n)
    (value : n.value = .ok p) (short : ∀ ds ∈ n.digits, ds.length < Numeral.digitLimit) :
    (∀ c ∈ p.expand op, c.bound.IsClean) ↔ Version.AllStrict Char.isDigit n.identifiers := by
  obtain ⟨nonempty, plain⟩ := plain_of_numbers? read
  obtain ⟨-, given, pre⟩ := value_eq_ok value
  rw [← pre] at plain ⊢
  apply PartialVersion.forall_isClean_expand_iff op plain
  intro g hg
  rw [given] at hg
  obtain ⟨ds, hds, rfl⟩ := List.mem_map.mp hg
  calc (Text.decimalDigits (Text.digitsValue ds)).length
      ≤ ds.length := Text.length_decimalDigits_digitsValue_le (nonempty ds hds)
    _ < Numeral.digitLimit := short ds hds

end Numbers

theorem comparator_eq_ok_iff {token : List Char} {cs : List Comparator} :
    comparator token = .ok cs ↔
      ∃ op n p, parts? token = some (op, n) ∧ n.value = .ok p ∧ p.expand op = cs := by
  unfold comparator parts?
  dsimp only
  cases numbers? (dropV (takeOperator token).2) with
  | none => simp
  | some n => cases value : n.value <;> simp [value]

section Parse

variable {s : String} {r : Range} (read : parse s = .ok r)

include read

theorem exists_comparator_of_parse {token : List Char}
    (among : token ∈ (alternatives s.toList).flatMap tokens) : ∃ cs, comparator token = .ok cs := by
  obtain ⟨piece, hpiece, htoken⟩ := List.mem_flatMap.mp among
  obtain ⟨all, done⟩ := exists_ok_of_mapM read hpiece
  obtain ⟨parts, done, -⟩ := bind_eq_ok_iff.mp done
  exact exists_ok_of_mapM done htoken

/-- The comparators of a range are those of its tokens. -/
theorem exists_mem_of_parse_iff {c : Comparator} : (∃ cs ∈ r, c ∈ cs) ↔
    ∃ token ∈ (alternatives s.toList).flatMap tokens, ∃ cs, comparator token = .ok cs ∧ c ∈ cs := by
  constructor
  · rintro ⟨all, hall, hc⟩
    obtain ⟨piece, hpiece, done⟩ := (mem_mapM_iff read).mp hall
    obtain ⟨parts, parsed, same⟩ := bind_eq_ok_iff.mp done
    cases same
    obtain ⟨cs, hcs, hc⟩ := List.mem_flatten.mp hc
    obtain ⟨token, htoken, single⟩ := (mem_mapM_iff parsed).mp hcs
    exact ⟨token, List.mem_flatMap.mpr ⟨piece, hpiece, htoken⟩, cs, single, hc⟩
  · rintro ⟨token, among, cs, single, hc⟩
    obtain ⟨piece, hpiece, htoken⟩ := List.mem_flatMap.mp among
    obtain ⟨all, done⟩ := exists_ok_of_mapM read hpiece
    refine ⟨all, (mem_mapM_iff read).mpr ⟨piece, hpiece, done⟩, ?_⟩
    obtain ⟨parts, parsed, same⟩ := bind_eq_ok_iff.mp done
    cases same
    exact List.mem_flatten.mpr ⟨cs, (mem_mapM_iff parsed).mpr ⟨token, htoken, single⟩, hc⟩

theorem forall_mem_of_parse_iff {P : Comparator → Prop} : (∀ cs ∈ r, ∀ c ∈ cs, P c) ↔
    ∀ token ∈ (alternatives s.toList).flatMap tokens, ∀ cs, comparator token = .ok cs →
      ∀ c ∈ cs, P c := by
  constructor
  · intro all token among cs single c hc
    obtain ⟨cs, hcs, hc⟩ := (exists_mem_of_parse_iff read).mpr ⟨token, among, cs, single, hc⟩
    exact all cs hcs c hc
  · intro all cs hcs c hc
    obtain ⟨token, among, cs, single, hc⟩ := (exists_mem_of_parse_iff read).mp ⟨cs, hcs, hc⟩
    exact all token among cs single c hc

/-- The bounds of a range are clean exactly if its identifiers are strict. -/
theorem forall_isClean_iff [VersionLibrary] {isDigit : Char → Bool}
    [LawfulVersionLibrary isDigit]
    (short : ∀ operand ∈ operands s, ∀ ds ∈ operand.2.digits, ds.length < Numeral.digitLimit) :
    (∀ cs ∈ r, ∀ c ∈ cs, c.bound.IsClean) ↔ HasStrictIdentifiers s := by
  have written : HasStrictIdentifiers s ↔ ∀ token ∈ (alternatives s.toList).flatMap tokens,
      ∀ operand, parts? token = some operand →
        Version.AllStrict Char.isDigit operand.2.identifiers := by
    simp only [HasStrictIdentifiers, operands, List.mem_filterMap]
    exact ⟨fun all token among operand taken => all operand ⟨token, among, taken⟩,
      fun all operand ⟨token, among, taken⟩ => all token among operand taken⟩
  rw [written, forall_mem_of_parse_iff read]
  refine forall₂_congr fun token among => ?_
  obtain ⟨cs, single⟩ := exists_comparator_of_parse read among
  obtain ⟨op, n, p, taken, value, rfl⟩ := comparator_eq_ok_iff.mp single
  have mem : (op, n) ∈ operands s := List.mem_filterMap.mpr ⟨token, among, taken⟩
  obtain ⟨m, numbers, same⟩ := Option.map_eq_some_iff.mp taken
  obtain rfl : m = n := congrArg Prod.snd same
  have bounds := Numbers.forall_isClean_expand_iff op numbers value (short _ mem)
  simp only [single, taken, Except.ok.injEq, Option.some.injEq, forall_eq', bounds]

end Parse

section Complete

/-- An ASCII numeral is the decimal form of its value. -/
theorem decimalDigits_of_takeNumber? {s ds rest : List Char} (ascii : ∀ c ∈ s, c.toNat < 128)
    (taken : Version.takeNumber? Text.isDigit s = some (ds, rest)) :
    Text.decimalDigits (Text.digitsValue ds) = ds ∧ s = ds ++ rest := by
  have digit : ∀ c ∈ s, Text.isDigit c = true → c.isDigit = true := by
    intro c hc digit
    rwa [Text.isDigit_eq_of_ascii (ascii c hc)] at digit
  obtain ⟨canonical, whole⟩ := Version.isCanonical_of_takeNumber? taken digit
  exact ⟨canonical.decimalDigits_digitsValue, whole⟩

/-- Within ASCII the grammar of versions takes what the grammar of ranges takes for a complete
version with strict identifiers. -/
theorem ofChars?_eq_some_iff_numbers? {s : List Char} (ascii : ∀ c ∈ s, c.toNat < 128)
    {v : Version} : Version.ofChars? Char.isDigit s = some v ↔
      ∃ n, numbers? s = some n ∧ n.value = .ok (.full v) ∧
        Version.AllStrict Char.isDigit n.identifiers := by
  constructor
  · intro read
    have wf := Version.wellFormed_of_ofChars? read
    exact ⟨_, numbers?_of_ofChars? read, value_full wf.short, wf.strict⟩
  · rintro ⟨n, read, value, strict⟩
    obtain ⟨short, given, pre⟩ := value_eq_ok value
    have count := congrArg List.length given
    obtain ⟨x, y, z, ids⟩ := v
    cases takenFrom_of_numbers? read with
    | major first => simp [PartialVersion.given, Version.numbers, Numbers.digits] at count
    | minor first second => simp [PartialVersion.given, Version.numbers, Numbers.digits] at count
    | @full t u tail a b c ids' first second third rest =>
      obtain rfl : ids = ids' := pre
      obtain ⟨rfl, rfl, rfl⟩ : x = Text.digitsValue a ∧ y = Text.digitsValue b ∧
          z = Text.digitsValue c := by
        simpa [PartialVersion.given, Version.numbers, Numbers.digits] using given
      obtain ⟨formA, rfl⟩ := decimalDigits_of_takeNumber? ascii first
      have asciiT : ∀ d ∈ t, d.toNat < 128 := fun d hd => ascii d (by simp [hd])
      obtain ⟨formB, rfl⟩ := decimalDigits_of_takeNumber? asciiT second
      have asciiU : ∀ d ∈ u, d.toNat < 128 := fun d hd => asciiT d (by simp [hd])
      obtain ⟨formC, rfl⟩ := decimalDigits_of_takeNumber? asciiU third
      refine Version.ofChars?_eq_some_iff.mpr ⟨?_, tail, Version.tail?_of_passes rest strict, ?_⟩
      · simpa [Version.numbers, Numbers.digits, formA, formB, formC] using short
      · rw [formA, formB, formC]

theorem count_point_of_takeNumber? {s ds rest : List Char}
    (taken : Version.takeNumber? Text.isDigit s = some (ds, rest)) :
    s.count '.' = rest.count '.' := by
  obtain ⟨rfl, d, more, rfl, first, -, digits⟩ := Version.exists_digits_of_takeNumber? taken
  have none : '.' ∉ d :: more := by
    rintro (_ | ⟨_, point⟩)
    · exact absurd first (by decide)
    · exact absurd (digits '.' point) (by decide)
  rw [List.count_append, List.count_eq_zero.mpr none, Nat.zero_add]

/-- Numbers with two points among them are those of a complete version. -/
theorem exists_full_of_points {s : List Char} {n : Numbers} {p : PartialVersion}
    (read : numbers? s = some n) (value : n.value = .ok p) (points : 2 ≤ s.count '.') :
    ∃ v, p = .full v := by
  obtain ⟨-, given, -⟩ := value_eq_ok value
  cases takenFrom_of_numbers? read with
  | major first => simp [count_point_of_takeNumber? first] at points
  | minor first second =>
    simp [count_point_of_takeNumber? first, count_point_of_takeNumber? second] at points
  | full first second third rest =>
    cases p with
    | major a => cases given
    | minor a b => cases given
    | full v => exact ⟨v, rfl⟩

/-- An operator or none, as it is written. -/
def lead (op? : Option Operator) : String :=
  (op?.map Operator.symbol).getD ""

/-- A complete version to be written behind an operator: ASCII text that begins with three dotted
numbers and is cut nowhere. -/
structure IsComplete (t : String) : Prop where
  ascii : ∀ c ∈ t.toList, c.toNat < 128
  numbers : ∃ a b c tail : List Char, (∀ ds ∈ [a, b, c], ds ≠ [] ∧ ∀ d ∈ ds, d.isDigit = true) ∧
    t.toList = a ++ '.' :: (b ++ '.' :: (c ++ tail))
  uncut : ∀ c ∈ t.toList, isSeparator c = false
  apart : ¬ ['|', '|'] <:+: t.toList

theorem takeOperator_lead (op? : Option Operator) {d : Char} (digit : d.isDigit = true)
    (rest : List Char) :
    takeOperator ((lead op?).toList ++ d :: rest) = (op?.getD .equal, d :: rest) := by
  cases op? with
  | some op =>
    apply takeOperator_symbol_append
    rintro rfl
    exact absurd digit (by decide)
  | none =>
    rcases takeOperator_cases (d :: rest) with whole | ⟨op, more, -, begins⟩
    · exact whole
    · obtain ⟨sign, signs, symbol, other⟩ : ∃ sign signs, op.symbol.toList = sign :: signs ∧
          sign.isDigit = false := by cases op <;> exact ⟨_, _, rfl, by decide⟩
      rw [symbol, List.cons_append] at begins
      obtain ⟨rfl, -⟩ := List.cons.inj begins
      rw [other] at digit
      cases digit

theorem isInner_of_mem_lead (op? : Option Operator) :
    ∀ c ∈ (lead op?).toList, isInner c = true := by
  cases op? with
  | none => exact List.forall_mem_nil _
  | some op => exact isInner_of_mem_symbol op

namespace IsComplete

variable {t : String} (complete : IsComplete t)

include complete

theorem exists_digit : ∃ d rest, t.toList = d :: rest ∧ d.isDigit = true := by
  obtain ⟨a, b, c, tail, digits, whole⟩ := complete.numbers
  obtain ⟨nonempty, digit⟩ := digits a List.mem_cons_self
  obtain ⟨d, more, rfl⟩ := List.exists_cons_of_ne_nil nonempty
  exact ⟨d, _, whole, digit d List.mem_cons_self⟩

theorem points : 2 ≤ t.toList.count '.' := by
  obtain ⟨a, b, c, tail, -, whole⟩ := complete.numbers
  rw [whole]
  simp only [List.count_append, List.count_cons_self]
  omega

variable (op? : Option Operator)

theorem uncut_lead : ∀ c ∈ (lead op? ++ t).toList, isSeparator c = false := by
  intro c hc
  rw [String.toList_append] at hc
  rcases List.mem_append.mp hc with hc | hc
  · exact isSeparator_of_isInner (isInner_of_mem_lead op? c hc)
  · exact complete.uncut c hc

theorem alternatives_lead :
    alternatives (lead op? ++ t).toList = [(lead op? ++ t).toList] := by
  have noBar : '|' ∉ (lead op?).toList :=
    fun bar => absurd (isInner_of_mem_lead op? '|' bar) (by decide)
  rw [String.toList_append]
  exact alternatives_append_of_notMem noBar (alternatives_of_apart complete.apart)

theorem toList_lead_ne_nil : (lead op? ++ t).toList ≠ [] := by
  obtain ⟨d, rest, begins, -⟩ := complete.exists_digit
  simp [begins]

theorem parts?_lead : parts? (lead op? ++ t).toList =
    (numbers? t.toList).map fun n => (op?.getD .equal, n) := by
  obtain ⟨d, rest, begins, digit⟩ := complete.exists_digit
  rw [parts?, String.toList_append, begins, takeOperator_lead op? digit, dropV_of_isDigit digit]

theorem mem_operands_iff {operand : Operator × Numbers} : operand ∈ operands (lead op? ++ t) ↔
    ∃ n, numbers? t.toList = some n ∧ (op?.getD .equal, n) = operand := by
  have single := tokens_of_uncut (complete.uncut_lead op?) (complete.toList_lead_ne_nil op?)
  rw [operands, complete.alternatives_lead, List.flatMap_singleton, single, List.mem_filterMap]
  simp only [List.mem_singleton, exists_eq_left, complete.parts?_lead, Option.map_eq_some_iff]

theorem exists_parse_iff : (∃ r, parse (lead op? ++ t) = .ok r) ↔
    ∃ n v, numbers? t.toList = some n ∧ n.value = .ok (.full v) := by
  have single := ofChars_of_uncut (complete.uncut_lead op?) (complete.toList_lead_ne_nil op?)
    (complete.alternatives_lead op?)
  rw [parse, single]
  constructor
  · rintro ⟨r, read⟩
    obtain ⟨cs, read, -⟩ := map_eq_ok_iff.mp read
    obtain ⟨op, n, p, taken, value, -⟩ := comparator_eq_ok_iff.mp read
    rw [complete.parts?_lead] at taken
    obtain ⟨m, numbers, same⟩ := Option.map_eq_some_iff.mp taken
    obtain rfl : m = n := congrArg Prod.snd same
    obtain ⟨v, rfl⟩ := exists_full_of_points numbers value complete.points
    exact ⟨m, v, numbers, value⟩
  · rintro ⟨n, v, numbers, value⟩
    have taken := complete.parts?_lead op?
    rw [numbers] at taken
    exact ⟨_, map_eq_ok_iff.mpr ⟨_, comparator_eq_ok_iff.mpr ⟨_, n, _, taken, value, rfl⟩, rfl⟩⟩

/-- It is a version exactly if it is read behind an operator and its identifiers are strict. -/
theorem isSome_clean?_iff [VersionLibrary] {isDigit : Char → Bool}
    [lawful : LawfulVersionLibrary isDigit] :
    (Version.clean? t).isSome = true ↔
      (∃ r, parse (lead op? ++ t) = .ok r) ∧ HasStrictIdentifiers (lead op? ++ t) := by
  obtain ⟨d, rest, begins, digit⟩ := complete.exists_digit
  have visible : ∀ c ∈ t.toList, Text.isBlank c = false :=
    fun c hc => (Bool.or_eq_false_iff.mp (complete.uncut c hc)).1
  have first : ∀ c ∈ t.toList.head?, c.isDigit = true := by
    intro c hc
    rw [begins] at hc
    rwa [← Option.some.inj hc]
  rw [complete.exists_parse_iff, Version.clean?, Option.isSome_map, Option.isSome_iff_exists,
    Version.parse?_eq_ofChars? visible first,
    Version.ofChars?_of_ascii lawful.digits complete.ascii]
  simp only [ofChars?_eq_some_iff_numbers? complete.ascii, HasStrictIdentifiers,
    complete.mem_operands_iff]
  constructor
  · rintro ⟨v, n, numbers, value, strict⟩
    refine ⟨⟨n, v, numbers, value⟩, ?_⟩
    rintro _ ⟨m, again, rfl⟩
    rwa [Option.some.inj (again.symm.trans numbers)]
  · rintro ⟨⟨n, v, numbers, value⟩, strict⟩
    exact ⟨v, n, numbers, value, strict _ ⟨n, numbers, rfl⟩⟩

end IsComplete

end Complete

/-- The bounds of a range whose numbers are not too long are clean exactly if the identifiers in it
are strict; and an ASCII version text is clean exactly if it is read behind an operator, or alone,
and its identifiers are strict. -/
theorem bounds_clean_iff [VersionLibrary] {isDigit : Char → Bool}
    [LawfulVersionLibrary isDigit] (s : String) (r : Range) (op? : Option Operator) (t : String) :
    (parse s = .ok r →
      (∀ operand ∈ operands s, ∀ ds ∈ operand.2.digits, ds.length < Numeral.digitLimit) →
        ((∀ cs ∈ r, ∀ c ∈ cs, c.bound.IsClean) ↔ HasStrictIdentifiers s)) ∧
    (IsComplete t →
      ((Version.clean? t).isSome = true ↔
        (∃ r, parse (lead op? ++ t) = .ok r) ∧ HasStrictIdentifiers (lead op? ++ t))) := by
  constructor
  · intro read short
    exact forall_isClean_iff read short
  · intro complete
    exact complete.isSome_clean?_iff op?

theorem bounds_clean_iff_partial :
    (parse ">=1.2 <2.0.0-rc.1 || ~0.3.4-0a+x" =
        .ok [[⟨.atLeast, .release 1 2 0⟩, ⟨.below, ⟨2, 0, 0, [['r', 'c'], ['1']]⟩⟩],
          [⟨.atLeast, ⟨0, 3, 4, [['0', 'a']]⟩⟩, ⟨.below, .floor 0 4 0⟩]] ∧
      (∀ operand ∈ operands ">=1.2 <2.0.0-rc.1 || ~0.3.4-0a+x", ∀ ds ∈ operand.2.digits,
        ds.length < Numeral.digitLimit) ∧
      ((∀ cs ∈ [[⟨.atLeast, .release 1 2 0⟩, ⟨.below, ⟨2, 0, 0, [['r', 'c'], ['1']]⟩⟩],
            [⟨.atLeast, ⟨0, 3, 4, [['0', 'a']]⟩⟩, ⟨.below, .floor 0 4 0⟩]],
          ∀ c ∈ cs, Version.IsClean (Comparator.bound c)) ↔
        HasStrictIdentifiers ">=1.2 <2.0.0-rc.1 || ~0.3.4-0a+x")) ∧
    IsComplete "0.10.2-x-1.0+007" ∧
    ((Version.clean? "0.10.2-x-1.0+007").isSome = true ↔
      (∃ r, parse (lead (some .caret) ++ "0.10.2-x-1.0+007") = .ok r) ∧
        HasStrictIdentifiers (lead (some .caret) ++ "0.10.2-x-1.0+007")) := by
  have read : parse ">=1.2 <2.0.0-rc.1 || ~0.3.4-0a+x" =
      .ok [[⟨.atLeast, .release 1 2 0⟩, ⟨.below, ⟨2, 0, 0, [['r', 'c'], ['1']]⟩⟩],
        [⟨.atLeast, ⟨0, 3, 4, [['0', 'a']]⟩⟩, ⟨.below, .floor 0 4 0⟩]] := by decide +kernel
  have short : ∀ operand ∈ operands ">=1.2 <2.0.0-rc.1 || ~0.3.4-0a+x", ∀ ds ∈ operand.2.digits,
      ds.length < Numeral.digitLimit := by decide +kernel
  have chars : "0.10.2-x-1.0+007".toList.all
      (fun c => decide (c.toNat < 128) && !isSeparator c) = true := by decide +kernel
  have complete : IsComplete "0.10.2-x-1.0+007" := by
    refine ⟨?_, ⟨['0'], ['1', '0'], ['2'], "-x-1.0+007".toList, by simp, by decide +kernel⟩,
      ?_, by decide +kernel⟩
    · intro c hc
      exact of_decide_eq_true (Bool.and_eq_true_iff.mp (List.all_eq_true.mp chars c hc)).1
    · intro c hc
      simpa using (Bool.and_eq_true_iff.mp (List.all_eq_true.mp chars c hc)).2
  obtain ⟨bounds, versions⟩ := bounds_clean_iff ">=1.2 <2.0.0-rc.1 || ~0.3.4-0a+x" _ (some .caret)
    "0.10.2-x-1.0+007"
  exact ⟨⟨read, short, bounds read short⟩, complete, versions complete⟩

/-- An identifier with a leading zero passes, and its bound is no version. -/
theorem bound_of_leading_zero :
    parse "=1.2.3-01" = .ok [[⟨.equal, ⟨1, 2, 3, [['0', '1']]⟩⟩]] ∧
    ¬ Version.IsClean ⟨1, 2, 3, [['0', '1']]⟩ ∧
    Version.clean? "1.2.3-01" = none := by
  refine ⟨by decide +kernel, ?_, by decide +kernel⟩
  rintro ⟨-, clean⟩
  revert clean
  decide +kernel

end Range

end EnvDoctor
