import EnvDoctor.Proofs.Numeral.Canonical
import EnvDoctor.Proofs.Text.Pieces
import EnvDoctor.Version.Grammar
import Mathlib.Data.List.TakeWhile

/-!
# The written form of versions

What is spelled as a version is well-formed: its numbers are short enough to be written and its
identifiers follow the strict grammar. The written form of such a version is made of numbers and
identifiers that every grammar of versions takes whole. All this holds for any class of digits; on
ASCII texts all classes agree.
-/

namespace EnvDoctor.Version

/-- Digits of the ASCII range, and perhaps some of other scripts. -/
structure IsDigitClass (isDigit : Char → Bool) : Prop where
  ascii : ∀ {c : Char}, c.isDigit = true → isDigit c = true
  decimal : ∀ {c : Char}, isDigit c = true → Text.isDigit c = true

theorem isDigitClass_ascii : IsDigitClass Char.isDigit where
  ascii digit := digit
  decimal := Text.isDigit_of_isDigit

theorem isDigitClass_decimal : IsDigitClass Text.isDigit where
  ascii := Text.isDigit_of_isDigit
  decimal digit := digit

theorem IsDigitClass.eq_of_ascii {isDigit : Char → Bool} (digits : IsDigitClass isDigit) {c : Char}
    (ascii : c.toNat < 128) : isDigit c = c.isDigit := by
  cases digit : c.isDigit with
  | true => exact digits.ascii digit
  | false =>
    rw [Bool.eq_false_iff]
    intro other
    have decimal := digits.decimal other
    rw [Text.isDigit_eq_of_ascii ascii, digit] at decimal
    cases decimal

/-- Identifiers as the grammar of versions has them: none of digits alone has a leading zero. -/
def AllStrict (isDigit : Char → Bool) (ids : List (List Char)) : Prop :=
  ∀ id ∈ ids, isStrictIdentifier isDigit id = true

/-- What holds of all versions that are read from a text. -/
structure WellFormed (isDigit : Char → Bool) (v : Version) : Prop where
  short : ∀ n ∈ v.numbers, (Text.decimalDigits n).length ≤ Numeral.digitLimit
  strict : AllStrict isDigit v.pre

def writtenTail (pre : List (List Char)) : List Char :=
  if pre.isEmpty then [] else '-' :: Text.joinWith ['.'] pre

theorem written_eq (v : Version) :
    v.written = Text.decimalDigits v.major ++ '.' :: (Text.decimalDigits v.minor ++
      '.' :: (Text.decimalDigits v.patch ++ writtenTail v.pre)) := by
  cases h : v.pre.isEmpty <;> simp [written, writtenTail, numbers, Text.joinWith, h]

theorem written_eq_digit_cons (v : Version) : ∃ d rest, v.written = d :: rest ∧ d.isDigit = true := by
  obtain ⟨d, more, digits, digit⟩ := Text.exists_decimalDigits_eq_cons v.major
  rw [written_eq, digits]
  exact ⟨d, _, rfl, digit⟩

section Identifiers

variable {isDigit : Char → Bool} {id : List Char}

theorem char_of_isStrictIdentifier (strict : isStrictIdentifier isDigit id = true) {c : Char}
    (hc : c ∈ id) : isIdentifierChar c = true ∨ isDigit c = true := by
  rw [← List.takeWhile_append_dropWhile (p := isDigit) (l := id), List.mem_append] at hc
  rcases hc with hc | hc
  · exact .inr (List.mem_takeWhile_imp hc)
  · unfold isStrictIdentifier at strict
    split at strict
    next none =>
      rw [none] at hc
      cases hc
    next => exact .inl (List.all_eq_true.mp strict c hc)

theorem ne_nil_of_isStrictIdentifier (strict : isStrictIdentifier isDigit id = true) : id ≠ [] := by
  rintro rfl
  exact absurd strict (by simp [isStrictIdentifier])

theorem isIdentifierChar_of_isDigit {c : Char} (h : c.isDigit = true) :
    isIdentifierChar c = true := by
  simp [isIdentifierChar, Char.isAlphanum, h]

theorem isIdentifier_of_isStrictIdentifier (strict : isStrictIdentifier Char.isDigit id = true) :
    isIdentifier id = true := by
  have chars : ∀ c ∈ id, isIdentifierChar c = true := fun c hc =>
    (char_of_isStrictIdentifier strict hc).elim (fun h => h) isIdentifierChar_of_isDigit
  simpa [isIdentifier, ne_nil_of_isStrictIdentifier strict] using chars

theorem isIdentifierChar_of_mem (h : isIdentifier id = true) {c : Char} (hc : c ∈ id) :
    isIdentifierChar c = true := by
  simp only [isIdentifier, Bool.and_eq_true, List.all_eq_true] at h
  exact h.2 c hc

theorem toNat_of_isIdentifierChar {c : Char} (h : isIdentifierChar c = true) :
    45 ≤ c.toNat ∧ c.toNat ≤ 122 := by
  have between {first last : Char} (begins : 45 ≤ first.toNat) (ends : last.toNat ≤ 122)
      (low : first.val ≤ c.val) (high : c.val ≤ last.val) : 45 ≤ c.toNat ∧ c.toNat ≤ 122 :=
    ⟨begins.trans (UInt32.le_iff_toNat_le.mp low), (UInt32.le_iff_toNat_le.mp high).trans ends⟩
  have alternatives : ((c.isUpper || c.isLower) || c.isDigit || c == '-') = true := h
  simp only [Bool.or_eq_true, beq_iff_eq] at alternatives
  rcases alternatives with ((upper | lower) | digit) | rfl
  · obtain ⟨low, high⟩ : 'A'.val ≤ c.val ∧ c.val ≤ 'Z'.val := of_decide_eq_true upper
    exact between (by decide) (by decide) low high
  · obtain ⟨low, high⟩ := Bool.and_eq_true_iff.mp lower
    exact between (by decide) (by decide) (of_decide_eq_true low) (of_decide_eq_true high)
  · obtain ⟨low, high⟩ := Bool.and_eq_true_iff.mp digit
    exact between (by decide) (by decide) (of_decide_eq_true low) (of_decide_eq_true high)
  · decide

/-- A character of an identifier in a class of digits. -/
theorem ne_of_identifier_or_digit (digits : IsDigitClass isDigit) {c : Char}
    (h : isIdentifierChar c = true ∨ isDigit c = true) : c ≠ '.' ∧ c ≠ '+' := by
  have decimal := h.imp_right digits.decimal
  constructor <;> rintro rfl <;> exact absurd decimal (by decide)

theorem ne_of_isIdentifierChar {c : Char} (h : isIdentifierChar c = true) : c ≠ '.' ∧ c ≠ '+' :=
  ne_of_identifier_or_digit isDigitClass_ascii (.inl h)

/-- On ASCII identifiers all classes of digits agree. -/
theorem isStrictIdentifier_of_ascii (digits : IsDigitClass isDigit)
    (ascii : ∀ c ∈ id, c.toNat < 128) :
    isStrictIdentifier isDigit id = isStrictIdentifier Char.isDigit id := by
  unfold isStrictIdentifier
  rw [(Text.takeWhile_congr fun c hc => digits.eq_of_ascii (ascii c hc)).2]

end Identifiers

/-- The digits in front of a number without leading zeros are taken whole. -/
theorem takeNumber?_append {p : Char → Bool} {ds rest : List Char}
    (canonical : Text.IsCanonical ds) (digits : ∀ d : Char, d.isDigit = true → p d = true)
    (stops : ∀ c ∈ rest.head?, p c = false) : takeNumber? p (ds ++ rest) = some (ds, rest) := by
  cases ds with
  | nil => exact absurd rfl canonical.nonempty
  | cons d more =>
    have first := canonical.digits d (by simp)
    have run : ∀ c ∈ more, p c = true := fun c hc => digits c (canonical.digits c (by simp [hc]))
    have taken := Text.takeWhile_append_of_stops run stops
    rw [List.cons_append]
    unfold takeNumber?
    split
    next tail heq =>
      obtain ⟨rfl, rfl⟩ := List.cons.inj heq
      cases more with
      | nil => rfl
      | cons e more => exact absurd rfl (canonical.noLeadingZero (by simp))
    next c tail _ heq =>
      obtain ⟨rfl, rfl⟩ := List.cons.inj heq
      simp [first, taken]
    next heq => cases heq

/-- A number is an ASCII digit and, if that is no zero, further digits. -/
theorem exists_digits_of_takeNumber? {p : Char → Bool} {s ds rest : List Char}
    (taken : takeNumber? p s = some (ds, rest)) :
    s = ds ++ rest ∧ ∃ d more, ds = d :: more ∧ d.isDigit = true ∧ (d = '0' → more = []) ∧
      ∀ c ∈ more, p c = true := by
  unfold takeNumber? at taken
  split at taken
  next tail =>
    cases taken
    exact ⟨rfl, '0', [], rfl, by decide, fun _ => rfl, by simp⟩
  next c tail notZero =>
    split at taken
    next first =>
      cases taken
      refine ⟨by simp [List.takeWhile_append_dropWhile], c, _, rfl, first, ?_, ?_⟩
      · exact fun zero => absurd zero notZero
      · exact fun d hd => List.mem_takeWhile_imp hd
    next => cases taken
  next => cases taken

theorem isCanonical_of_takeNumber? {p : Char → Bool} {s ds rest : List Char}
    (taken : takeNumber? p s = some (ds, rest))
    (ascii : ∀ c ∈ s, p c = true → c.isDigit = true) : Text.IsCanonical ds ∧ s = ds ++ rest := by
  obtain ⟨whole, d, more, rfl, first, alone, digits⟩ := exists_digits_of_takeNumber? taken
  have inside : ∀ c ∈ more, c ∈ s := by
    intro c hc
    rw [whole]
    exact List.mem_append_left _ (List.mem_cons_of_mem d hc)
  refine ⟨⟨by simp, List.forall_mem_cons.mpr ⟨first, ?_⟩, ?_⟩, whole⟩
  · intro c hc
    exact ascii c (inside c hc) (digits c hc)
  · intro long zero
    obtain rfl : d = '0' := Option.some.inj zero
    simp [alone rfl] at long

theorem exists_digits_of_number? {p : Char → Bool} {s rest : List Char} {n : Nat}
    (taken : number? p s = some (n, rest)) :
    ∃ ds, takeNumber? p s = some (ds, rest) ∧ Numeral.read ds = .ok n := by
  simp only [number?, Option.bind_eq_bind, Option.bind_eq_some_iff, Prod.exists] at taken
  obtain ⟨ds, rest', digits, m, value, same⟩ := taken
  cases same
  refine ⟨ds, digits, ?_⟩
  cases read : Numeral.read ds with
  | error fault => simp [read, Except.toOption] at value
  | ok k =>
    simp only [read, Except.toOption, Option.some.injEq] at value
    rw [value]

theorem length_decimalDigits_of_number? {p : Char → Bool} {s rest : List Char} {n : Nat}
    (taken : number? p s = some (n, rest)) :
    (Text.decimalDigits n).length ≤ Numeral.digitLimit := by
  obtain ⟨ds, digits, value⟩ := exists_digits_of_number? taken
  obtain ⟨-, d, more, rfl, -⟩ := exists_digits_of_takeNumber? digits
  obtain ⟨short, rfl⟩ := Numeral.length_le_of_read value
  exact (Text.length_decimalDigits_digitsValue_le (List.cons_ne_nil d more)).trans short

theorem number?_eq_some {s rest : List Char} {n : Nat}
    (taken : number? Char.isDigit s = some (n, rest)) : s = Text.decimalDigits n ++ rest := by
  obtain ⟨ds, digits, value⟩ := exists_digits_of_number? taken
  obtain ⟨canonical, rfl⟩ := isCanonical_of_takeNumber? digits fun _ _ h => h
  obtain ⟨-, rfl⟩ := Numeral.length_le_of_read value
  rw [canonical.decimalDigits_digitsValue]

theorem identifiers?_eq_some {valid : List Char → Bool} {s : List Char} {ids : List (List Char)}
    (read : identifiers? valid s = some ids) : ∀ id ∈ ids, valid id = true := by
  simp only [identifiers?] at read
  split at read
  next all =>
    cases read
    exact List.all_eq_true.mp all
  next => cases read

theorem tail?_eq_some {valid : List Char → Bool} {s : List Char} {pre : List (List Char)}
    (read : tail? valid s = some pre) : ∀ id ∈ pre, valid id = true := by
  unfold tail? at read
  split at read
  next rest =>
    simp only at read
    split at read
    next => exact identifiers?_eq_some read
    next => cases read
  next =>
    split at read
    next =>
      cases read
      simp
    next => cases read

theorem head?_of_isBuild {s : List Char} (build : isBuild s = true) : ∀ c ∈ s.head?, c = '+' := by
  intro c hc
  cases s with
  | nil => cases hc
  | cons d rest =>
    obtain rfl : d = c := Option.some.inj hc
    by_contra other
    simp [isBuild, other] at build

/-- A written prerelease is read back under exactly the tests that its identifiers pass, whatever
build metadata stands behind it. -/
theorem tail?_writtenTail_append_eq {valid : List Char → Bool} {pre : List (List Char)}
    {build : List Char} (uncut : ∀ id ∈ pre, ∀ c ∈ id, c ≠ '.' ∧ c ≠ '+')
    (metadata : isBuild build = true) :
    tail? valid (writtenTail pre ++ build) = if pre.all valid then some pre else none := by
  by_cases empty : pre = []
  · subst empty
    change tail? valid build = some []
    unfold tail?
    split
    next rest => cases metadata
    next => rw [if_pos metadata]
  · have chars : ∀ c ∈ Text.joinWith ['.'] pre, (c != '+') = true := by
      intro c hc
      rw [bne_iff_ne]
      rcases Text.mem_joinWith hc with hc | ⟨id, hid, hc⟩
      · rw [List.mem_singleton.mp hc]
        decide
      · exact (uncut id hid c hc).2
    have stops : ∀ c ∈ build.head?, (c != '+') = false := by
      intro c hc
      rw [head?_of_isBuild metadata c hc]
      rfl
    have pieces : Text.splitOn '.' (Text.joinWith ['.'] pre) = pre := by
      apply Text.splitOn_joinWith empty
      intro id hid point
      exact (uncut id hid _ point).1 rfl
    have taken := Text.takeWhile_append_of_stops chars stops
    simp [tail?, writtenTail, empty, taken, metadata, identifiers?, pieces]

theorem tail?_writtenTail_append {valid : List Char → Bool} {pre : List (List Char)}
    {build : List Char} (uncut : ∀ id ∈ pre, ∀ c ∈ id, c ≠ '.' ∧ c ≠ '+')
    (passes : ∀ id ∈ pre, valid id = true) (metadata : isBuild build = true) :
    tail? valid (writtenTail pre ++ build) = some pre := by
  rw [tail?_writtenTail_append_eq uncut metadata, if_pos (List.all_eq_true.mpr passes)]

theorem tail?_writtenTail {valid : List Char → Bool} {pre : List (List Char)}
    (plain : ∀ id ∈ pre, isIdentifier id = true) (passes : ∀ id ∈ pre, valid id = true) :
    tail? valid (writtenTail pre) = some pre := by
  have read := tail?_writtenTail_append
    (fun id hid _ hc => ne_of_isIdentifierChar (isIdentifierChar_of_mem (plain id hid) hc)) passes
    (rfl : isBuild [] = true)
  rwa [List.append_nil] at read

theorem tail?_imp {valid weaker : List Char → Bool}
    (implies : ∀ id, valid id = true → weaker id = true) {s : List Char} {pre : List (List Char)}
    (read : tail? valid s = some pre) : tail? weaker s = some pre := by
  unfold tail? at read ⊢
  split at read
  next rest =>
    simp only [identifiers?] at read ⊢
    split at read
    next build =>
      rw [if_pos build]
      split at read
      next all =>
        rw [if_pos (List.all_eq_true.mpr fun id hid => implies id (List.all_eq_true.mp all id hid))]
        exact read
      next => cases read
    next => cases read
  next => exact read

/-- A tail is read under a stricter test if its identifiers pass it. -/
theorem tail?_of_passes {valid weaker : List Char → Bool} {s : List Char} {pre : List (List Char)}
    (read : tail? weaker s = some pre) (passes : ∀ id ∈ pre, valid id = true) :
    tail? valid s = some pre := by
  unfold tail? at read ⊢
  split at read
  next rest =>
    simp only [identifiers?] at read ⊢
    split at read
    next build =>
      rw [if_pos build]
      split at read
      next all =>
        cases read
        rw [if_pos (List.all_eq_true.mpr passes)]
      next => cases read
    next => cases read
  next => exact read

theorem head?_of_tail?_eq_some {valid : List Char → Bool} {s : List Char} {pre : List (List Char)}
    (read : tail? valid s = some pre) : ∀ c ∈ s.head?, c = '-' ∨ c = '+' := by
  intro c hc
  cases s with
  | nil => cases hc
  | cons d rest =>
    obtain rfl : d = c := Option.some.inj hc
    by_contra other
    rw [not_or] at other
    simp [tail?, isBuild, other] at read

section Characters

variable {P : Char → Prop}

/-- Dotted identifiers hold points and the characters of identifiers alone. -/
theorem char_of_identifiers? {valid : List Char → Bool}
    (parts : ∀ id, valid id = true → ∀ c ∈ id, P c) {s : List Char} {ids : List (List Char)}
    (read : identifiers? valid s = some ids) {c : Char} (hc : c ∈ s) : P c ∨ c = '.' := by
  simp only [identifiers?] at read
  split at read
  next all =>
    rcases Text.separator_or_mem_piece (p := (· == '.')) hc with point | ⟨id, hid, inside⟩
    · exact .inr (beq_iff_eq.mp point)
    · exact .inl (parts id (List.all_eq_true.mp all id hid) c inside)
  next => cases read

variable (plain : ∀ c, isIdentifierChar c = true → P c)

include plain

theorem char_of_isBuild {s : List Char} (build : isBuild s = true) {c : Char} (hc : c ∈ s) :
    P c ∨ c = '.' ∨ c = '+' := by
  unfold isBuild at build
  split at build
  next => cases hc
  next rest =>
    obtain ⟨ids, read⟩ := Option.isSome_iff_exists.mp build
    rcases List.mem_cons.mp hc with rfl | hc
    · exact .inr (.inr rfl)
    · have parts : ∀ id, isIdentifier id = true → ∀ c ∈ id, P c :=
        fun id hid c hc => plain c (isIdentifierChar_of_mem hid hc)
      exact (char_of_identifiers? parts read hc).imp_right .inl
  next => cases build

variable {valid : List Char → Bool} (parts : ∀ id, valid id = true → ∀ c ∈ id, P c)

include parts

/-- The tail of a version has hyphens, points, plus signs and the characters of its identifiers
alone. -/
theorem char_of_tail? {s : List Char} {pre : List (List Char)}
    (read : tail? valid s = some pre) {c : Char} (hc : c ∈ s) : P c ∨ c = '.' ∨ c = '+' := by
  unfold tail? at read
  split at read
  next rest =>
    simp only at read
    split at read
    next build =>
      rcases List.mem_cons.mp hc with rfl | hc
      · exact .inl (plain _ (by decide))
      · rw [← List.takeWhile_append_dropWhile (p := (· != '+')) (l := rest), List.mem_append] at hc
        rcases hc with hc | hc
        · exact (char_of_identifiers? parts read hc).imp_right .inl
        · exact char_of_isBuild plain build hc
    next => cases read
  next =>
    split at read
    next build => exact char_of_isBuild plain build hc
    next => cases read

/-- Three numbers and a tail have nothing else but what the tail has. -/
theorem char_of_numbers (v : Version) {tail : List Char} {pre : List (List Char)}
    (read : tail? valid tail = some pre) {c : Char}
    (hc : c ∈ Text.decimalDigits v.major ++ '.' :: (Text.decimalDigits v.minor ++
      '.' :: (Text.decimalDigits v.patch ++ tail))) : P c ∨ c = '.' ∨ c = '+' := by
  have digit : ∀ n, c ∈ Text.decimalDigits n → P c ∨ c = '.' ∨ c = '+' := fun n h =>
    .inl (plain c (isIdentifierChar_of_isDigit (Text.isDigit_of_mem_decimalDigits h)))
  simp only [List.mem_append, List.mem_cons] at hc
  rcases hc with hc | hc | hc | hc | hc | hc
  · exact digit _ hc
  · exact .inr (.inl hc)
  · exact digit _ hc
  · exact .inr (.inl hc)
  · exact digit _ hc
  · exact char_of_tail? plain parts read hc

end Characters

section Plain

variable {v : Version} (plain : ∀ id ∈ v.pre, isIdentifier id = true)

include plain

/-- The written form of a version with plain identifiers has plain characters alone. -/
theorem char_of_written {c : Char} (hc : c ∈ v.written) :
    isIdentifierChar c = true ∨ c = '.' ∨ c = '+' := by
  have parts (id : List Char) (valid : isIdentifier id = true) :
      ∀ c ∈ id, isIdentifierChar c = true := fun _ => isIdentifierChar_of_mem valid
  rw [written_eq] at hc
  exact char_of_numbers (fun _ plain => plain) parts v (tail?_writtenTail plain plain) hc

theorem toNat_lt_of_mem_written : ∀ c ∈ v.written, c.toNat < 128 := by
  intro c hc
  rcases char_of_written plain hc with identifier | rfl | rfl
  · exact (toNat_of_isIdentifierChar identifier).2.trans_lt (by decide)
  · decide
  · decide

end Plain

theorem skip?_eq_some_iff {c : Char} {s rest : List Char} :
    skip? c s = some rest ↔ s = c :: rest := by
  cases s with
  | nil => simp [skip?]
  | cons d s => by_cases h : d = c <;> simp [skip?, h]

section Digits

variable {isDigit : Char → Bool}

/-- What is read as a version is three numbers with points between them and a tail. -/
theorem ofChars?_eq_some_iff_numbers {s : List Char} {v : Version} :
    ofChars? isDigit s = some v ↔ ∃ s₂ s₃ tail,
      number? isDigit s = some (v.major, '.' :: s₂) ∧
      number? isDigit s₂ = some (v.minor, '.' :: s₃) ∧
      number? isDigit s₃ = some (v.patch, tail) ∧
      tail? (isStrictIdentifier isDigit) tail = some v.pre := by
  simp only [ofChars?, Option.bind_eq_bind, Option.bind_eq_some_iff, Prod.exists,
    skip?_eq_some_iff]
  constructor
  · rintro ⟨major, _, first, s₂, rfl, minor, _, second, s₃, rfl, patch, tail, third, pre, rest,
      same⟩
    cases same
    exact ⟨s₂, s₃, tail, first, second, third, rest⟩
  · rintro ⟨s₂, s₃, tail, first, second, third, rest⟩
    exact ⟨_, _, first, s₂, rfl, _, _, second, s₃, rfl, _, tail, third, _, rest, rfl⟩

theorem wellFormed_of_ofChars? {s : List Char} {v : Version}
    (read : ofChars? isDigit s = some v) : v.WellFormed isDigit := by
  obtain ⟨s₂, s₃, tail, first, second, third, rest⟩ := ofChars?_eq_some_iff_numbers.mp read
  refine ⟨?_, tail?_eq_some rest⟩
  intro n hn
  simp only [numbers, List.mem_cons, List.not_mem_nil, or_false] at hn
  rcases hn with rfl | rfl | rfl
  · exact length_decimalDigits_of_number? first
  · exact length_decimalDigits_of_number? second
  · exact length_decimalDigits_of_number? third

/-- What is read as a version begins with a digit. -/
theorem exists_digit_of_ofChars? {s : List Char} {v : Version}
    (read : ofChars? isDigit s = some v) : ∃ d rest, s = d :: rest ∧ d.isDigit = true := by
  obtain ⟨s₂, s₃, tail, first, -⟩ := ofChars?_eq_some_iff_numbers.mp read
  obtain ⟨ds, taken, -⟩ := exists_digits_of_number? first
  obtain ⟨whole, d, more, rfl, digit, -⟩ := exists_digits_of_takeNumber? taken
  exact ⟨d, _, whole, digit⟩

theorem char_of_number? {s rest : List Char} {n : Nat}
    (taken : number? isDigit s = some (n, rest)) {c : Char} (hc : c ∈ s) :
    (isIdentifierChar c = true ∨ isDigit c = true) ∨ c ∈ rest := by
  obtain ⟨ds, taken, -⟩ := exists_digits_of_number? taken
  obtain ⟨rfl, d, more, rfl, digit, -, digits⟩ := exists_digits_of_takeNumber? taken
  rcases List.mem_append.mp hc with hc | hc
  · rcases List.mem_cons.mp hc with rfl | hc
    · exact .inl (.inl (isIdentifierChar_of_isDigit digit))
    · exact .inl (.inr (digits c hc))
  · exact .inr hc

/-- What is read as a version has letters, digits, hyphens, points and plus signs alone. -/
theorem char_of_ofChars? {s : List Char} {v : Version} (read : ofChars? isDigit s = some v)
    {c : Char} (hc : c ∈ s) :
    (isIdentifierChar c = true ∨ isDigit c = true) ∨ c = '.' ∨ c = '+' := by
  obtain ⟨s₂, s₃, tail, first, second, third, rest⟩ := ofChars?_eq_some_iff_numbers.mp read
  have inTail (hc : c ∈ tail) := char_of_tail?
    (P := fun c => isIdentifierChar c = true ∨ isDigit c = true) (fun _ => .inl)
    (fun _ strict _ => char_of_isStrictIdentifier strict) rest hc
  have inThird (hc : c ∈ s₃) := (char_of_number? third hc).elim .inl inTail
  have inSecond (hc : c ∈ s₂) := (char_of_number? second hc).elim .inl fun hc =>
    (List.mem_cons.mp hc).elim (fun point => .inr (.inl point)) inThird
  exact (char_of_number? first hc).elim .inl fun hc =>
    (List.mem_cons.mp hc).elim (fun point => .inr (.inl point)) inSecond

section Class

variable (digits : IsDigitClass isDigit)

include digits

theorem number?_append {n : Nat} (short : (Text.decimalDigits n).length ≤ Numeral.digitLimit)
    {rest : List Char} (stops : ∀ c ∈ rest.head?, isDigit c = false) :
    number? isDigit (Text.decimalDigits n ++ rest) = some (n, rest) := by
  have taken := takeNumber?_append (Text.isCanonical_decimalDigits n) (fun _ => digits.ascii) stops
  rw [number?, taken]
  simp [Numeral.read_decimalDigits short, Except.toOption]

theorem ofChars?_of_tail? {v : Version} {tail : List Char}
    (short : ∀ n ∈ v.numbers, (Text.decimalDigits n).length ≤ Numeral.digitLimit)
    (read : tail? (isStrictIdentifier isDigit) tail = some v.pre) :
    ofChars? isDigit (Text.decimalDigits v.major ++ '.' :: (Text.decimalDigits v.minor ++
      '.' :: (Text.decimalDigits v.patch ++ tail))) = some v := by
  have other {c : Char} (ascii : c.toNat < 128) (none : c.isDigit = false) : isDigit c = false := by
    rw [digits.eq_of_ascii ascii, none]
  have beforePoint (n : Nat) (hn : n ∈ v.numbers) (rest : List Char) :
      number? isDigit (Text.decimalDigits n ++ '.' :: rest) = some (n, '.' :: rest) := by
    refine number?_append digits (short n hn) fun c hc => ?_
    rw [← Option.some.inj hc]
    exact other (by decide) (by decide)
  have beforeTail : number? isDigit (Text.decimalDigits v.patch ++ tail) = some (v.patch, tail) := by
    refine number?_append digits (short v.patch (by simp [numbers])) fun c hc => ?_
    rcases head?_of_tail?_eq_some read c hc with rfl | rfl <;> exact other (by decide) (by decide)
  exact ofChars?_eq_some_iff_numbers.mpr ⟨_, _, tail, beforePoint v.major (by simp [numbers]) _,
    beforePoint v.minor (by simp [numbers]) _, beforeTail, read⟩

namespace WellFormed

variable {v : Version} (wf : v.WellFormed isDigit)

include wf

theorem ofChars?_written_append {build : List Char} (metadata : isBuild build = true) :
    ofChars? isDigit (v.written ++ build) = some v := by
  have uncut : ∀ id ∈ v.pre, ∀ c ∈ id, c ≠ '.' ∧ c ≠ '+' := fun id hid _ hc =>
    ne_of_identifier_or_digit digits (char_of_isStrictIdentifier (wf.strict id hid) hc)
  have read := ofChars?_of_tail? digits wf.short
    (tail?_writtenTail_append uncut wf.strict metadata)
  simpa [written_eq] using read

theorem ofChars?_written : ofChars? isDigit v.written = some v := by
  have read := wf.ofChars?_written_append digits (rfl : isBuild [] = true)
  rwa [List.append_nil] at read

end WellFormed

/-- On ASCII texts all classes of digits agree. -/
theorem takeNumber?_of_ascii {s : List Char} (ascii : ∀ c ∈ s, c.toNat < 128) :
    takeNumber? isDigit s = takeNumber? Char.isDigit s := by
  cases s with
  | nil => rfl
  | cons c rest =>
    have same := Text.takeWhile_congr fun d hd =>
      digits.eq_of_ascii (ascii d (List.mem_cons_of_mem c hd))
    unfold takeNumber?
    split
    next => rfl
    next heq =>
      obtain ⟨rfl, rfl⟩ := List.cons.inj heq
      rw [same.1, same.2]
    next => rfl

theorem identifiers?_of_ascii {s : List Char} (ascii : ∀ c ∈ s, c.toNat < 128) :
    identifiers? (isStrictIdentifier isDigit) s =
      identifiers? (isStrictIdentifier Char.isDigit) s := by
  have same : (Text.splitOn '.' s).all (isStrictIdentifier isDigit) =
      (Text.splitOn '.' s).all (isStrictIdentifier Char.isDigit) := by
    rw [Bool.eq_iff_iff, List.all_eq_true, List.all_eq_true]
    refine forall₂_congr fun id hid => ?_
    rw [isStrictIdentifier_of_ascii digits fun c hc => ascii c (Text.mem_of_mem_splitOn hid hc)]
  rw [identifiers?, identifiers?, same]

theorem tail?_of_ascii {s : List Char} (ascii : ∀ c ∈ s, c.toNat < 128) :
    tail? (isStrictIdentifier isDigit) s = tail? (isStrictIdentifier Char.isDigit) s := by
  unfold tail?
  split
  next rest =>
    have inside : ∀ c ∈ rest.takeWhile (· != '+'), c.toNat < 128 := fun c hc =>
      ascii c (List.mem_cons_of_mem _ ((List.takeWhile_sublist _).mem hc))
    dsimp only
    rw [identifiers?_of_ascii digits inside]
  next => rfl

theorem ofChars?_of_ascii {s : List Char} (ascii : ∀ c ∈ s, c.toNat < 128) :
    ofChars? isDigit s = ofChars? Char.isDigit s := by
  have number {s : List Char} (ascii : ∀ c ∈ s, c.toNat < 128) :
      number? isDigit s = number? Char.isDigit s := by
    rw [number?, number?, takeNumber?_of_ascii digits ascii]
  have rest {s : List Char} {n : Nat} {t : List Char} (ascii : ∀ c ∈ s, c.toNat < 128)
      (taken : number? Char.isDigit s = some (n, t)) : ∀ c ∈ t, c.toNat < 128 := by
    obtain rfl := number?_eq_some taken
    exact fun c hc => ascii c (List.mem_append_right _ hc)
  have tail {s t : List Char} (ascii : ∀ c ∈ s, c.toNat < 128) (cut : skip? '.' s = some t) :
      ∀ c ∈ t, c.toNat < 128 := by
    obtain rfl := skip?_eq_some_iff.mp cut
    exact fun c hc => ascii c (List.mem_cons_of_mem _ hc)
  unfold ofChars?
  rw [number ascii]
  refine Option.bind_congr fun ⟨major, t₁⟩ first => ?_
  have ascii := rest ascii first
  refine Option.bind_congr fun s₂ cut => ?_
  have ascii := tail ascii cut
  dsimp only
  rw [number ascii]
  refine Option.bind_congr fun ⟨minor, t₂⟩ second => ?_
  have ascii := rest ascii second
  refine Option.bind_congr fun s₃ cut => ?_
  have ascii := tail ascii cut
  dsimp only
  rw [number ascii]
  refine Option.bind_congr fun ⟨patch, t₃⟩ third => ?_
  dsimp only
  rw [tail?_of_ascii digits (rest ascii third)]

end Class

end Digits

/-- What is read as a version in ASCII digits is its numbers, which are short enough to be written,
and a tail. -/
theorem ofChars?_eq_some_iff {s : List Char} {v : Version} :
    ofChars? Char.isDigit s = some v ↔
      (∀ n ∈ v.numbers, (Text.decimalDigits n).length ≤ Numeral.digitLimit) ∧
        ∃ tail, tail? (isStrictIdentifier Char.isDigit) tail = some v.pre ∧
          s = Text.decimalDigits v.major ++ '.' :: (Text.decimalDigits v.minor ++
            '.' :: (Text.decimalDigits v.patch ++ tail)) := by
  constructor
  · intro read
    refine ⟨(wellFormed_of_ofChars? read).short, ?_⟩
    obtain ⟨s₂, s₃, tail, first, second, third, rest⟩ := ofChars?_eq_some_iff_numbers.mp read
    obtain rfl := number?_eq_some first
    obtain rfl := number?_eq_some second
    obtain rfl := number?_eq_some third
    exact ⟨tail, rest, rfl⟩
  · rintro ⟨short, tail, read, rfl⟩
    exact ofChars?_of_tail? isDigitClass_ascii short read

theorem WellFormed.isIdentifier {v : Version} (wf : v.WellFormed Char.isDigit) :
    ∀ id ∈ v.pre, isIdentifier id = true :=
  fun id hid => isIdentifier_of_isStrictIdentifier (wf.strict id hid)

end EnvDoctor.Version
