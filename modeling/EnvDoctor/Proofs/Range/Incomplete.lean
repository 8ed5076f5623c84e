import EnvDoctor.Proofs.Range.Tested
import EnvDoctor.Proofs.Version.Canonical

/-!
# What operators mean beside an incomplete version

An incomplete version is compared with as many numbers of a version as it has itself. Upper ends
leave out the prereleases of the release where a series begins or the next one does, so those
prereleases are the only versions that are neither below a series, nor in it, nor above it.
-/

namespace EnvDoctor

namespace PartialVersion

/-- The given numbers, the last of them increased by one. -/
def increased : PartialVersion → List ℕ
  | major a => [a + 1]
  | minor a b => [a, b + 1]
  | full v => [v.major, v.minor, v.patch + 1]

/-- How many of the given numbers a caret keeps: those up to the leftmost one that is not zero. -/
def span (p : PartialVersion) : ℕ :=
  (p.given.takeWhile (· == 0)).length + 1

def written (p : PartialVersion) : List Char :=
  Text.joinWith ['.'] (p.given.map Text.decimalDigits)

end PartialVersion

namespace Version

/-- The release with some numbers and zeros for those that are left out. -/
def padded (ns : List ℕ) : Version :=
  release (ns.getD 0 0) (ns.getD 1 0) (ns.getD 2 0)

def start (p : PartialVersion) (v : Version) : List ℕ :=
  v.numbers.take p.given.length

def IsPrereleaseOf (v r : Version) : Prop :=
  v.core = r ∧ v.pre ≠ []

theorem release_rank_le_iff (a b c : ℕ) (v : Version) :
    (release a b c).rank ≤ v.rank ↔ a < v.major ∨ a = v.major ∧
      (b < v.minor ∨ b = v.minor ∧ (c < v.patch ∨ c = v.patch ∧ v.pre = [])) := by
  have top : (⊤ : WithTop (List IdentifierRank)) ≤ tailRank v.pre ↔ v.pre = [] := by
    unfold tailRank
    split <;> simp_all
  simp only [rank, release, Prod.Lex.toLex_le_toLex]
  rw [← top]
  rfl

theorem isPrereleaseOf_release_iff (a b c : ℕ) (v : Version) :
    v.IsPrereleaseOf (release a b c) ↔
      v.major = a ∧ v.minor = b ∧ v.patch = c ∧ v.pre ≠ [] := by
  simp [IsPrereleaseOf, core, release, and_assoc]

end Version

/-- The version `v` is one that the operator means beside the incomplete version `p`. The numbers
that are given are compared from left to right. -/
def Operator.MeansSeries (p : PartialVersion) (v : Version) : Operator → Prop
  | .below => v.start p < p.given
  | .atMost => v.start p ≤ p.given
  | .atLeast => (Version.padded p.given).rank ≤ v.rank
  | .above => (Version.padded p.increased).rank ≤ v.rank
  | .equal | .tilde => v.start p = p.given ∧ (Version.padded p.given).rank ≤ v.rank
  | .caret => (Version.padded p.given).rank ≤ v.rank ∧
      (v.start p).take p.span = p.given.take p.span

instance (p : PartialVersion) (v : Version) (op : Operator) : Decidable (op.MeansSeries p v) :=
  match op with
  | .below => inferInstanceAs (Decidable (_ < _))
  | .atMost | .atLeast | .above => inferInstanceAs (Decidable (_ ≤ _))
  | .equal | .tilde | .caret => inferInstanceAs (Decidable (_ ∧ _))

namespace PartialVersion

theorem isInner_of_mem_written (p : PartialVersion) :
    ∀ c ∈ p.written, Range.isInner c = true := by
  intro c hc
  rcases Text.mem_joinWith hc with point | ⟨piece, among, inside⟩
  · rw [List.mem_singleton.mp point]
    decide
  · obtain ⟨n, -, rfl⟩ := List.mem_map.mp among
    apply Range.isInner_of_isIdentifierChar
    exact Version.isIdentifierChar_of_isDigit (Text.isDigit_of_mem_decimalDigits inside)

theorem written_eq_cons (p : PartialVersion) :
    ∃ d rest, p.written = d :: rest ∧ d.isDigit = true := by
  obtain ⟨n, more, numbers⟩ : ∃ n more, p.given = n :: more := by cases p <;> exact ⟨_, _, rfl⟩
  obtain ⟨d, others, digits, digit⟩ := Text.exists_decimalDigits_eq_cons n
  rw [written, numbers, List.map_cons, digits]
  cases more with
  | nil => exact ⟨d, others, rfl, digit⟩
  | cons m more => exact ⟨d, _, rfl, digit⟩

section Shapes

variable (a b : ℕ) (v : Version)

theorem start_major_lt_iff : v.start (major a) < (major a).given ↔ v.major < a := by
  simp [Version.start, given, Version.numbers, List.cons_lt_cons_iff]

theorem lt_start_major_iff : (major a).given < v.start (major a) ↔ a < v.major := by
  simp [Version.start, given, Version.numbers, List.cons_lt_cons_iff]

theorem start_minor_lt_iff :
    v.start (minor a b) < (minor a b).given ↔ v.major < a ∨ v.major = a ∧ v.minor < b := by
  simp [Version.start, given, Version.numbers, List.cons_lt_cons_iff]

theorem lt_start_minor_iff :
    (minor a b).given < v.start (minor a b) ↔ a < v.major ∨ a = v.major ∧ b < v.minor := by
  simp [Version.start, given, Version.numbers, List.cons_lt_cons_iff]

end Shapes

section Incomplete

variable {p : PartialVersion} (incomplete : p.given.length < 3) (v : Version)

include incomplete

theorem cases_of_incomplete : (∃ a, p = major a) ∨ ∃ a b, p = minor a b := by
  cases p with
  | major a => exact .inl ⟨a, rfl⟩
  | minor a b => exact .inr ⟨a, b, rfl⟩
  | full v => simp [given, Version.numbers] at incomplete

theorem lower_eq : p.lower = Version.padded p.given := by
  obtain ⟨a, rfl⟩ | ⟨a, b, rfl⟩ := cases_of_incomplete incomplete <;> rfl

theorem core_next_eq : p.next.core = Version.padded p.increased := by
  obtain ⟨a, rfl⟩ | ⟨a, b, rfl⟩ := cases_of_incomplete incomplete <;> rfl

/-- A version is below the next series if its first numbers are at most the given ones. -/
theorem rank_lt_next_iff : v.rank < p.next.rank ↔ v.start p ≤ p.given := by
  rw [← not_lt]
  obtain ⟨a, rfl⟩ | ⟨a, b, rfl⟩ := cases_of_incomplete incomplete
  · rw [next, Version.rank_lt_floor_iff, lt_start_major_iff]
    omega
  · rw [next, Version.rank_lt_floor_iff, lt_start_minor_iff]
    omega

/-- A version is below all versions of a series if its first numbers are. -/
theorem rank_lt_floor_lower_iff :
    v.rank < (Version.floor p.lower.major p.lower.minor p.lower.patch).rank ↔
      v.start p < p.given := by
  rw [Version.rank_lt_floor_iff]
  obtain ⟨a, rfl⟩ | ⟨a, b, rfl⟩ := cases_of_incomplete incomplete
  · simp [lower, Version.release, start_major_lt_iff]
  · simp [lower, Version.release, start_minor_lt_iff]

theorem given_le_start (low : (Version.padded p.given).rank ≤ v.rank) : p.given ≤ v.start p := by
  rw [← not_lt]
  obtain ⟨a, rfl⟩ | ⟨a, b, rfl⟩ := cases_of_incomplete incomplete
  · have numbers := (Version.release_rank_le_iff a 0 0 v).mp low
    rw [start_major_lt_iff]
    omega
  · have numbers := (Version.release_rank_le_iff a b 0 v).mp low
    rw [start_minor_lt_iff]
    omega

/-- Above the start of a series, the versions below its caret end keep what the caret keeps. -/
theorem rank_lt_caretTop_iff (low : (Version.padded p.given).rank ≤ v.rank) :
    v.rank < p.caretTop.rank ↔ (v.start p).take p.span = p.given.take p.span := by
  obtain ⟨a, rfl⟩ | ⟨a, b, rfl⟩ := cases_of_incomplete incomplete
  · have numbers := (Version.release_rank_le_iff a 0 0 v).mp low
    have kept : (v.start (major a)).take (major a).span = (major a).given.take (major a).span ↔
        v.major = a := by
      by_cases zero : a = 0 <;> simp [span, given, Version.start, Version.numbers, zero]
    rw [kept, caretTop, Version.rank_lt_floor_iff]
    omega
  · have numbers := (Version.release_rank_le_iff a b 0 v).mp low
    by_cases zero : a = 0
    · have kept : (v.start (minor a b)).take (minor a b).span =
          (minor a b).given.take (minor a b).span ↔ v.major = a ∧ v.minor = b := by
        by_cases second : b = 0 <;>
          simp [span, given, Version.start, Version.numbers, zero, second]
      rw [kept, caretTop, if_neg (not_not.mpr zero), Version.rank_lt_floor_iff]
      omega
    · have kept : (v.start (minor a b)).take (minor a b).span =
          (minor a b).given.take (minor a b).span ↔ v.major = a := by
        simp [span, given, Version.start, Version.numbers, zero]
      rw [kept, caretTop, if_pos zero, Version.rank_lt_floor_iff]
      omega

theorem series_iff :
    (∀ c ∈ series p.lower p.next, c.MetBy v) ↔
      v.start p = p.given ∧ (Version.padded p.given).rank ≤ v.rank := by
  rw [forall_metBy_series, lower_eq incomplete, rank_lt_next_iff incomplete]
  constructor
  · rintro ⟨low, high⟩
    exact ⟨le_antisymm high (given_le_start incomplete v low), low⟩
  · rintro ⟨same, low⟩
    exact ⟨low, same.le⟩

/-- The plain comparators of an operator and an incomplete version are met by the versions that the
operator means. -/
theorem forall_metBy_expand_incomplete (op : Operator) :
    (∀ c ∈ p.expand op, c.MetBy v) ↔ op.MeansSeries p v := by
  have single (r : Relation) (bound : Version) :
      (∀ c ∈ [(⟨r, bound⟩ : Comparator)], c.MetBy v) ↔ r.Holds v.rank bound.rank :=
    List.forall_mem_singleton
  have shape := cases_of_incomplete incomplete
  cases op with
  | equal =>
    have plain : p.expand .equal = series p.lower p.next := by
      obtain ⟨a, rfl⟩ | ⟨a, b, rfl⟩ := shape <;> rfl
    rw [plain]
    exact series_iff incomplete v
  | tilde => exact series_iff incomplete v
  | atLeast =>
    rw [expand, single, lower_eq incomplete]
    rfl
  | atMost =>
    have plain : p.expand .atMost = [⟨.below, p.next⟩] := by
      obtain ⟨a, rfl⟩ | ⟨a, b, rfl⟩ := shape <;> rfl
    rw [plain, single]
    exact rank_lt_next_iff incomplete v
  | above =>
    have plain : p.expand .above = [⟨.atLeast, p.next.core⟩] := by
      obtain ⟨a, rfl⟩ | ⟨a, b, rfl⟩ := shape <;> rfl
    rw [plain, single, core_next_eq incomplete]
    rfl
  | below =>
    have plain : p.expand .below =
        [⟨.below, .floor p.lower.major p.lower.minor p.lower.patch⟩] := by
      obtain ⟨a, rfl⟩ | ⟨a, b, rfl⟩ := shape <;> rfl
    rw [plain, single]
    exact rank_lt_floor_lower_iff incomplete v
  | caret =>
    rw [expand, forall_metBy_series, lower_eq incomplete]
    exact and_congr_right fun low => rank_lt_caretTop_iff incomplete v low

theorem given_lt_start (high : (Version.padded p.increased).rank ≤ v.rank) :
    p.given < v.start p := by
  obtain ⟨a, rfl⟩ | ⟨a, b, rfl⟩ := cases_of_incomplete incomplete
  · have numbers := (Version.release_rank_le_iff (a + 1) 0 0 v).mp high
    rw [lt_start_major_iff]
    omega
  · have numbers := (Version.release_rank_le_iff a (b + 1) 0 v).mp high
    rw [lt_start_minor_iff]
    omega

/-- At most one of the three operators means a version. -/
theorem eq_of_meansSeries {first second : Operator}
    (amongFirst : first ∈ [Operator.below, .equal, .above])
    (amongSecond : second ∈ [Operator.below, .equal, .above])
    (means : first.MeansSeries p v) (alsoMeans : second.MeansSeries p v) : first = second := by
  have side {op : Operator} (among : op ∈ [Operator.below, .equal, .above])
      (means : op.MeansSeries p v) :
      op = .below ∧ v.start p < p.given ∨ op = .equal ∧ v.start p = p.given ∨
        op = .above ∧ p.given < v.start p := by
    simp only [List.mem_cons, List.not_mem_nil, or_false] at among
    rcases among with rfl | rfl | rfl
    · exact .inl ⟨rfl, means⟩
    · exact .inr (.inl ⟨rfl, means.1⟩)
    · exact .inr (.inr ⟨rfl, given_lt_start incomplete v means⟩)
  grind [side amongFirst means, side amongSecond alsoMeans]

/-- The prereleases of the two releases at the ends of a series are outside of it, below and above
alike. -/
theorem means_none_iff :
    (∀ op ∈ [Operator.below, .equal, .above], ¬ op.MeansSeries p v) ↔
      v.IsPrereleaseOf (.padded p.given) ∨ v.IsPrereleaseOf (.padded p.increased) := by
  simp only [List.forall_mem_cons, List.not_mem_nil, false_implies, implies_true, and_true,
    Operator.MeansSeries]
  obtain ⟨a, rfl⟩ | ⟨a, b, rfl⟩ := cases_of_incomplete incomplete
  · have same : v.start (major a) = (major a).given ↔ v.major = a := List.singleton_inj
    rw [start_major_lt_iff, same]
    simp only [given, increased, Version.padded, List.getD_cons_zero, List.getD_cons_succ,
      List.getD_nil, Version.release_rank_le_iff, Version.isPrereleaseOf_release_iff]
    grind
  · have same : v.start (minor a b) = (minor a b).given ↔ v.major = a ∧ v.minor = b := by
      simp [Version.start, given, Version.numbers]
    rw [start_minor_lt_iff, same]
    simp only [given, increased, Version.padded, List.getD_cons_zero, List.getD_cons_succ,
      List.getD_nil, Version.release_rank_le_iff, Version.isPrereleaseOf_release_iff]
    grind

/-- The written form of an incomplete version is read as its numbers. -/
theorem exists_numbers_written
    (short : ∀ n ∈ p.given, (Text.decimalDigits n).length ≤ Numeral.digitLimit) :
    ∃ n, Range.numbers? p.written = some n ∧ n.value = .ok p := by
  have digits : ∀ d : Char, d.isDigit = true → Text.isDigit d = true :=
    fun _ => Text.isDigit_of_isDigit
  have last (n : ℕ) : Version.takeNumber? Text.isDigit (Text.decimalDigits n) =
      some (Text.decimalDigits n, []) := by
    have taken := @Version.takeNumber?_append _ _ [] (Text.isCanonical_decimalDigits n) digits
    simpa using taken
  obtain ⟨a, rfl⟩ | ⟨a, b, rfl⟩ := cases_of_incomplete incomplete
  · have first := Numeral.read_decimalDigits (short a (by simp [given]))
    refine ⟨.major (Text.decimalDigits a), ?_, ?_⟩
    · simp [Range.numbers?, written, given, Text.joinWith, last]
    · simp only [Range.Numbers.value, first]
      rfl
  · have first := Numeral.read_decimalDigits (short a (by simp [given]))
    have second := Numeral.read_decimalDigits (short b (by simp [given]))
    have front : Version.takeNumber? Text.isDigit
        (Text.decimalDigits a ++ '.' :: Text.decimalDigits b) =
          some (Text.decimalDigits a, '.' :: Text.decimalDigits b) := by
      apply Version.takeNumber?_append (Text.isCanonical_decimalDigits a) digits
      intro c hc
      rw [← Option.some.inj hc]
      decide
    refine ⟨.minor (Text.decimalDigits a) (Text.decimalDigits b), ?_, ?_⟩
    · simp [Range.numbers?, Range.afterPoint?, written, given, Text.joinWith, front, last]
    · simp only [Range.Numbers.value, first, second]
      rfl

/-- An operator and a written incomplete version are the range of their plain comparators. -/
theorem parse_symbol_written (op : Operator)
    (short : ∀ n ∈ p.given, (Text.decimalDigits n).length ≤ Numeral.digitLimit) :
    Range.parse (op.symbol ++ String.ofList p.written) = .ok [p.expand op] := by
  obtain ⟨n, read, value⟩ := exists_numbers_written incomplete short
  have inner := isInner_of_mem_written p
  obtain ⟨d, rest, whole, digit⟩ := p.written_eq_cons
  rw [whole] at read inner ⊢
  exact Range.parse_symbol_ofList op digit read value inner

theorem pre_lower_eq_nil : p.lower.pre = [] := by
  rw [lower_eq incomplete]
  rfl

section Library

variable [VersionLibrary] {isDigit : Char → Bool} [lawful : LawfulVersionLibrary isDigit]
  (short : ∀ n ∈ p.given, (Text.decimalDigits n).length ≤ Numeral.digitLimit) {current : String}

include short

theorem check_symbol_written (read : Version.parse? current = some v) (op : Operator) :
    Range.check (.text current) (.text (op.symbol ++ String.ofList p.written)) =
      Range.admits [p.expand op] v :=
  Range.check_text_of_parse (parse_symbol_written incomplete op short) read

include lawful

end Library

end Incomplete

end PartialVersion

end EnvDoctor
