import EnvDoctor.Proofs.Version.Written
import EnvDoctor.Version.Parser
import EnvDoctor.Version.Precedence

/-!
# What the library for versions is relied on for

The library reads the versions of the grammar, in some class of digits, and its comparisons answer
by precedence. A comparison does answer unless it has to read a numeric identifier that is too long.
Nothing is assumed of versions whose identifiers do not follow the grammar.
-/

namespace EnvDoctor

/-- No numeric identifier is too long to be read as a number. -/
def Version.HasShortIdentifiers (v : Version) : Prop :=
  ∀ id ∈ v.pre, isNumericIdentifier id = true → id.length ≤ Numeral.digitLimit

instance (v : Version) : Decidable v.HasShortIdentifiers :=
  inferInstanceAs (Decidable (∀ id ∈ v.pre, _))

open Version in
class LawfulVersionLibrary [VersionLibrary] (isDigit : outParam (Char → Bool)) : Prop where
  digits : IsDigitClass isDigit
  read?_eq : ∀ {s : List Char}, s.getLast? ≠ some '\n' →
    VersionLibrary.read? s = ofChars? isDigit s
  eq_precedence : ∀ {v w : Version} {o : Ordering}, AllStrict isDigit v.pre →
    AllStrict isDigit w.pre → VersionLibrary.compare v w = .ok o → o = v.precedence w
  exists_compare_eq : ∀ {v w : Version}, AllStrict isDigit v.pre → AllStrict isDigit w.pre →
    v.HasShortIdentifiers → w.HasShortIdentifiers → ∃ o, VersionLibrary.compare v w = .ok o

namespace Version

section Signs

theorem isLeadingSign_of_isDigit {d : Char} (digit : d.isDigit = true) :
    isLeadingSign d = false := by
  rw [Bool.eq_false_iff]
  intro leading
  simp only [isLeadingSign, Bool.or_eq_true, beq_iff_eq] at leading
  rcases leading with rfl | rfl <;> exact absurd digit (by decide)

theorem not_blank_of_isLeadingSign {c : Char} (leading : isLeadingSign c = true) :
    Text.isBlank c = false := by
  simp only [isLeadingSign, Bool.or_eq_true, beq_iff_eq] at leading
  rcases leading with rfl | rfl
  · decide
  · decide

end Signs

variable [VersionLibrary] {isDigit : Char → Bool} [lawful : LawfulVersionLibrary isDigit]

/-- A text without outer blanks and leading signs is read by the grammar: it has no line end behind
it, which some libraries would pass over. -/
theorem parse?_eq (s : String) :
    parse? s = ofChars? isDigit ((Text.trim s.toList).dropWhile isLeadingSign) := by
  apply LawfulVersionLibrary.read?_eq
  intro last
  obtain ⟨signs, whole⟩ := List.dropWhile_suffix isLeadingSign (l := Text.trim s.toList)
  have ends : (Text.trim s.toList).getLast? = some '\n' := by
    rw [← whole, List.getLast?_append, last]
    rfl
  exact absurd (Text.not_blank_of_getLast?_trim ends) (by decide)

theorem wellFormed_of_parse? {s : String} {v : Version} (read : parse? s = some v) :
    v.WellFormed isDigit := by
  rw [parse?_eq] at read
  exact wellFormed_of_ofChars? read

/-- Nothing is dropped around a text that begins with a digit and holds no blanks. -/
theorem parse?_eq_ofChars? {t : String} (visible : ∀ c ∈ t.toList, Text.isBlank c = false)
    (digit : ∀ c ∈ t.toList.head?, c.isDigit = true) : parse? t = ofChars? isDigit t.toList := by
  have signs : t.toList.dropWhile isLeadingSign = t.toList := by
    apply (Text.takeWhile_append_of_stops (s := []) (by simp) _).2
    intro c hc
    exact isLeadingSign_of_isDigit (digit c hc)
  rw [parse?_eq, Text.trim_of_forall_not_blank visible, signs]

include lawful in
/-- A version in an ASCII text has plain identifiers, whatever digits the library takes. -/
theorem wellFormed_of_ascii {s : String} (ascii : ∀ c ∈ s.toList, c.toNat < 128) {v : Version}
    (read : parse? s = some v) : v.WellFormed Char.isDigit := by
  have inside : ∀ c ∈ (Text.trim s.toList).dropWhile isLeadingSign, c.toNat < 128 := by
    obtain ⟨before, after, -, -, whole⟩ := Text.exists_blanks_trim s.toList
    intro c hc
    have trimmed : c ∈ Text.trim s.toList := (List.dropWhile_sublist _).mem hc
    apply ascii
    rw [whole]
    exact List.mem_append_left _ (List.mem_append_right _ trimmed)
  rw [parse?_eq, ofChars?_of_ascii lawful.digits inside] at read
  exact wellFormed_of_ofChars? read

end Version

end EnvDoctor
