import EnvDoctor.Proofs.Range.Written
import EnvDoctor.Proofs.Version.Strict

/-!
# Canonical version texts

Blanks around a complete version, signs in front of it and build metadata behind it play no role in
how it is read, whatever digits the library takes. So the canonical form of a version text is its
own canonical form, and it stays the canonical form when all of these are added to it.
-/

namespace EnvDoctor.Version

theorem isBuild_plus_joinWith {ids : List (List Char)} (nonempty : ids ≠ [])
    (identifiers : ∀ id ∈ ids, isIdentifier id = true) :
    isBuild ('+' :: Text.joinWith ['.'] ids) = true := by
  have pieces : Text.splitOn '.' (Text.joinWith ['.'] ids) = ids := by
    apply Text.splitOn_joinWith nonempty
    intro id hid point
    exact (ne_of_isIdentifierChar (isIdentifierChar_of_mem (identifiers id hid) point)).1 rfl
  have all : ids.all isIdentifier = true := List.all_eq_true.mpr identifiers
  simp [isBuild, identifiers?, pieces, all]

section Library

variable [VersionLibrary] {isDigit : Char → Bool} [lawful : LawfulVersionLibrary isDigit]

include lawful

section Surrounded

variable {before signs after : List Char} (blankBefore : ∀ c ∈ before, Text.isBlank c = true)
  (leading : ∀ c ∈ signs, isLeadingSign c = true)
  (blankAfter : ∀ c ∈ after, Text.isBlank c = true)

include blankBefore leading blankAfter

/-- A complete version is read with any signs in front of it and any blanks around both. -/
theorem parse?_surrounded {s : List Char} {v : Version} (read : ofChars? isDigit s = some v) :
    parse? (String.ofList (before ++ (signs ++ s) ++ after)) = some v := by
  obtain ⟨d, rest, begins, digit⟩ := exists_digit_of_ofChars? read
  have visible : ∀ c ∈ signs ++ s, Text.isBlank c = false := by
    intro c hc
    rcases List.mem_append.mp hc with hc | hc
    · exact not_blank_of_isLeadingSign (leading c hc)
    · exact Range.not_blank_of_isInner (Range.isInner_of_ofChars? lawful.digits read c hc)
  have trimmed : Text.trim (before ++ (signs ++ s) ++ after) = signs ++ s := by
    apply Text.trim_append_append _ _ _ blankBefore blankAfter
    · simp [begins]
    · intro c hc
      exact visible c (List.mem_of_mem_head? hc)
    · intro c hc
      exact visible c (List.mem_of_mem_getLast? hc)
  have unsigned : (signs ++ s).dropWhile isLeadingSign = s := by
    apply (Text.takeWhile_append_of_stops leading _).2
    intro c hc
    rw [begins] at hc
    rw [← Option.some.inj hc]
    exact isLeadingSign_of_isDigit digit
  rw [parse?_eq, String.toList_ofList, trimmed, unsigned, read]

theorem clean?_surrounded {v : Version} (wf : v.WellFormed isDigit) {build : List Char}
    (metadata : isBuild build = true) :
    clean? (String.ofList (before ++ (signs ++ (v.written ++ build)) ++ after)) =
      some (toString v) := by
  have read := wf.ofChars?_written_append lawful.digits metadata
  rw [clean?, parse?_surrounded blankBefore leading blankAfter read]
  rfl

end Surrounded

theorem WellFormed.parse?_written {v : Version} (wf : v.WellFormed isDigit) :
    parse? (toString v) = some v := by
  have read : parse? (String.ofList ([] ++ ([] ++ v.written) ++ [])) = some v :=
    parse?_surrounded (by simp) (by simp) (by simp) (wf.ofChars?_written lawful.digits)
  rwa [List.nil_append, List.nil_append, List.append_nil] at read

theorem plus_notMem_written {v : Version} (wf : v.WellFormed isDigit) : '+' ∉ v.written := by
  have numbers : ∀ n, '+' ∉ Text.decimalDigits n := by
    intro n plus
    exact absurd (Text.isDigit_of_mem_decimalDigits plus) (by decide)
  have tail : '+' ∉ writtenTail v.pre := by
    unfold writtenTail
    split
    · exact List.not_mem_nil
    · intro plus
      rcases List.mem_cons.mp plus with hyphen | plus
      · exact absurd hyphen (by decide)
      · rcases Text.mem_joinWith plus with point | ⟨id, hid, inside⟩
        · exact absurd point (by decide)
        · exact (ne_of_identifier_or_digit lawful.digits
            (char_of_isStrictIdentifier (wf.strict id hid) inside)).2 rfl
  rw [written_eq]
  simp [numbers, tail]

/-- The canonical form of a version text is its own canonical form and spells the same version,
without build metadata. It stays the canonical form with signs and blanks in front of it, build
metadata behind it and blanks at the end. -/
theorem clean?_canonical {t c : String} (clean : clean? t = some c) :
    clean? c = some c ∧ (∃ v, parse? t = some v ∧ parse? c = some v) ∧ '+' ∉ c.toList ∧
      ∀ before signs after : List Char, (∀ x ∈ before, Text.isBlank x = true) →
        (∀ x ∈ signs, x = '=' ∨ x = 'v') → (∀ x ∈ after, Text.isBlank x = true) →
        clean? (String.ofList (before ++ signs ++ c.toList ++ after)) = some c ∧
        ∀ ids, ids ≠ [] → (∀ id ∈ ids, isIdentifier id = true) →
          clean? (String.ofList (before ++ signs ++ c.toList ++ '+' :: Text.joinWith ['.'] ids ++
            after)) = some c := by
  obtain ⟨v, read, rfl⟩ := Option.map_eq_some_iff.mp clean
  have wf := wellFormed_of_parse? read
  have text : (toString v).toList = v.written := String.toList_ofList
  have same := wf.parse?_written
  refine ⟨?_, ⟨v, read, same⟩, ?_, ?_⟩
  · rw [clean?, same]
    rfl
  · rw [text]
    exact plus_notMem_written wf
  · intro before signs after blankBefore leading blankAfter
    have signed : ∀ x ∈ signs, isLeadingSign x = true := by
      intro x hx
      simpa [isLeadingSign] using leading x hx
    constructor
    · have plain := clean?_surrounded blankBefore signed blankAfter wf (rfl : isBuild [] = true)
      simpa [text] using plain
    · intro ids nonempty identifiers
      have metadata := isBuild_plus_joinWith nonempty identifiers
      have built := clean?_surrounded blankBefore signed blankAfter wf metadata
      simpa [text] using built

end Library

section Decimal

local instance : VersionLibrary :=
  libraryFor Text.isDigit

local instance : LawfulVersionLibrary Text.isDigit :=
  lawful_libraryFor isDigitClass_decimal

/-- In numbers, digits of other scripts are written as those of the ASCII range. -/
theorem clean?_canonical_prerelease :
    clean? " v1\u0663.2.3-rc.\u0664x+b7\u00a0" = some "13.2.3-rc.\u0664x" ∧
      clean? "13.2.3-rc.\u0664x" = some "13.2.3-rc.\u0664x" ∧
      clean? "\u2003=v=13.2.3-rc.\u0664x+x.-.007\u0085" = some "13.2.3-rc.\u0664x" := by
  have clean : clean? " v1\u0663.2.3-rc.\u0664x+b7\u00a0" = some "13.2.3-rc.\u0664x" := by
    decide +kernel
  obtain ⟨again, -, -, surrounded⟩ := clean?_canonical clean
  refine ⟨clean, again, ?_⟩
  have blankBefore : ∀ x ∈ ['\u2003'], Text.isBlank x = true :=
    List.forall_mem_singleton.mpr rfl
  have leading : ∀ x ∈ ['=', 'v', '='], x = '=' ∨ x = 'v' := by simp
  have blankAfter : ∀ x ∈ ['\u0085'], Text.isBlank x = true :=
    List.forall_mem_singleton.mpr rfl
  exact (surrounded _ _ _ blankBefore leading blankAfter).2
    [['x'], ['-'], ['0', '0', '7']] (by decide) (by decide)

end Decimal

theorem parse?_longPrerelease {major minor patch : ℕ} {front : List Char}
    (short : ∀ n ∈ [major, minor, patch], (Text.decimalDigits n).length ≤ Numeral.digitLimit)
    (spelled : front = Text.joinWith ['.'] ([major, minor, patch].map Text.decimalDigits) ++ ['-']) :
    parse? (String.ofList (front ++ List.replicate (Numeral.digitLimit + 1) '1')) =
      some (longPrerelease major minor patch) := by
  have wf : (longPrerelease major minor patch).WellFormed Char.isDigit :=
    ⟨short, strict_longPrerelease major minor patch⟩
  have text : front ++ List.replicate (Numeral.digitLimit + 1) '1' =
      (longPrerelease major minor patch).written := by
    rw [written_longPrerelease, spelled, List.append_assoc]
    rfl
  rw [text]
  exact wf.parse?_written

end EnvDoctor.Version
