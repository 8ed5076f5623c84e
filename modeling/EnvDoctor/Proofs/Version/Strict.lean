import EnvDoctor.Proofs.Version.Library
import EnvDoctor.Version.Strict

/-!
# The strict library is lawful

The library for a class of digits reads the versions of the grammar. Its comparisons answer by
precedence unless they meet a numeric identifier that is too long.
-/

namespace EnvDoctor.Version

theorem longIdentifier?_eq_none_iff {v : Version} :
    v.longIdentifier? = none ↔ v.HasShortIdentifiers := by
  simp [longIdentifier?, HasShortIdentifiers, List.find?_eq_none]

theorem strictCompare_of_short {v w : Version} (short : v.HasShortIdentifiers)
    (otherShort : w.HasShortIdentifiers) : strictCompare v w = .ok (v.precedence w) := by
  unfold strictCompare
  rw [longIdentifier?_eq_none_iff.mpr short, longIdentifier?_eq_none_iff.mpr otherShort]
  cases v.compareNumbers w <;> rfl

theorem eq_precedence_of_strictCompare {v w : Version} {o : Ordering}
    (compared : strictCompare v w = .ok o) : o = v.precedence w := by
  unfold strictCompare at compared
  split at compared
  · cases compared
  · exact (Except.ok.inj compared).symm

theorem strictCompare_of_long {v w : Version} {id : List Char} (same : v.compareNumbers w = .eq)
    (long : v.longIdentifier? = some id) :
    strictCompare v w = .error (Numeral.TooLong.message ⟨some id.length⟩) := by
  rw [strictCompare, same, long]
  rfl

theorem lawful_libraryFor {isDigit : Char → Bool} (digits : IsDigitClass isDigit) :
    @LawfulVersionLibrary (libraryFor isDigit) isDigit :=
  let _ := libraryFor isDigit
  { digits
    read?_eq _ := rfl
    eq_precedence _ _ := eq_precedence_of_strictCompare
    exists_compare_eq _ _ short otherShort := ⟨_, strictCompare_of_short short otherShort⟩ }

instance : LawfulVersionLibrary Char.isDigit :=
  lawful_libraryFor isDigitClass_ascii

section Long

variable (major minor patch : Nat)

/-- A prerelease with an identifier that is one digit too long to be read as a number. -/
def longPrerelease : Version :=
  ⟨major, minor, patch, [List.replicate (Numeral.digitLimit + 1) '1']⟩

theorem longIdentifier?_longPrerelease :
    (longPrerelease major minor patch).longIdentifier? =
      some (List.replicate (Numeral.digitLimit + 1) '1') := by
  have numeric : isNumericIdentifier (List.replicate (Numeral.digitLimit + 1) '1') = true := by
    simp [isNumericIdentifier, show Text.isDigit '1' = true by decide]
  simp [longIdentifier?, longPrerelease, numeric]

theorem strictCompare_longPrerelease {w : Version}
    (same : (longPrerelease major minor patch).compareNumbers w = .eq) :
    strictCompare (longPrerelease major minor patch) w =
      .error (Numeral.TooLong.message ⟨some (Numeral.digitLimit + 1)⟩) := by
  rw [strictCompare_of_long same (longIdentifier?_longPrerelease major minor patch),
    List.length_replicate]

theorem strict_longPrerelease :
    AllStrict Char.isDigit (longPrerelease major minor patch).pre := by
  refine List.forall_mem_singleton.mpr ?_
  simp [isStrictIdentifier, List.head?_replicate]

/-- The written form of a long prerelease, spelled out. -/
theorem written_longPrerelease :
    (longPrerelease major minor patch).written =
      Text.joinWith ['.'] ([major, minor, patch].map Text.decimalDigits) ++
        '-' :: List.replicate (Numeral.digitLimit + 1) '1' := by
  simp [written, longPrerelease, numbers, Text.joinWith]

end Long

end EnvDoctor.Version
