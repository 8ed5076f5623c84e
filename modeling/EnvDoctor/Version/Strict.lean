import EnvDoctor.Version.Grammar
import EnvDoctor.Version.Library
import EnvDoctor.Version.Precedence

/-!
# The strict library

A library that reads the versions of the grammar in some class of digits. It compares the numbers of
two versions first; if they agree, it reads all numeric identifiers of both prereleases, of which
none may be too long. The strict one takes ASCII digits only.
-/

namespace EnvDoctor.Version

/-- The first numeric identifier of a prerelease that is too long to be read. -/
def longIdentifier? (v : Version) : Option (List Char) :=
  v.pre.find? fun id => isNumericIdentifier id && decide (Numeral.digitLimit < id.length)

/-- Compares two versions, the identifiers only if their numbers agree. -/
def strictCompare (v w : Version) : Except String Ordering :=
  match v.compareNumbers w, v.longIdentifier?.or w.longIdentifier? with
  | .eq, some id => .error (Numeral.TooLong.message ⟨some id.length⟩)
  | _, _ => .ok (v.precedence w)

@[reducible]
def libraryFor (isDigit : Char → Bool) : VersionLibrary where
  read? := ofChars? isDigit
  compare := strictCompare

instance strictLibrary : VersionLibrary :=
  libraryFor Char.isDigit

end EnvDoctor.Version
