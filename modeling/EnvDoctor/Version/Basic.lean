import EnvDoctor.Text.Digit
import EnvDoctor.Text.Pieces

/-!
# Versions

A version has three numbers and, if it is a prerelease, a list of identifiers. Build metadata is
no part of a version: it plays no role in comparison and is dropped when a version is read.
-/

namespace EnvDoctor

structure Version where
  major : Nat
  minor : Nat
  patch : Nat
  pre : List (List Char)
  deriving DecidableEq, Repr

namespace Version

def release (major minor patch : Nat) : Version :=
  ⟨major, minor, patch, []⟩

/-- The lowest version with the given numbers, prereleases included. -/
def floor (major minor patch : Nat) : Version :=
  ⟨major, minor, patch, [['0']]⟩

def core (v : Version) : Version :=
  release v.major v.minor v.patch

def numbers (v : Version) : List Nat :=
  [v.major, v.minor, v.patch]

def written (v : Version) : List Char :=
  let numbers := Text.joinWith ['.'] (v.numbers.map Text.decimalDigits)
  if v.pre.isEmpty then numbers else numbers ++ '-' :: Text.joinWith ['.'] v.pre

instance : ToString Version :=
  ⟨fun v => String.ofList v.written⟩

end Version

end EnvDoctor
