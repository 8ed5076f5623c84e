import EnvDoctor.Version.Basic

/-!
# Precedence

The order of versions: by the three numbers, then a prerelease before its release, then by the
identifiers from left to right. Identifiers of digits alone are compared by value and come before
all others, which are compared character by character; of two lists that agree as far as the
shorter one goes, the shorter comes first.
-/

namespace EnvDoctor

def isNumericIdentifier (id : List Char) : Bool :=
  !id.isEmpty && id.all Text.isDigit

def identifierNumber? (id : List Char) : Option Nat :=
  if isNumericIdentifier id then some (Text.digitsValue id) else none

/-- Characters by code point, from left to right. -/
def compareChars : List Char → List Char → Ordering
  | [], [] => .eq
  | [], _ :: _ => .lt
  | _ :: _, [] => .gt
  | c :: s, d :: t => (compare c.toNat d.toNat).then (compareChars s t)

def compareIdentifiers (a b : List Char) : Ordering :=
  match identifierNumber? a, identifierNumber? b with
  | some m, some n => compare m n
  | some _, none => .lt
  | none, some _ => .gt
  | none, none => compareChars a b

def comparePrereleases : List (List Char) → List (List Char) → Ordering
  | [], [] => .eq
  | [], _ :: _ => .lt
  | _ :: _, [] => .gt
  | a :: s, b :: t => (compareIdentifiers a b).then (comparePrereleases s t)

/-- Prereleases come before the release, whose list is empty. -/
def compareTails (a b : List (List Char)) : Ordering :=
  match a.isEmpty, b.isEmpty with
  | true, true => .eq
  | true, false => .gt
  | false, true => .lt
  | false, false => comparePrereleases a b

namespace Version

def compareNumbers (v w : Version) : Ordering :=
  ((compare v.major w.major).then (compare v.minor w.minor)).then (compare v.patch w.patch)

/-- The order of versions with strict identifiers. -/
def precedence (v w : Version) : Ordering :=
  (v.compareNumbers w).then (compareTails v.pre w.pre)

end Version

end EnvDoctor
