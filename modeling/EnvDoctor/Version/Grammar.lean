import EnvDoctor.Numeral
import EnvDoctor.Version.Basic

/-!
# The grammar of versions

Numbers without leading zeros, dotted identifiers, and the tail of a version: an optional
prerelease after a hyphen and optional build metadata after a plus sign. Which characters are
digits beyond those of the ASCII range is left open.
-/

namespace EnvDoctor.Version

def isIdentifierChar (c : Char) : Bool :=
  c.isAlphanum || c == '-'

def isIdentifier (id : List Char) : Bool :=
  !id.isEmpty && id.all isIdentifierChar

/-- Digits, which may begin with a zero only if that is all, or digits in front of an identifier
that begins with a letter or a hyphen. -/
def isStrictIdentifier (isDigit : Char → Bool) (id : List Char) : Bool :=
  match id.dropWhile isDigit with
  | [] => id == ['0'] || id.head?.any fun c => c.isDigit && c != '0'
  | rest => rest.all isIdentifierChar

/-- The digits of a number without leading zeros, and the rest. The first digit is an ASCII digit,
the further ones satisfy `isDigit`. -/
def takeNumber? (isDigit : Char → Bool) : List Char → Option (List Char × List Char)
  | '0' :: rest => some (['0'], rest)
  | c :: rest =>
    if c.isDigit then some (c :: rest.takeWhile isDigit, rest.dropWhile isDigit) else none
  | [] => none

def identifiers? (valid : List Char → Bool) (s : List Char) : Option (List (List Char)) :=
  let ids := Text.splitOn '.' s
  if ids.all valid then some ids else none

def isBuild : List Char → Bool
  | [] => true
  | '+' :: build => (identifiers? isIdentifier build).isSome
  | _ => false

def tail? (valid : List Char → Bool) (s : List Char) : Option (List (List Char)) :=
  match s with
  | '-' :: rest =>
    let ids := rest.takeWhile (· != '+')
    if isBuild (rest.dropWhile (· != '+')) then identifiers? valid ids else none
  | _ => if isBuild s then some [] else none

def number? (isDigit : Char → Bool) (s : List Char) : Option (Nat × List Char) := do
  let (digits, rest) ← takeNumber? isDigit s
  let n ← (Numeral.read digits).toOption
  some (n, rest)

def skip? (c : Char) : List Char → Option (List Char)
  | [] => none
  | d :: rest => if d = c then some rest else none

def ofChars? (isDigit : Char → Bool) (s : List Char) : Option Version := do
  let (major, s) ← number? isDigit s
  let s ← skip? '.' s
  let (minor, s) ← number? isDigit s
  let s ← skip? '.' s
  let (patch, s) ← number? isDigit s
  let pre ← tail? (isStrictIdentifier isDigit) s
  some ⟨major, minor, patch, pre⟩

end EnvDoctor.Version
