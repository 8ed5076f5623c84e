import EnvDoctor.Pattern.Token
import EnvDoctor.Text.Names

/-!
# Escapes

What a backslash and the characters after it stand for, inside and outside a character class.
-/

namespace EnvDoctor.Pattern

def controlEscape? : Char → Option Nat
  | 'a' => some 0x07
  | 'b' => some 0x08
  | 'f' => some 0x0C
  | 'n' => some 0x0A
  | 'r' => some 0x0D
  | 't' => some 0x09
  | 'v' => some 0x0B
  | '\\' => some 0x5C
  | _ => none

def classEscape? : Char → Option ClassItem
  | 'd' => some (.digit false)
  | 'D' => some (.digit true)
  | 's' => some (.space false)
  | 'S' => some (.space true)
  | 'w' => some (.word false)
  | 'W' => some (.word true)
  | _ => none

def anchorEscape? (ascii : Bool) : Char → Option Anchor
  | 'A' => some .textStart
  | 'b' => some (.wordEdge false ascii)
  | 'B' => some (.wordEdge true ascii)
  | 'Z' => some .textEnd
  | _ => none

def isAsciiLetter (c : Char) : Bool :=
  c.isAlpha

def codePointEnd : Nat := 0x110000

/-- The end of the numbers that are looked up as code points. -/
def codeNumberEnd : Nat := 0x80000000

namespace Read

variable [CharacterNames]

def hexEscape (letter : Char) (width : Nat) : Read Nat := do
  let digits ← takeUpTo Text.isHexDigit width
  let text := '\\' :: letter :: digits
  if digits.length ≠ width then failBack text.length (.incompleteEscape text)
  let code := Text.valueInBase 16 digits
  if code ≥ codeNumberEnd then throw .codePointTooLarge
  if code ≥ codePointEnd then failBack text.length (.badEscape text)
  return code

def namedEscape : Read Nat := do
  unless ← accept '\x7b' do fail .missingBrace
  let name ← name '\x7d' "character name"
  match CharacterNames.codeOf? name with
  | some code => return code
  | none => failBack (name.length + 4) (.unknownCharacterName name)

/-- An octal escape stands for a character up to `\377`. -/
def octalCode (digits : List Char) : Read Nat := do
  let n := Text.valueInBase 8 digits
  if n > 0o377 then failBack (digits.length + 1) (.octalTooLarge ('\\' :: digits))
  return n

/-- The escapes that mean the same inside and outside a class; a letter or digit that means
nothing is refused. -/
def plainEscape (c : Char) : Read Nat := do
  match c with
  | 'x' => hexEscape 'x' 2
  | 'u' => hexEscape 'u' 4
  | 'U' => hexEscape 'U' 8
  | 'N' => namedEscape
  | _ =>
    if isAsciiLetter c || c.isDigit then failBack 2 (.badEscape ['\\', c])
    else return Text.codePoint c

def escapeInClass (c : Char) : Read ClassItem := do
  if let some control := controlEscape? c then return .char control
  if let some item := classEscape? c then return item
  if Text.isOctalDigit c then
    let more ← takeUpTo Text.isOctalDigit 2
    return .char (← octalCode (c :: more))
  return .char (← plainEscape c)

def reference (mode : Mode) (digits : List Char) : Read Node := do
  let group := Text.digitsValue digits
  if group < (← groupCount) then
    match ← closedWidth? group with
    | none => failBack (digits.length + 1) .openGroup
    | some (least, most) =>
      checkLookbehind group
      return .backref group mode.ignoreCase mode.ascii least most
  else failBack digits.length (.invalidReference group)

def oneOf (mode : Mode) (item : ClassItem) : Node :=
  .one { items := [item], ignoreCase := mode.ignoreCase, ascii := mode.ascii }

/-- A nonzero digit after a backslash: three octal digits are a character, else up to two digits
refer to a group. -/
def digitEscape (mode : Mode) (c : Char) : Read Node := do
  let more ← takeUpTo Char.isDigit 1
  match more with
  | [d] =>
    if Text.isOctalDigit c && Text.isOctalDigit d then
      match ← takeUpTo Text.isOctalDigit 1 with
      | [e] => return oneOf mode (.char (← octalCode [c, d, e]))
      | _ => reference mode [c, d]
    else reference mode [c, d]
  | _ => reference mode [c]

def escape (mode : Mode) (c : Char) : Read Node := do
  if let some item := classEscape? c then return oneOf mode item
  if let some anchor := anchorEscape? mode.ascii c then return .anchor anchor
  if let some control := controlEscape? c then return oneOf mode (.char control)
  if c = '0' then
    let more ← takeUpTo Text.isOctalDigit 2
    return oneOf mode (.char (Text.valueInBase 8 more))
  if c.isDigit then digitEscape mode c
  else return oneOf mode (.char (← plainEscape c))

end Read

end EnvDoctor.Pattern
