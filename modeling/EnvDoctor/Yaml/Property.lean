import EnvDoctor.Text.Digit
import EnvDoctor.Text.Utf8
import EnvDoctor.Yaml.Cursor
import EnvDoctor.Yaml.Token

/-!
# Anchors, tags and directives

The tokens of YAML that start with `&`, `*`, `!` or `%`.
-/

namespace EnvDoctor.Yaml

def isNameChar (c : Char) : Bool :=
  c.isAlphanum || c == '-' || c == '_'

/-- The name after `&` or `*`. The cursor stands at the sign. -/
def anchorName? (c : Cursor) : Option (String × Cursor) :=
  let (name, c) := c.step.takeWhile isNameChar
  let closed := endsWord c.head || c.head.any fun x =>
    x == '?' || x == ':' || x == ',' || x == ']' || x == '\x7d' || x == '%' || x == '@' ||
      x == '\x60'
  if name.isEmpty || !closed then none else some (String.ofList name, c)

def isTagChar (c : Char) : Bool :=
  isNameChar c || [';', '/', '?', ':', '@', '&', '=', '+', '$', ',', '.', '!', '~', '*', '\'',
    '(', ')', '[', ']'].contains c

/-- Bytes written as `%` and two hexadecimal digits each. -/
def tagBytes? : (fuel : Nat) → Cursor → Option (List UInt8 × Cursor)
  | 0, _ => none
  | fuel + 1, c =>
    match c.rest with
    | '%' :: x :: y :: _ =>
      if Text.isHexDigit x && Text.isHexDigit y then do
        let (more, c) ← tagBytes? fuel (c.steps 3)
        some (UInt8.ofNat (Text.valueInBase 16 [x, y]) :: more, c)
      else none
    | '%' :: _ => none
    | _ => some ([], c)

def tagChars? : (fuel : Nat) → Cursor → Option (List Char × Cursor)
  | 0, _ => none
  | fuel + 1, c =>
    match c.head with
    | some x =>
      if x = '%' then do
        let (bytes, c) ← tagBytes? (c.rest.length + 1) c
        let chars ← (Text.Utf8.decode bytes).toOption
        let (more, c) ← tagChars? fuel c
        some (chars ++ more, c)
      else if isTagChar x then do
        let (more, c) ← tagChars? fuel c.step
        some (x :: more, c)
      else some ([], c)
    | none => some ([], c)

def tagText? (c : Cursor) : Option (String × Cursor) := do
  let (chars, next) ← tagChars? (c.rest.length + 1) c
  if next.index = c.index then none else some (String.ofList chars, next)

/-- A handle: `!`, or a name between two of them. -/
def tagHandle? (c : Cursor) : Option (String × Cursor) :=
  if !c.at_ '!' then none
  else if c.peek 1 = some ' ' then some ("!", c.step)
  else
    let (name, next) := c.step.takeWhile isNameChar
    if next.at_ '!' then some (String.ofList ('!' :: name ++ ['!']), next.step) else none

def tag? (c : Cursor) : Option (Token × Cursor) := do
  let (token, c) ←
    if c.peek 1 = some '<' then do
      let (text, c) ← tagText? (c.steps 2)
      if c.at_ '>' then some (Token.tag none text, c.step) else none
    else if endsWord (c.peek 1) then some (.tag none "!", c.step)
    else do
      let word := c.step.rest.takeWhile fun x => !isBreak x && x != ' '
      let (handle, c) ← if word.contains '!' then tagHandle? c else some ("!", c.step)
      let (text, c) ← tagText? c
      some (.tag (some handle) text, c)
  if endsLineOrSpace c.head then some (token, c) else none

def directiveNumber (c : Cursor) : Except Fault (Nat × Cursor) :=
  let (digits, c) := c.takeWhile Char.isDigit
  if digits.isEmpty then .error .malformed
  else
    match Numeral.read digits with
    | .ok n => .ok (n, c)
    | .error numeral => .error (.whole (.tooLong numeral))

def version (c : Cursor) : Except Fault (Token × Cursor) := do
  let (major, c) ← directiveNumber (c.skipWhile (· == ' '))
  if !c.at_ '.' then throw .malformed
  let (_, c) ← directiveNumber c.step
  if endsLineOrSpace c.head then return (.versionDirective major, c) else throw .malformed

def tagStart? (c : Cursor) : Option (Token × Cursor) := do
  let (handle, c) ← tagHandle? (c.skipWhile (· == ' '))
  if !c.at_ ' ' then none
  else
    let (start, c) ← tagText? (c.skipWhile (· == ' '))
    if endsLineOrSpace c.head then some (.tagDirective handle start, c) else none

def directive (c : Cursor) : Except Fault (Token × Cursor) :=
  let (name, c) := c.step.takeWhile isNameChar
  if name.isEmpty || !endsLineOrSpace c.head then .error .malformed
  else
    match String.ofList name with
    | "YAML" => version c
    | "TAG" => orMalformed (tagStart? c)
    | _ => .ok (.otherDirective, c.skipWhile (!isBreak ·))

end EnvDoctor.Yaml
