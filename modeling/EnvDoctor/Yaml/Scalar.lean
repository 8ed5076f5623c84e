import EnvDoctor.Text.Surrogate
import EnvDoctor.Yaml.Cursor
import EnvDoctor.Yaml.Fault

/-!
# Scalars of YAML

The four ways to write a scalar: plain, in single or double quotes, and as a block. Line ends
inside a scalar are folded into spaces, except in literal blocks.
-/

namespace EnvDoctor.Yaml

/-- What a plain scalar has been scanned to. `broken` tells that a line end has been passed. -/
structure PlainSpaces where
  text : List Char
  broken : Bool
  cursor : Cursor

/-- Line ends and spaces that follow a line end inside a plain scalar, or nothing if a mark between
documents comes up. -/
def plainBreaks : (fuel : Nat) → Cursor → Option (List Char) × Cursor
  | 0, c => (none, c)
  | fuel + 1, c =>
    if c.atDocumentMark then (none, c)
    else
      let c := c.skipWhile (· == ' ')
      let (br, next) := c.lineBreak
      if br.isEmpty then (some [], c)
      else
        let (more, c) := plainBreaks fuel next
        (more.map (br ++ ·), c)

def plainSpaces (c : Cursor) : PlainSpaces :=
  let (spaces, c) := c.takeWhile (· == ' ')
  let (br, next) := c.lineBreak
  if br.isEmpty then ⟨spaces, false, c⟩
  else
    match plainBreaks (next.rest.length + 1) next with
    | (none, c) => ⟨[], true, c⟩
    | (some breaks, c) =>
      let folded := if br ≠ ['\n'] then br else if breaks.isEmpty then [' '] else []
      ⟨folded ++ breaks, true, c⟩

/-- The length of the word of a plain scalar that comes next. A colon ends it before a blank, in
a flow collection also before the signs of flow collections. -/
def plainWordLength (inFlow : Bool) : List Char → Nat
  | [] => 0
  | x :: rest =>
    let flowSign (y : Char) := y == ',' || y == '[' || y == ']' || y == '\x7b' || y == '\x7d'
    let colonEnds := x == ':' &&
      (endsWord rest.head? || (inFlow && rest.head?.any flowSign))
    if endsWord (some x) || colonEnds || (inFlow && (flowSign x || x == '?')) then 0
    else plainWordLength inFlow rest + 1

/-- A plain scalar, whether a line end has been passed after its last word, and the rest.
`indent` is the least column of its further lines. -/
def plainFrom (inFlow : Bool) (indent : Int) (spaces : List Char) (broken : Bool) :
    (fuel : Nat) → Cursor → List Char × Bool × Cursor
  | 0, c => ([], broken, c)
  | fuel + 1, c =>
    if c.at_ '#' then ([], broken, c)
    else
      let length := plainWordLength inFlow c.rest
      if length = 0 then ([], broken, c)
      else
        let word := c.rest.take length
        let gap := plainSpaces (c.steps length)
        let head := spaces ++ word
        if gap.text.isEmpty || gap.cursor.at_ '#' || (!inFlow && gap.cursor.column < indent) then
          (head, gap.broken, gap.cursor)
        else
          let (more, broken, c) := plainFrom inFlow indent gap.text gap.broken fuel gap.cursor
          (head ++ more, broken, c)

def plain (inFlow : Bool) (indent : Int) (c : Cursor) : List Char × Bool × Cursor :=
  plainFrom inFlow indent [] false (c.rest.length + 1) c

def escapeLetter? : Char → Option Char
  | '0' => some '\x00'
  | 'a' => some '\x07'
  | 'b' => some '\x08'
  | 't' => some '\t'
  | '\t' => some '\t'
  | 'n' => some '\n'
  | 'v' => some '\x0b'
  | 'f' => some '\x0c'
  | 'r' => some '\r'
  | 'e' => some '\x1b'
  | ' ' => some ' '
  | '"' => some '"'
  | '\\' => some '\\'
  | '/' => some '/'
  | 'N' => some '\x85'
  | '_' => some '\xa0'
  | 'L' => some '\u2028'
  | 'P' => some '\u2029'
  | _ => none

def escapeWidth? : Char → Option Nat
  | 'x' => some 2
  | 'u' => some 4
  | 'U' => some 8
  | _ => none

/-- Line ends and blanks that follow a line end inside quotes. A mark between documents must not
come up. -/
def quotedBreaks? : (fuel : Nat) → Cursor → Option (List Char × Cursor)
  | 0, _ => none
  | fuel + 1, c =>
    if c.atDocumentMark then none
    else
      let c := c.skipWhile isSpaceOrTab
      let (br, next) := c.lineBreak
      if br.isEmpty then some ([], c)
      else do
        let (more, c) ← quotedBreaks? fuel next
        some (br ++ more, c)

def quotedSpaces? (c : Cursor) : Option (List Char × Cursor) :=
  let (spaces, c) := c.takeWhile isSpaceOrTab
  if c.rest.isEmpty then none
  else
    let (br, next) := c.lineBreak
    if br.isEmpty then some (spaces, c)
    else do
      let (breaks, c) ← quotedBreaks? (next.rest.length + 1) next
      let folded := if br ≠ ['\n'] then br else if breaks.isEmpty then [' '] else []
      some (folded ++ breaks, c)

def numberedChar (n : Nat) : Except Fault Char :=
  if n < 0x110000 then .ok (Text.charOf n)
  else if n < 0x80000000 then .error .noCharacter
  else .error .codeTooLarge

def quotedEscape (c : Cursor) : Except Fault (List Char × Cursor) := do
  let x ← orMalformed c.head
  if let some y := escapeLetter? x then return ([y], c.step)
  if let some width := escapeWidth? x then
    let digits := c.step.rest.take width
    if digits.length = width ∧ digits.all Text.isHexDigit then
      return ([← numberedChar (Text.valueInBase 16 digits)], c.step.steps width)
    else throw .malformed
  else if isBreak x then
    let next := c.lineBreak.2
    orMalformed (quotedBreaks? (next.rest.length + 1) next)
  else throw .malformed

/-- A run of characters inside quotes that are no blanks, up to a blank, the closing quote or the
end. -/
def quotedWord (double : Bool) : (fuel : Nat) → Cursor → Except Fault (List Char × Cursor)
  | 0, _ => .error .malformed
  | fuel + 1, c =>
    match c.rest with
    | [] => .ok ([], c)
    | x :: rest =>
      if endsWord (some x) then .ok ([], c)
      else if double then
        if x = '"' then .ok ([], c)
        else if x = '\\' then do
          let (cs, c) ← quotedEscape c.step
          let (more, c) ← quotedWord double fuel c
          return (cs ++ more, c)
        else do
          let (more, c) ← quotedWord double fuel c.step
          return (x :: more, c)
      else if x = '\'' then
        if rest.head? = some '\'' then do
          let (more, c) ← quotedWord double fuel (c.steps 2)
          return ('\'' :: more, c)
        else .ok ([], c)
      else do
        let (more, c) ← quotedWord double fuel c.step
        return (x :: more, c)

def quotedFrom (double : Bool) : (fuel : Nat) → Cursor → Except Fault (List Char × Cursor)
  | 0, _ => .error .malformed
  | fuel + 1, c => do
    let (word, c) ← quotedWord double (c.rest.length + 1) c
    if c.at_ (if double then '"' else '\'') then return (word, c.step)
    let (spaces, c) ← orMalformed (quotedSpaces? c)
    let (more, c) ← quotedFrom double fuel c
    return (word ++ spaces ++ more, c)

def quotedScalar (double : Bool) (c : Cursor) : Except Fault (List Char × Cursor) :=
  quotedFrom double (c.rest.length + 1) c.step

/-- What happens to the line ends at the end of a block: all but one are dropped, all are dropped,
or all are kept. -/
inductive Chomping where
  | clip
  | strip
  | keep
  deriving DecidableEq, Repr

def chomping? (c : Cursor) : Option (Chomping × Cursor) :=
  if c.at_ '+' then some (.keep, c.step)
  else if c.at_ '-' then some (.strip, c.step)
  else none

/-- A digit for the indentation of a block, which must not be zero. -/
def increment? (c : Cursor) : Option (Option Nat × Cursor) :=
  match c.head with
  | some x =>
    if x = '0' then none
    else if x.isDigit then some (some (x.toNat - '0'.toNat), c.step)
    else some (none, c)
  | none => some (none, c)

/-- The chomping and the indentation of a block, in either order. -/
def blockHeader? (c : Cursor) : Option (Chomping × Option Nat × Cursor) := do
  let (chomping, increment, c) ← match chomping? c with
    | some (chomping, c) => do
      let (increment, c) ← increment? c
      pure (chomping, increment, c)
    | none => do
      let (increment, c) ← increment? c
      match increment, chomping? c with
      | some n, some (chomping, c) => pure (chomping, some n, c)
      | _, _ => pure (.clip, increment, c)
  if endsLineOrSpace c.head then some (chomping, increment, c) else none

/-- Drops a comment and the line end after it; nothing else may stand on the line. -/
def ignoredLine? (c : Cursor) : Option Cursor :=
  let c := c.skipWhile (· == ' ')
  let c := if c.at_ '#' then c.skipWhile (!isBreak ·) else c
  if endsLine c.head then some c.lineBreak.2 else none

/-- The empty lines at the beginning of a block, and the greatest column of its leading spaces. -/
def blockStart (most : Nat) : (fuel : Nat) → Cursor → List Char × Nat × Cursor
  | 0, c => ([], most, c)
  | fuel + 1, c =>
    if c.at_ ' ' then blockStart (max most c.step.column) fuel c.step
    else
      let (br, next) := c.lineBreak
      if br.isEmpty then ([], most, c)
      else
        let (more, most, c) := blockStart most fuel next
        (br ++ more, most, c)

def blockBreaks (indent : Nat) : (fuel : Nat) → Cursor → List Char × Cursor
  | 0, c => ([], c)
  | fuel + 1, c =>
    let c := c.indentTo indent
    let (br, next) := c.lineBreak
    if br.isEmpty then ([], c)
    else
      let (more, c) := blockBreaks indent fuel next
      (br ++ more, c)

/-- The lines of a block from the first line that is not empty; `breaks` are the empty lines before
it. -/
def blockLines (folded : Bool) (chomping : Chomping) (indent : Nat) (breaks : List Char) :
    (fuel : Nat) → Cursor → List Char × Cursor
  | 0, c => ([], c)
  | fuel + 1, c =>
    let startsPlain := !c.head.any isSpaceOrTab
    let (line, c) := c.takeWhile (!isBreak ·)
    let (br, next) := c.lineBreak
    let (between, c) := blockBreaks indent (next.rest.length + 1) next
    if c.column = indent && !c.rest.isEmpty then
      let joint :=
        if folded && br == ['\n'] && startsPlain && !c.head.any isSpaceOrTab then
          if between.isEmpty then [' '] else []
        else br
      let (more, c) := blockLines folded chomping indent between fuel c
      (breaks ++ line ++ joint ++ more, c)
    else
      let tail := match chomping with
        | .clip => br
        | .strip => []
        | .keep => br ++ between
      (breaks ++ line ++ tail, c)

/-- A block scalar inside a collection with the given indentation. The cursor stands at the sign of
the block. -/
def block? (folded : Bool) (parent : Int) (c : Cursor) : Option (List Char × Cursor) := do
  let (chomping, increment, c) ← blockHeader? c.step
  let c ← ignoredLine? c
  let least := (max (parent + 1) 1).toNat
  let (breaks, indent, c) := match increment with
    | none =>
      let (breaks, most, c) := blockStart 0 (c.rest.length + 1) c
      (breaks, max least most, c)
    | some n =>
      let indent := least + n - 1
      let (breaks, c) := blockBreaks indent (c.rest.length + 1) c
      (breaks, indent, c)
  if c.column = indent && !c.rest.isEmpty then
    some (blockLines folded chomping indent breaks (c.rest.length + 1) c)
  else some (if chomping = .keep then breaks else [], c)

end EnvDoctor.Yaml
