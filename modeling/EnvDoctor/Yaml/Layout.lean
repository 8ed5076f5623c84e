import EnvDoctor.Yaml.Property
import EnvDoctor.Yaml.Scalar

/-!
# Layout of a YAML text

A text becomes a list of tokens. Indentation opens and closes block collections, and a colon turns
what stands before it on its line into a key. A token that may turn out to be a key is remembered
for each level of flow collections until the line ends, or for 1024 characters.
-/

namespace EnvDoctor.Yaml

/-- A token that a colon may turn into a key. It must become one if `required`, because nothing
else can stand at its column. -/
structure PossibleKey where
  /-- The number of tokens before it. -/
  token : Nat
  required : Bool
  index : Nat
  line : Nat
  column : Nat

structure Layout where
  cursor : Cursor
  /-- The tokens so far, the last one first. -/
  tokens : List Token
  /-- The column of the innermost block collection. -/
  indent : Int
  /-- The columns of the block collections around it. -/
  outer : List Int
  keyAllowed : Bool
  /-- The possible key of the innermost flow level. -/
  possible : Option PossibleKey
  /-- The possible keys of the levels around it; there are as many as open flow collections. -/
  possibleOuter : List (Option PossibleKey)

/-- Puts a token before the last `n` ones of a list that starts with the last one. -/
def insertBefore (n : Nat) (token : Token) (tokens : List Token) : List Token :=
  tokens.take n ++ token :: tokens.drop n

namespace Layout

def start (text : List Char) : Layout :=
  ⟨.start text, [], -1, [], true, none, []⟩

def inFlow (s : Layout) : Bool :=
  !s.possibleOuter.isEmpty

def push (s : Layout) (token : Token) : Layout :=
  { s with tokens := token :: s.tokens }

def emit (s : Layout) (result : Token × Cursor) : Layout :=
  { s with tokens := result.1 :: s.tokens, cursor := result.2 }

def emitSigns (s : Layout) (token : Token) (count : Nat) : Layout :=
  s.emit (token, s.cursor.steps count)

/-- Passes blanks, comments and line ends. Outside flow collections a key may follow a line end. -/
def skipBlank (s : Layout) : (fuel : Nat) → Layout
  | 0 => s
  | fuel + 1 =>
    let c := s.cursor.skipWhile (· == ' ')
    let c := if c.at_ '#' then c.skipWhile (!isBreak ·) else c
    let (br, next) := c.lineBreak
    if br.isEmpty then { s with cursor := c }
    else skipBlank { s with cursor := next, keyAllowed := s.keyAllowed || !s.inFlow } fuel

def isStale (c : Cursor) (key : PossibleKey) : Bool :=
  key.line != c.line || c.index - key.index > 1024

/-- Forgets a possible key that cannot become a key any more, unless it had to become one. -/
def dropStale? (c : Cursor) : Option PossibleKey → Option (Option PossibleKey)
  | none => some none
  | some key =>
    if !isStale c key then some (some key) else if key.required then none else some none

def dropAllStale? (s : Layout) : Option Layout := do
  let possible ← dropStale? s.cursor s.possible
  let possibleOuter ← s.possibleOuter.mapM (dropStale? s.cursor)
  some { s with possible, possibleOuter }

/-- Forgets the possible key of this level, which must not have to become a key. -/
def forgetKey? (s : Layout) : Option Layout :=
  if s.possible.any (·.required) then none else some { s with possible := none }

def rememberKey? (s : Layout) : Option Layout :=
  if s.keyAllowed then do
    let s ← s.forgetKey?
    let c := s.cursor
    let required := !s.inFlow && s.indent == c.column
    some { s with possible := some ⟨s.tokens.length, required, c.index, c.line, c.column⟩ }
  else some s

def unwind (column : Int) (s : Layout) : Layout :=
  if s.inFlow then s
  else
    let rec go (indent : Int) : List Int → List Token → Layout
      | [], tokens => { s with indent, outer := [], tokens }
      | below :: outer, tokens =>
        if indent > column then go below outer (.blockEnd :: tokens)
        else { s with indent, outer := below :: outer, tokens }
    go s.indent s.outer s.tokens

/-- Starts a block collection at a column if it is indented more than the innermost one. Its first
token stands before the last `back` tokens. -/
def openBlock (s : Layout) (column : Nat) (token : Token) (back : Nat) : Layout :=
  if s.indent < column then
    { s with
      indent := column
      outer := s.indent :: s.outer
      tokens := insertBefore back token s.tokens }
  else s

def finish? (s : Layout) : Option Layout :=
  (s.unwind (-1)).forgetKey?

/-- Between documents all blocks end and no key may follow on the same line. -/
def betweenDocuments? (s : Layout) : Option Layout := do
  let s ← (s.unwind (-1)).forgetKey?
  some { s with keyAllowed := false }

def directive (s : Layout) : Except Fault Layout := do
  let s ← orMalformed s.betweenDocuments?
  let (token, c) ← Yaml.directive s.cursor
  let c ← orMalformed (ignoredLine? c)
  return s.emit (token, c)

def documentMark? (token : Token) (s : Layout) : Option Layout := do
  let s ← s.betweenDocuments?
  some (s.emitSigns token 3)

def openFlow? (token : Token) (s : Layout) : Option Layout := do
  let s ← s.rememberKey?
  some { s with
    possible := none
    possibleOuter := s.possible :: s.possibleOuter
    keyAllowed := true } |>.map (·.emitSigns token 1)

def closeFlow? (token : Token) (s : Layout) : Option Layout := do
  let s ← s.forgetKey?
  match s.possibleOuter with
  | [] => none
  | possible :: possibleOuter =>
    some ({ s with possible, possibleOuter, keyAllowed := false }.emitSigns token 1)

def flowEntry? (s : Layout) : Option Layout := do
  let s ← s.forgetKey?
  some ({ s with keyAllowed := true }.emitSigns .flowEntry 1)

def blockEntry? (s : Layout) : Option Layout := do
  if !s.inFlow && !s.keyAllowed then none
  else
    let s := if s.inFlow then s else s.openBlock s.cursor.column .blockSequenceStart 0
    let s ← s.forgetKey?
    some ({ s with keyAllowed := true }.emitSigns .blockEntry 1)

def keySign? (token : Token) (s : Layout) : Option Layout := do
  if !s.inFlow && !s.keyAllowed then none
  else
    let s := if s.inFlow then s else s.openBlock s.cursor.column .blockMappingStart 0
    let s ← s.forgetKey?
    some ({ s with keyAllowed := !s.inFlow }.emitSigns token 1)

/-- A colon. A possible key becomes a key. -/
def value? (s : Layout) : Option Layout :=
  match s.possible with
  | none => s.keySign? .value
  | some key =>
    let back := s.tokens.length - key.token
    let s := { s with tokens := insertBefore back .key s.tokens }
    let s := if s.inFlow then s else s.openBlock key.column .blockMappingStart (back + 1)
    some ({ s with possible := none, keyAllowed := false }.emitSigns .value 1)

def keyToken (read : Cursor → Except Fault (Token × Cursor)) (s : Layout) :
    Except Fault Layout := do
  let s ← orMalformed s.rememberKey?
  let result ← read s.cursor
  return { s with keyAllowed := false }.emit result

def quoted (double : Bool) : Layout → Except Fault Layout :=
  keyToken fun c => do
    let (chars, c) ← quotedScalar double c
    return (.scalar (String.ofList chars) false, c)

def named (token : String → Token) : Layout → Except Fault Layout :=
  keyToken fun c => orMalformed ((anchorName? c).map fun r => (token r.1, r.2))

def block? (folded : Bool) (s : Layout) : Option Layout := do
  let s ← s.forgetKey?
  let (chars, c) ← Yaml.block? folded s.indent s.cursor
  some ({ s with keyAllowed := true }.emit (.scalar (String.ofList chars) false, c))

def plain? (s : Layout) : Option Layout := do
  let s ← s.rememberKey?
  let (chars, broken, c) := Yaml.plain s.inFlow (s.indent + 1) s.cursor
  if chars.isEmpty then none
  else some ({ s with keyAllowed := broken }.emit (.scalar (String.ofList chars) true, c))

def startsPlain (inFlow : Bool) (x : Char) (next : Option Char) : Bool :=
  let special := endsWord (some x) || ['-', '?', ':', ',', '[', ']', '\x7b', '\x7d', '#', '&',
    '*', '!', '|', '>', '\'', '"', '%', '@', '\x60'].contains x
  !special || (!endsWord next && (x == '-' || (!inFlow && (x == '?' || x == ':'))))

/-- A sign that opens, closes or parts collections and starts with `x`. -/
def sign? (s : Layout) (x : Char) : Option Layout :=
  let blankFollows := endsWord (s.cursor.peek 1)
  let atMark := s.cursor.column == 0 && s.cursor.atDocumentMark
  if x == '-' && atMark then s.documentMark? .documentStart
  else if x == '.' && atMark then s.documentMark? .documentEnd
  else if x == '[' then s.openFlow? .flowSequenceStart
  else if x == '\x7b' then s.openFlow? .flowMappingStart
  else if x == ']' then s.closeFlow? .flowSequenceEnd
  else if x == '\x7d' then s.closeFlow? .flowMappingEnd
  else if x == ',' then s.flowEntry?
  else if x == '-' && blankFollows then s.blockEntry?
  else if x == '?' && (s.inFlow || blankFollows) then s.keySign? .key
  else if x == ':' && (s.inFlow || blankFollows) then s.value?
  else if x == '|' && !s.inFlow then s.block? false
  else if x == '>' && !s.inFlow then s.block? true
  else if startsPlain s.inFlow x (s.cursor.peek 1) then s.plain?
  else none

def token (s : Layout) (x : Char) : Except Fault Layout :=
  if x == '%' && s.cursor.column == 0 then s.directive
  else
    match x with
    | '*' => s.named .alias
    | '&' => s.named .anchor
    | '!' => s.keyToken fun c => orMalformed (tag? c)
    | '\'' => s.quoted false
    | '"' => s.quoted true
    | _ => orMalformed (s.sign? x)

/-- How many tokens are sure. A token that a colon may still turn into a key is not, nor is one
after it. -/
def sureTokens (s : Layout) : Nat :=
  let live := (s.possible :: s.possibleOuter).filterMap id |>.filter (!isStale s.cursor ·)
  (live.map (·.token)).foldl min s.tokens.length

/-- Ends the tokens with a fault. Tokens that are not sure yet are taken back, because none of
them is looked at before the fault comes up. -/
def breakOff (s : Layout) (f : Fault) : Layout :=
  { s with tokens := .fault f :: s.tokens.drop (s.tokens.length - s.sureTokens) }

def run : (fuel : Nat) → Layout → Except Fault Layout
  | 0, _ => .error .malformed
  | fuel + 1, s => do
    let next ← orMalformed (s.skipBlank (s.cursor.rest.length + 1)).dropAllStale?
    match next.cursor.head with
    | none => orMalformed next.finish?
    | some x =>
      match (next.unwind next.cursor.column).token x with
      | .ok after => run fuel after
      | .error .malformed => .error .malformed
      | .error f => .ok (s.breakOff f)

end Layout

def isAllowed (c : Char) : Bool :=
  let n := c.toNat
  n == 0x09 || n == 0x0A || n == 0x0D || (0x20 ≤ n && n ≤ 0x7E) || n == 0x85 ||
    (0xA0 ≤ n && n ≤ 0xFFFD) || 0x10000 ≤ n

/-- The tokens of a text. A byte order mark in front does not count. -/
def tokens (text : List Char) : Except Fault (List Token) :=
  if !text.all isAllowed then .error .malformed
  else
    let start := Layout.start text
    let start := if text.head? = some '\uFEFF' then { start with cursor := start.cursor.step }
      else start
    (Layout.run (text.length + 1) start).map (·.tokens.reverse)

end EnvDoctor.Yaml
