import EnvDoctor.Decimal.Shortest
import EnvDoctor.Numeral.Whole
import EnvDoctor.Script.Fault
import EnvDoctor.Text.CharacterName
import EnvDoctor.Text.Identifier
import EnvDoctor.Text.Surrogate
import EnvDoctor.Value.Basic

/-!
# Literals of scripts

The literals that a script may assign: texts in single or double quotes, numbers, the words `None`,
`True` and `False`, and lists, tuples and tables of literals. Inside brackets line ends and
comments do not count, and a backslash at the end of a line takes its end away everywhere. A
literal that is well written has an outcome: a value, or the reason why it has none.
-/

namespace EnvDoctor.Script

/-- What a literal comes to when a script is run. -/
abbrev Outcome := Except Fault Value

def isSpace (c : Char) : Bool :=
  c == ' ' || c == '\t' || c == '\x0c'

def skipComment (s : List Char) : List Char :=
  match s with
  | '#' :: rest => rest.dropWhile (· != '\n')
  | _ => s

/-- Drops blanks and line ends after a backslash; inside brackets all line ends and comments too.
`comment` tells that a comment has begun. -/
def skipFrom (inside comment : Bool) : List Char → List Char
  | [] => []
  | '\\' :: '\n' :: rest => skipFrom inside false rest
  | c :: rest =>
    if comment then skipFrom inside (c != '\n') rest
    else if isSpace c || (inside && c == '\n') then skipFrom inside false rest
    else if inside && c == '#' then skipFrom inside true rest
    else c :: rest

/-- Drops what stands between the parts of a literal, inside brackets or outside. -/
def skip (inside : Bool) (s : List Char) : List Char :=
  skipFrom inside false s

def escapeLetter? : Char → Option Char
  | '\\' => some '\\'
  | '\'' => some '\''
  | '"' => some '"'
  | 'a' => some '\x07'
  | 'b' => some '\x08'
  | 'f' => some '\x0c'
  | 'n' => some '\n'
  | 'r' => some '\r'
  | 't' => some '\t'
  | 'v' => some '\x0b'
  | _ => none

def escapeWidth? : Char → Option Nat
  | 'x' => some 2
  | 'u' => some 4
  | 'U' => some 8
  | _ => none

def named? (s : List Char) : Option (List Char × List Char) := do
  let body ← ['\x7b'].isPrefixOf? s
  let name := body.takeWhile (· != '\x7d')
  let rest ← ['\x7d'].isPrefixOf? (body.drop name.length)
  let code ← Text.codeOfName? name
  return ([Text.charOf code], rest)

/-- The characters that a backslash and what follows it stand for. An unknown letter keeps its
backslash. -/
def escape? (s : List Char) : Option (List Char × List Char) :=
  match s with
  | [] => none
  | c :: rest =>
    if c = '\n' then some ([], rest)
    else if c = 'N' then named? rest
    else
      match escapeLetter? c, escapeWidth? c with
      | some d, _ => some ([d], rest)
      | none, some width =>
        let ds := rest.take width
        let n := Text.valueInBase 16 ds
        if ds.length = width && ds.all Text.isHexDigit && n < 0x110000 then
          some ([Text.charOf n], rest.drop width)
        else none
      | none, none =>
        let ds := (s.take 3).takeWhile Text.isOctalDigit
        if ds.isEmpty then some (['\\', c], rest)
        else some ([Char.ofNat (Text.valueInBase 8 ds)], s.drop ds.length)

def textChars? (quote : Char) (long raw : Bool) : (fuel : Nat) → List Char →
    Option (List Char × List Char)
  | 0, _ | _ + 1, [] => none
  | fuel + 1, c :: rest =>
    if c = quote && !long then some ([], rest)
    else if c = quote && [quote, quote].isPrefixOf rest then some ([], rest.drop 2)
    else if c = '\n' && !long then none
    else if c = '\\' && raw then do
      let (more, tail) ← textChars? quote long raw fuel (rest.drop 1)
      some (c :: rest.take 1 ++ more, tail)
    else if c = '\\' then do
      let (cs, rest) ← escape? rest
      let (more, rest) ← textChars? quote long raw fuel rest
      some (cs ++ more, rest)
    else do
      let (more, rest) ← textChars? quote long raw fuel rest
      some (c :: more, rest)

/-- A text in quotes. An `r` in front leaves backslashes as they are, and a `u` means nothing. -/
def quotedText? (s : List Char) : Option (List Char × List Char) :=
  let raw := s.head? = some 'r' || s.head? = some 'R'
  let marked := raw || s.head? = some 'u' || s.head? = some 'U'
  match if marked then s.tail else s with
  | quote :: rest =>
    if quote ≠ '\'' ∧ quote ≠ '"' then none
    else if [quote, quote].isPrefixOf rest then
      textChars? quote true raw (rest.length + 1) (rest.drop 2)
    else textChars? quote false raw (rest.length + 1) rest
  | [] => none

/-- Texts that stand side by side make one text. -/
def texts? (inside : Bool) : (fuel : Nat) → List Char → Option (List Char × List Char)
  | 0, _ => none
  | fuel + 1, s => do
    let (cs, rest) ← quotedText? s
    match texts? inside fuel (skip inside rest) with
    | some (more, rest) => some (cs ++ more, rest)
    | none => some (cs, rest)

/-- Digits of some kind with single underscores between them, without the underscores. -/
def digitRun (isDigit : Char → Bool) : List Char → List Char × List Char
  | '_' :: c :: rest =>
    if isDigit c then
      let (ds, rest) := digitRun isDigit rest
      (c :: ds, rest)
    else ([], '_' :: c :: rest)
  | c :: rest =>
    if isDigit c then
      let (ds, rest) := digitRun isDigit rest
      (c :: ds, rest)
    else ([], c :: rest)
  | [] => ([], [])

def digits (s : List Char) : List Char × List Char :=
  if s.head? = some '_' then ([], s) else digitRun Char.isDigit s

def exponent? (s : List Char) : Option Int × List Char :=
  match s with
  | e :: rest =>
    let (negative, body) := Text.splitSign rest
    let (ds, tail) := digits body
    if (e = 'e' ∨ e = 'E') ∧ !ds.isEmpty then
      let n : Int := Text.digitsValue ds
      (some (if negative then -n else n), tail)
    else (none, s)
  | [] => (none, s)

def markedBase? (s : List Char) : Option (Nat × List Char) :=
  match s with
  | '0' :: mark :: rest =>
    ([2, 8, 16].find? (Numeral.isMark · mark)).map fun base => (base, rest)
  | _ => none

/-- A number without a sign. A whole number in base ten other than zero begins with no zero. -/
def number (s : List Char) : Except Fault (Outcome × List Char) :=
  match markedBase? s with
  | some (base, rest) =>
    match digitRun (Numeral.isDigitIn base) rest with
    | ([], _) => .error (.malformed s.length)
    | (ds, rest) => .ok (.ok (.int (Text.valueInBase base ds)), rest)
  | none =>
    let (whole, rest) := digits s
    let (point, fraction, rest) := match rest with
      | '.' :: more =>
        let (ds, more) := digits more
        (true, ds, more)
      | _ => (false, [], rest)
    let (exponent, rest) := exponent? rest
    if whole.isEmpty && fraction.isEmpty then .error (.malformed s.length)
    else if point || exponent.isSome then
      let n := Text.digitsValue (whole ++ fraction)
      .ok (.ok (.real (Decimal.toFloat false n (exponent.getD 0 - fraction.length))), rest)
    else if whole.head? = some '0' && whole.any (· != '0') then .error (.malformed s.length)
    else
      match Numeral.read whole with
      | .error numeral => .error (.numeralTooLong numeral s.length)
      | .ok n => .ok (.ok (.int n), rest)

/-- A value with a sign in front. A truth value counts as a number. -/
def signed (sign : Char) (v : Value) : Outcome :=
  let negate := sign = '-'
  match v with
  | .real x => .ok (.real (if negate then -x else x))
  | v =>
    match v.wholeNumber? with
    | some n => .ok (.int (if negate then -n else n))
    | none => .error (.noSign sign v.kind)

def wordValue? : String → Option Value
  | "None" => some .null
  | "True" => some (.bool true)
  | "False" => some (.bool false)
  | _ => none

def wordOrNumber (s : List Char) : Except Fault (Outcome × List Char) :=
  match wordValue? (String.ofList (s.takeWhile Text.isIdentifierPart)) with
  | some v => .ok (.ok v, s.dropWhile Text.isIdentifierPart)
  | none => number s

/-- A table of entries. The parts of all entries come before the first key is used. -/
def tableOutcome (entries : List (Outcome × Outcome)) : Outcome := do
  let entries ← entries.mapM fun e => do return (← e.1, ← e.2)
  match entries.findSome? fun e => e.1.keyFault? with
  | some kind => .error (.noKey kind)
  | none => .ok (.tableOf entries)

mutual

def literal (inside : Bool) (fuel : Nat) (s : List Char) : Except Fault (Outcome × List Char) :=
  match fuel with
  | 0 => .error (.malformed s.length)
  | fuel + 1 =>
    match s with
    | '[' :: rest => do
      let (items, _, rest) ← items ']' fuel (skip true rest)
      .ok (Value.list <$> items.mapM id, rest)
    | '(' :: rest => do
      let (items, comma, rest) ← items ')' fuel (skip true rest)
      match items, comma with
      | [item], false => .ok (item, rest)
      | _, _ => .ok (Value.tuple <$> items.mapM id, rest)
    | '\x7b' :: rest => do
      let (entries, rest) ← entries fuel (skip true rest)
      .ok (tableOutcome entries, rest)
    | c :: rest =>
      if c = '-' || c = '+' then do
        let (operand, rest) ← literal inside fuel (skip inside rest)
        .ok (operand.bind (signed c), rest)
      else
        match texts? inside (s.length + 1) s with
        | some (cs, rest) => .ok (.ok (.text (String.ofList cs)), rest)
        | none => wordOrNumber s
    | [] => .error (.malformed 0)

/-- Reads items up to a closing bracket, and whether a comma stands after one of them. -/
def items (closing : Char) (fuel : Nat) (s : List Char) :
    Except Fault (List Outcome × Bool × List Char) :=
  match fuel with
  | 0 => .error (.malformed s.length)
  | fuel + 1 =>
    if s.head? = some closing then .ok ([], false, s.tail)
    else do
      let (v, rest) ← literal true fuel s
      let rest := skip true rest
      if rest.head? = some ',' then
        let (more, _, rest) ← items closing fuel (skip true rest.tail)
        .ok (v :: more, true, rest)
      else if rest.head? = some closing then .ok ([v], false, rest.tail)
      else .error (.malformed rest.length)

def entries (fuel : Nat) (s : List Char) :
    Except Fault (List (Outcome × Outcome) × List Char) :=
  match fuel with
  | 0 => .error (.malformed s.length)
  | fuel + 1 =>
    if s.head? = some '\x7d' then .ok ([], s.tail)
    else do
      let (key, rest) ← literal true fuel s
      let rest := skip true rest
      unless rest.head? = some ':' do .error (.malformed rest.length)
      let (v, rest) ← literal true fuel (skip true rest.tail)
      let rest := skip true rest
      if rest.head? = some ',' then
        let (more, rest) ← entries fuel (skip true rest.tail)
        .ok ((key, v) :: more, rest)
      else if rest.head? = some '\x7d' then .ok ([(key, v)], rest.tail)
      else .error (.malformed rest.length)

end

def fuelFor (s : List Char) : Nat :=
  2 * s.length + 2

end EnvDoctor.Script
