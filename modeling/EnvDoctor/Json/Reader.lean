import EnvDoctor.Decimal.Shortest
import EnvDoctor.Json.Fault
import EnvDoctor.Text.Surrogate
import EnvDoctor.Value.Basic

/-!
# Reading JSON

A JSON document is read into a value. Beyond the standard the words `NaN`, `Infinity` and
`-Infinity` are numbers, and of a repeated key the last value counts, at the place of the first.
Whole numbers are exact; numbers with a point or an exponent are doubles.
-/

namespace EnvDoctor.Json

def isSpace (c : Char) : Bool :=
  c == ' ' || c == '\t' || c == '\n' || c == '\r'

def skipSpace (s : List Char) : List Char :=
  s.dropWhile isSpace

def failAt {α : Type} (cause : Cause) (s : List Char) : Except Fault α :=
  .error (.malformed cause s.length)

def escape? : Char → Option Char
  | '"' => some '"'
  | '\\' => some '\\'
  | '/' => some '/'
  | 'b' => some '\x08'
  | 'f' => some '\x0c'
  | 'n' => some '\n'
  | 'r' => some '\r'
  | 't' => some '\t'
  | _ => none

/-- The value of four hexadecimal digits that begin a text, and the rest, which is not empty. -/
def hex4? : List Char → Option (Nat × List Char)
  | a :: b :: c :: d :: rest =>
    if !rest.isEmpty && [a, b, c, d].all Text.isHexDigit then
      some (Text.valueInBase 16 [a, b, c, d], rest)
    else none
  | _ => none

def isHighSurrogate (n : Nat) : Bool :=
  0xD800 ≤ n && n ≤ 0xDBFF

def isLowSurrogate (n : Nat) : Bool :=
  0xDC00 ≤ n && n ≤ 0xDFFF

/-- Reads the digits of a `\u` escape, together with a second escape if both make a pair. `s`
begins after the letter. -/
def unicodeEscape (s : List Char) : Except Fault (Char × List Char) :=
  match hex4? s with
  | none => .error (.malformed .invalidUnicodeEscape (s.length + 1))
  | some (high, rest) =>
    match rest with
    | '\\' :: 'u' :: more =>
      if isHighSurrogate high && 4 < more.length then
        match hex4? more with
        | none => .error (.malformed .invalidUnicodeEscape (more.length + 1))
        | some (low, rest') =>
          if isLowSurrogate low then
            .ok (Char.ofNat (0x10000 + (high - 0xD800) * 0x400 + (low - 0xDC00)), rest')
          else .ok (Text.charOf high, rest)
      else .ok (Text.charOf high, rest)
    | _ => .ok (Text.charOf high, rest)

/-- Reads the characters of a string up to its closing quote. `start` is the number of characters
from its opening quote to the end of the text. -/
def stringChars (start : Nat) : (fuel : Nat) → List Char → Except Fault (List Char × List Char)
  | 0, _ => .error (.malformed .unterminatedString start)
  | _ + 1, [] => .error (.malformed .unterminatedString start)
  | fuel + 1, c :: rest =>
    if c = '"' then .ok ([], rest)
    else if c.toNat < 0x20 then failAt .controlCharacter (c :: rest)
    else if c = '\\' then
      match rest with
      | [] => .error (.malformed .unterminatedString start)
      | 'u' :: digits => do
        let (d, rest) ← unicodeEscape digits
        let (cs, rest) ← stringChars start fuel rest
        return (d :: cs, rest)
      | letter :: more =>
        match escape? letter with
        | none => failAt .invalidEscape (c :: rest)
        | some d => do
          let (cs, rest) ← stringChars start fuel more
          return (d :: cs, rest)
    else do
      let (cs, rest) ← stringChars start fuel rest
      return (c :: cs, rest)

def string (s : List Char) : Except Fault (String × List Char) := do
  let (cs, rest) ← stringChars (s.length + 1) (s.length + 1) s
  return (String.ofList cs, rest)

/-- The digits of a whole number without leading zeros. -/
def wholeDigits? : List Char → Option (List Char × List Char)
  | '0' :: rest => some (['0'], rest)
  | c :: rest =>
    if c.isDigit then some (c :: rest.takeWhile Char.isDigit, rest.dropWhile Char.isDigit)
    else none
  | [] => none

def fractionDigits (s : List Char) : List Char × List Char :=
  match s with
  | '.' :: rest =>
    let ds := rest.takeWhile Char.isDigit
    if ds.isEmpty then ([], s) else (ds, rest.dropWhile Char.isDigit)
  | _ => ([], s)

def exponent? (s : List Char) : Option Int × List Char :=
  match s with
  | e :: rest =>
    if e = 'e' ∨ e = 'E' then
      let (negative, digits) := match rest with
        | '-' :: more => (true, more)
        | '+' :: more => (false, more)
        | _ => (false, rest)
      let ds := digits.takeWhile Char.isDigit
      if ds.isEmpty then (none, s)
      else
        let n : Int := Text.digitsValue ds
        (some (if negative then -n else n), digits.dropWhile Char.isDigit)
    else (none, s)
  | [] => (none, s)

def number (s : List Char) : Except Fault (Value × List Char) :=
  let (negative, body) := match s with
    | '-' :: rest => (true, rest)
    | _ => (false, s)
  match wholeDigits? body with
  | none => failAt .expectingValue s
  | some (whole, rest) =>
    let (fraction, rest) := fractionDigits rest
    let (exponent, rest) := exponent? rest
    if fraction.isEmpty && exponent.isNone then
      match Numeral.read whole with
      | .error numeral => .error (.tooLong numeral)
      | .ok n => .ok (.int (if negative then -n else n), rest)
    else
      let digits := Text.digitsValue (whole ++ fraction)
      .ok (.real (Decimal.toFloat negative digits (exponent.getD 0 - fraction.length)), rest)

def wordValues : List (List Char × Value) :=
  [("null".toList, .null), ("true".toList, .bool true), ("false".toList, .bool false),
   ("NaN".toList, .real (0 / 0)), ("Infinity".toList, .real (1 / 0)),
   ("-Infinity".toList, .real (-1 / 0))]

def scalar (s : List Char) : Except Fault (Value × List Char) :=
  let word := wordValues.findSome? fun w => (w.1.isPrefixOf? s).map fun rest => (w.2, rest)
  match word with
  | some r => .ok r
  | none => number s

mutual

def value : (fuel : Nat) → List Char → Except Fault (Value × List Char)
  | 0, s => failAt .expectingValue s
  | _ + 1, [] => failAt .expectingValue []
  | _ + 1, '"' :: rest => do
    let (s, rest) ← string rest
    return (.text s, rest)
  | fuel + 1, '\x7b' :: rest =>
    match skipSpace rest with
    | '\x7d' :: rest => .ok (.table [], rest)
    | rest => do
      let (entries, rest) ← members fuel rest
      return (Value.tableOf entries, rest)
  | fuel + 1, '[' :: rest =>
    match skipSpace rest with
    | ']' :: rest => .ok (.list [], rest)
    | rest => do
      let (items, rest) ← elements fuel rest
      return (.list items, rest)
  | _ + 1, s => scalar s

/-- Reads the members of an object, of which there is at least one, and its closing brace. -/
def members : (fuel : Nat) → List Char → Except Fault (List (Value × Value) × List Char)
  | 0, s => failAt .expectingName s
  | fuel + 1, '"' :: rest => do
    let (key, rest) ← string rest
    match skipSpace rest with
    | ':' :: rest =>
      let (v, rest) ← value fuel (skipSpace rest)
      match skipSpace rest with
      | '\x7d' :: rest => return ([(.text key, v)], rest)
      | ',' :: rest =>
        let (more, rest) ← members fuel (skipSpace rest)
        return ((.text key, v) :: more, rest)
      | rest => failAt .expectingComma rest
    | rest => failAt .expectingColon rest
  | _ + 1, s => failAt .expectingName s

def elements : (fuel : Nat) → List Char → Except Fault (List Value × List Char)
  | 0, s => failAt .expectingValue s
  | fuel + 1, s => do
    let (v, rest) ← value fuel s
    match skipSpace rest with
    | ']' :: rest => return ([v], rest)
    | ',' :: rest =>
      let (more, rest) ← elements fuel (skipSpace rest)
      return (v :: more, rest)
    | rest => failAt .expectingComma rest

end

/-- Reads a document. Blanks may stand around it, a byte order mark may not. -/
def read (s : List Char) : Except Fault Value :=
  match s with
  | '\uFEFF' :: _ => failAt .byteOrderMark s
  | _ => do
    let (v, rest) ← value (2 * s.length + 2) (skipSpace s)
    match skipSpace rest with
    | [] => return v
    | rest => failAt .extraData rest

end EnvDoctor.Json
