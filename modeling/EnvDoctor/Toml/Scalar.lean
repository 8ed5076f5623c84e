import EnvDoctor.Text.Ascii
import EnvDoctor.Toml.Fault
import EnvDoctor.Value.Basic

/-!
# TOML scalars

Strings, numbers, dates and times. Each reader takes as much of a text as it can and gives the
rest; what may follow is not its concern.
-/

namespace EnvDoctor.Toml

def isSpace (c : Char) : Bool :=
  c == ' ' || c == '\t'

def isSpaceOrNewline (c : Char) : Bool :=
  isSpace c || c == '\n'

/-- A control character other than the tab. -/
def isControl (c : Char) : Bool :=
  (c.toNat < 0x20 && c != '\t') || c.toNat == 0x7F

def after? (start : String) (s : List Char) : Option (List Char) :=
  start.toList.isPrefixOf? s

def hexChar? (width : Nat) (s : List Char) : Option (Char × List Char) :=
  let ds := s.take width
  let n := Text.valueInBase 16 ds
  if ds.length = width ∧ ds.all Text.isHexDigit ∧ (n < 0xD800 ∨ (0xDFFF < n ∧ n < 0x110000)) then
    some (Char.ofNat n, s.drop width)
  else none

/-- The characters that a backslash and what follows it stand for. `s` begins after the
backslash. In a string of several lines a backslash at the end of a line joins it to the next. -/
def escape? (multiline : Bool) (s : List Char) : Option (List Char × List Char) :=
  match s with
  | [] => none
  | c :: rest =>
    if multiline && isSpaceOrNewline c then
      match s.dropWhile isSpace with
      | [] => some ([], [])
      | '\n' :: more => some ([], more.dropWhile isSpaceOrNewline)
      | _ => none
    else
      match c with
      | 'b' => some (['\x08'], rest)
      | 't' => some (['\t'], rest)
      | 'n' => some (['\n'], rest)
      | 'f' => some (['\x0c'], rest)
      | 'r' => some (['\r'], rest)
      | '"' => some (['"'], rest)
      | '\\' => some (['\\'], rest)
      | 'u' => (hexChar? 4 rest).map fun (c, rest) => ([c], rest)
      | 'U' => (hexChar? 8 rest).map fun (c, rest) => ([c], rest)
      | _ => none

def basicChars? (multiline : Bool) : (fuel : Nat) → List Char → Option (List Char × List Char)
  | 0, _ => none
  | _ + 1, [] => none
  | fuel + 1, c :: rest =>
    if c = '"' && !multiline then some ([], rest)
    else if c = '"' && (after? "\"\"" rest).isSome then some ([], rest.drop 2)
    else if c = '\\' then do
      let (cs, rest) ← escape? multiline rest
      let (more, rest) ← basicChars? multiline fuel rest
      some (cs ++ more, rest)
    else if isControl c && !(multiline && c = '\n') then none
    else do
      let (more, rest) ← basicChars? multiline fuel rest
      some (c :: more, rest)

def literalChars? (multiline : Bool) : List Char → Option (List Char × List Char)
  | [] => none
  | c :: rest =>
    if c = '\'' && !multiline then some ([], rest)
    else if c = '\'' && (after? "''" rest).isSome then some ([], rest.drop 2)
    else if isControl c && !(multiline && c = '\n') then none
    else do
      let (more, rest) ← literalChars? multiline rest
      some (c :: more, rest)

/-- Up to two quotes directly after the closing quotes of a string of several lines belong to
it. -/
def extraQuotes (quote : Char) (cs : List Char) (rest : List Char) : List Char × List Char :=
  match rest with
  | c :: d :: more =>
    if c = quote && d = quote then (cs ++ [c, d], more)
    else if c = quote then (cs ++ [c], d :: more)
    else (cs, rest)
  | [c] => if c = quote then (cs ++ [c], []) else (cs, rest)
  | [] => (cs, rest)

def dropFirstNewline : List Char → List Char
  | '\n' :: rest => rest
  | s => s

def lineString? (s : List Char) : Option (String × List Char) := do
  let (cs, rest) ← match s with
    | '"' :: rest => basicChars? false (rest.length + 1) rest
    | '\'' :: rest => literalChars? false rest
    | _ => none
  some (String.ofList cs, rest)

def string? (s : List Char) : Option (String × List Char) :=
  match after? "\"\"\"" s, after? "'''" s with
  | some rest, _ => do
    let (cs, rest) ← basicChars? true (rest.length + 1) (dropFirstNewline rest)
    let (cs, rest) := extraQuotes '"' cs rest
    some (String.ofList cs, rest)
  | none, some rest => do
    let (cs, rest) ← literalChars? true (dropFirstNewline rest)
    let (cs, rest) := extraQuotes '\'' cs rest
    some (String.ofList cs, rest)
  | none, none => lineString? s

/-- Digits with single underscores between them, without the underscores. -/
def digitRun (isDigit : Char → Bool) : List Char → List Char × List Char
  | [] => ([], [])
  | '_' :: c :: rest =>
    if isDigit c then
      let (ds, rest) := digitRun isDigit rest
      (c :: ds, rest)
    else ([], '_' :: c :: rest)
  | c :: rest =>
    if isDigit c then
      let (ds, rest) := digitRun isDigit rest
      (c :: ds, rest)
    else ([], c :: rest)

def digits? (isDigit : Char → Bool) : List Char → Option (List Char × List Char)
  | [] => none
  | c :: rest =>
    if isDigit c then
      let (ds, rest) := digitRun isDigit rest
      some (c :: ds, rest)
    else none

def based? (s : List Char) : Option (Value × List Char) :=
  let read (start : String) (base : Nat) (isDigit : Char → Bool) := do
    let rest ← after? start s
    let (ds, rest) ← digits? isDigit rest
    some (Value.int (Text.valueInBase base ds), rest)
  (read "0x" 16 Text.isHexDigit).or ((read "0b" 2 fun c => c == '0' || c == '1').or
    (read "0o" 8 Text.isOctalDigit))

/-- The whole part of a decimal number: zero, or digits of which the first is not zero. -/
def wholePart? (s : List Char) : Option (List Char × List Char) :=
  match s with
  | '0' :: rest => some (['0'], rest)
  | _ => digits? Char.isDigit s

def fraction (s : List Char) : List Char × List Char :=
  match s with
  | '.' :: rest => (digits? Char.isDigit rest).getD ([], s)
  | _ => ([], s)

def exponent? (s : List Char) : Option Int × List Char :=
  match s with
  | e :: rest =>
    if e = 'e' ∨ e = 'E' then
      let (negative, digits) := Text.splitSign rest
      match digits? Char.isDigit digits with
      | none => (none, s)
      | some (ds, rest) =>
        let n : Int := Text.digitsValue ds
        (some (if negative then -n else n), rest)
    else (none, s)
  | [] => (none, s)

def decimal (s : List Char) : Except Fault (Value × List Char) := do
  let (negative, body) := Text.splitSign s
  let (whole, rest) ← orMalformed (wholePart? body)
  let (part, rest) := fraction rest
  let (exponent, rest) := exponent? rest
  if part.isEmpty && exponent.isNone then
    let n ← (Numeral.read whole).mapError Fault.tooLong
    return (.int (if negative then -n else n), rest)
  else
    let digits := Text.digitsValue (whole ++ part)
    return (.real (Decimal.toFloat negative digits (exponent.getD 0 - part.length)), rest)

def special? (s : List Char) : Option (Value × List Char) :=
  let (negative, body) := Text.splitSign s
  let infinity : Float := 1 / 0
  match after? "inf" body, after? "nan" body with
  | some rest, _ => some (.real (if negative then -infinity else infinity), rest)
  | none, some rest => some (.real (0 / 0), rest)
  | none, none => none

/-- A fixed number of decimal digits whose value lies in a range. -/
def fixedDigits? (width low high : Nat) (s : List Char) : Option (Nat × List Char) :=
  let ds := s.take width
  let n := Text.digitsValue ds
  if ds.length = width ∧ ds.all Char.isDigit ∧ low ≤ n ∧ n ≤ high then some (n, s.drop width)
  else none

/-- A date, which need not exist. -/
def date? (s : List Char) : Option (Date × List Char) := do
  let (year, s) ← fixedDigits? 4 0 9999 s
  let s ← after? "-" s
  let (month, s) ← fixedDigits? 2 1 12 s
  let s ← after? "-" s
  let (day, s) ← fixedDigits? 2 1 31 s
  some (⟨year, month, day⟩, s)

/-- The microseconds of a fraction of a second; further digits are dropped. -/
def microseconds (s : List Char) : Nat × List Char :=
  match s with
  | '.' :: rest =>
    let ds := rest.takeWhile Char.isDigit
    if ds.isEmpty then (0, s)
    else
      let kept := ds.take 6
      (Text.digitsValue kept * Decimal.tenTo (6 - kept.length), rest.dropWhile Char.isDigit)
  | _ => (0, s)

def clock? (s : List Char) : Option (Clock × List Char) := do
  let (hour, s) ← fixedDigits? 2 0 23 s
  let s ← after? ":" s
  let (minute, s) ← fixedDigits? 2 0 59 s
  let s ← after? ":" s
  let (second, s) ← fixedDigits? 2 0 59 s
  let (micro, s) := microseconds s
  some (⟨hour, minute, second, micro⟩, s)

/-- The distance from universal time, in seconds. -/
def offset? (s : List Char) : Option (Int × List Char) :=
  match s with
  | 'Z' :: rest | 'z' :: rest => some (0, rest)
  | c :: rest =>
    if c = '+' ∨ c = '-' then do
      let (hour, s) ← fixedDigits? 2 0 23 rest
      let s ← after? ":" s
      let (minute, s) ← fixedDigits? 2 0 59 s
      let seconds : Int := hour * 3600 + minute * 60
      some (if c = '-' then -seconds else seconds, s)
    else none
  | [] => none

def clockOfMoment? (s : List Char) : Option (Clock × List Char) :=
  match s with
  | c :: rest => if c = 'T' ∨ c = 't' ∨ c = ' ' then clock? rest else none
  | [] => none

/-- A date or a date with a time of day. It must exist; if it does not, the value is `none`. -/
def moment? (s : List Char) : Option (Option Value × List Char) := do
  let (date, s) ← date? s
  match clockOfMoment? s with
  | none => some (if date.valid then some (.date date) else none, s)
  | some (clock, s) =>
    let (offset, s) := match offset? s with
      | some (seconds, s) => (some seconds, s)
      | none => (none, s)
    some (if date.valid then some (.moment ⟨date, clock, offset⟩) else none, s)

def scalar (s : List Char) : Except Fault (Value × List Char) :=
  match moment? s with
  | some (some v, rest) => .ok (v, rest)
  | some (none, _) => .error .malformed
  | none =>
    match clock? s, based? s, special? s with
    | some (clock, rest), _, _ => .ok (.clock clock, rest)
    | none, some r, _ => .ok r
    | none, none, some r => .ok r
    | none, none, none => decimal s

end EnvDoctor.Toml
