import EnvDoctor.Value.Calendar
import EnvDoctor.Yaml.Fault

/-!
# Kinds of YAML nodes

What a tag or, where there is none, the text of a plain scalar says about the kind of a value.
-/

namespace EnvDoctor.Yaml

inductive Kind where
  | null
  | bool
  | int
  | real
  | timestamp
  | text
  | binary
  | sequence
  | table
  | set
  | orderedTable
  | pairs
  /-- The key `<<`, which takes over the entries of other tables. -/
  | merge
  | standard
  | unknown
  deriving DecidableEq, Repr

def Kind.ofTag (tag : String) : Kind :=
  let names : List (String × Kind) :=
    [("null", .null), ("bool", .bool), ("int", .int), ("float", .real),
     ("timestamp", .timestamp), ("str", .text), ("binary", .binary), ("seq", .sequence),
     ("map", .table), ("set", .set), ("omap", .orderedTable), ("pairs", .pairs),
     ("merge", .merge), ("value", .standard)]
  ((names.find? fun n => "tag:yaml.org,2002:" ++ n.1 == tag).map Prod.snd).getD .unknown

/-- Words for truth values; each may be in lower case, in upper case or capitalized. -/
def boolWord? (s : String) : Option Bool :=
  let words (lower upper capital : String) := s == lower || s == upper || s == capital
  if words "yes" "YES" "Yes" || words "true" "TRUE" "True" || words "on" "ON" "On" then some true
  else if words "no" "NO" "No" || words "false" "FALSE" "False" || words "off" "OFF" "Off" then
    some false
  else none

def isNullWord (s : String) : Bool :=
  s == "" || s == "~" || s == "null" || s == "Null" || s == "NULL"

def isDigitOrUnderscore (c : Char) : Bool :=
  c.isDigit || c == '_'

def isDigitRun : List Char → Bool
  | [] => false
  | c :: rest => c.isDigit && rest.all isDigitOrUnderscore

/-- One or two digits that count minutes or seconds. -/
def isSixtieth : List Char → Bool
  | [c] => c.isDigit
  | [c, d] => '0' ≤ c && c ≤ '5' && d.isDigit
  | _ => false

def colonParts (s : List Char) : List (List Char) :=
  Text.splitOn ':' s

/-- A whole number without its sign: binary, octal, hexadecimal, decimal, or in groups to the base
of sixty. -/
def isWhole (s : List Char) : Bool :=
  match s with
  | '0' :: 'b' :: rest => !rest.isEmpty && rest.all fun c => c == '0' || c == '1' || c == '_'
  | '0' :: 'x' :: rest => !rest.isEmpty && rest.all fun c => Text.isHexDigit c || c == '_'
  | '0' :: rest => rest.all fun c => Text.isOctalDigit c || c == '_'
  | c :: _ =>
    match colonParts s with
    | [] => false
    | first :: more => isDigitRun first && '1' ≤ c && more.all isSixtieth
  | [] => false

def isExponent : List Char → Bool
  | sign :: digits =>
    (sign == '+' || sign == '-') && !digits.isEmpty && digits.all Char.isDigit
  | [] => false

def isFraction (s : List Char) : Bool :=
  match s.dropWhile isDigitOrUnderscore with
  | [] => true
  | c :: rest => (c == 'e' || c == 'E') && isExponent rest

/-- A decimal with a point, infinity, or a value that is no number. -/
def isReal (s : List Char) : Bool :=
  let (_, body) := Text.splitSign s
  let words (w : List String) (t : List Char) := w.contains (String.ofList t)
  let whole := body.takeWhile (· != '.')
  match body.dropWhile (· != '.') with
  | [] => false
  | _ :: fraction =>
    if whole.isEmpty then
      words [".inf", ".Inf", ".INF"] body || words [".nan", ".NaN", ".NAN"] s ||
        (s.head? == some '.' && isDigitRun (fraction.take 1) && isFraction fraction)
    else
      match colonParts whole with
      | [first] => isDigitRun first && isFraction fraction
      | first :: more =>
        isDigitRun first && more.all isSixtieth && fraction.all isDigitOrUnderscore
      | [] => false

/-- A number of digits from a text, between a least and a greatest count. -/
def takeDigits? (least most : Nat) (s : List Char) : Option (Nat × List Char) :=
  let ds := (s.take most).takeWhile Char.isDigit
  if ds.length < least then none else some (Text.digitsValue ds, s.drop ds.length)

def takeChar? (c : Char) : List Char → Option (List Char)
  | d :: rest => if c = d then some rest else none
  | [] => none

/-- The distance from universal time in seconds; without one the text ends. -/
def offset? (s : List Char) : Option (Option Int) :=
  match s.dropWhile isSpaceOrTab with
  | [] => if s.isEmpty then some none else none
  | ['Z'] => some (some 0)
  | sign :: rest => do
    if sign ≠ '+' ∧ sign ≠ '-' then none
    else
      let (hour, rest) ← takeDigits? 1 2 rest
      let (minute, rest) ← match rest with
        | [] => some (0, [])
        | _ => do
          let rest ← takeChar? ':' rest
          takeDigits? 2 2 rest
      let seconds : Int := hour * 3600 + minute * 60
      if rest.isEmpty then some (some (if sign = '-' then -seconds else seconds)) else none
where
  isSpaceOrTab (c : Char) : Bool :=
    c == ' ' || c == '\t'

def clock? (s : List Char) : Option (Clock × Option Int) := do
  let (hour, s) ← takeDigits? 1 2 s
  let s ← takeChar? ':' s
  let (minute, s) ← takeDigits? 2 2 s
  let s ← takeChar? ':' s
  let (second, s) ← takeDigits? 2 2 s
  let (micro, s) := match s with
    | '.' :: rest =>
      let kept := (rest.takeWhile Char.isDigit).take 6
      (Text.digitsValue kept * Decimal.tenTo (6 - kept.length), rest.dropWhile Char.isDigit)
    | _ => (0, s)
  let offset ← offset? s
  some (⟨hour, minute, second, micro⟩, offset)

/-- A date, or a date and a time of day, as written. It need not exist. -/
def timestamp? (s : List Char) : Option (Date × Option (Clock × Option Int)) := do
  let (year, s) ← takeDigits? 4 4 s
  let s ← takeChar? '-' s
  let (month, s) ← takeDigits? 1 2 s
  let s ← takeChar? '-' s
  let (day, s) ← takeDigits? 1 2 s
  let date : Date := ⟨year, month, day⟩
  match s with
  | [] => some (date, none)
  | c :: rest => do
    let s ←
      if c = 'T' ∨ c = 't' then some rest
      else if c = ' ' ∨ c = '\t' then some (rest.dropWhile fun c => c == ' ' || c == '\t')
      else none
    let clock ← clock? s
    some (date, some clock)

/-- A timestamp; a date alone has all its digits. -/
def isTimestamp (s : List Char) : Bool :=
  match timestamp? s with
  | some (_, none) => s.length == 10
  | some (_, some _) => true
  | none => false

def Kind.ofWord (text : String) : Kind :=
  let s := text.toList
  if (boolWord? text).isSome then .bool
  else if isReal s then .real
  else if isWhole (Text.splitSign s).2 then .int
  else if text = "<<" then .merge
  else if isNullWord text then .null
  else if isTimestamp s then .timestamp
  else if text = "=" then .standard
  else if text = "!" ∨ text = "&" ∨ text = "*" then .unknown
  else .text

/-- A text without a line end at its end, of which one is dropped unless it is all there is. -/
def dropLastNewline (s : List Char) : List Char :=
  match s.reverse with
  | '\n' :: c :: rest => (c :: rest).reverse
  | _ => s

/-- The kind of a scalar that shows it by its text. A line end at the end does not count. -/
def Kind.ofPlain (text : String) : Kind :=
  .ofWord (String.ofList (dropLastNewline text.toList))

end EnvDoctor.Yaml
