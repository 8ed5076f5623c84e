import EnvDoctor.Numeral
import EnvDoctor.Range.Basic
import EnvDoctor.Text.Pieces
import EnvDoctor.Text.Quoted
import EnvDoctor.Version.Grammar
import EnvDoctor.Version.Parser

/-!
# Reading ranges

Alternatives are separated by `||` and comparators by blanks or commas; blanks after an operator
do not separate. A comparator is an optional operator, an optional `v` and a version that may be
incomplete. The first digit of a number is an ASCII digit, further ones may be of any script, and
the identifiers of a prerelease may have leading zeros.
-/

namespace EnvDoctor.Range

/-- Why a range cannot be read, or a version not be held against it. -/
inductive Fault where
  | invalidComparator (token : String)
  | tooLong (numeral : Numeral.TooLong)
  | notText (kind : String)
  | incomparable (complaint : String)
  deriving DecidableEq, Repr

def Fault.message : Fault → String
  | .invalidComparator token => "Invalid comparator: " ++ Text.quote token
  | .tooLong numeral => numeral.message
  | .notText kind => "'" ++ kind ++ "' object has no attribute 'split'"
  | .incomparable complaint => complaint

def isOperatorChar (c : Char) : Bool :=
  c == '>' || c == '<' || c == '=' || c == '^' || c == '~'

/-- Drops the blanks that follow an operator; `after` tells that the text follows one. -/
def glueFrom (after : Bool) : List Char → List Char
  | [] => []
  | c :: rest =>
    if after && Text.isBlank c then glueFrom true rest
    else c :: glueFrom (isOperatorChar c) rest

def glue (s : List Char) : List Char :=
  glueFrom false s

def isSeparator (c : Char) : Bool :=
  Text.isBlank c || c == ','

def tokens (s : List Char) : List (List Char) :=
  Text.fields isSeparator (glue (Text.trim s))

def alternatives : List Char → List (List Char)
  | [] => [[]]
  | '|' :: '|' :: rest => [] :: alternatives rest
  | c :: rest => Text.consFirst c (alternatives rest)

/-- The operator that a text begins with, an equality if there is none, and the rest. -/
def takeOperator (s : List Char) : Operator × List Char :=
  let found := Operator.longestFirst.findSome? fun op =>
    (op.symbol.toList.isPrefixOf? s).map fun rest => (op, rest)
  found.getD (.equal, s)

inductive Numbers where
  | major (a : List Char)
  | minor (a b : List Char)
  | full (a b c : List Char) (pre : List (List Char))
  deriving DecidableEq, Repr

def afterPoint? : List Char → Option (List Char)
  | '.' :: rest => some rest
  | _ => none

def numbers? (s : List Char) : Option Numbers := do
  let (a, s) ← Version.takeNumber? Text.isDigit s
  if s.isEmpty then return .major a
  let s ← afterPoint? s
  let (b, s) ← Version.takeNumber? Text.isDigit s
  if s.isEmpty then return .minor a b
  let s ← afterPoint? s
  let (c, s) ← Version.takeNumber? Text.isDigit s
  let pre ← Version.tail? Version.isIdentifier s
  return .full a b c pre

def Numbers.value : Numbers → Except Numeral.TooLong PartialVersion
  | .major a => do
    return .major (← Numeral.read a)
  | .minor a b => do
    let a ← Numeral.read a
    let b ← Numeral.read b
    return .minor a b
  | .full a b c pre => do
    let a ← Numeral.read a
    let b ← Numeral.read b
    let c ← Numeral.read c
    return .full ⟨a, b, c, pre⟩

def dropV : List Char → List Char
  | 'v' :: rest => rest
  | s => s

def comparator (token : List Char) : Except Fault (List Comparator) :=
  let (op, rest) := takeOperator token
  match numbers? (dropV rest) with
  | none => .error (.invalidComparator (String.ofList token))
  | some numbers =>
    match numbers.value with
    | .error numeral => .error (.tooLong numeral)
    | .ok p => .ok (p.expand op)

def alternative (s : List Char) : Except Fault (List Comparator) := do
  let parts ← (tokens s).mapM comparator
  return parts.flatten

def ofChars (s : List Char) : Except Fault Range :=
  (alternatives s).mapM alternative

def parse (s : String) : Except Fault Range :=
  ofChars s.toList

/-- Reads a range; an absent value is an empty text. -/
def ofValue : Value → Except Fault Range
  | .text s => parse s
  | v => if v.isTruthy then .error (.notText v.kind) else parse ""

def table (r : Range) : Except Numeral.TooLong (List (List (String × String))) :=
  r.mapM fun comparators => comparators.mapM fun c => do
    for n in c.bound.numbers do
      discard (Numeral.write n)
    return (c.relation.symbol, toString c.bound)

def admits [VersionLibrary] (r : Range) (v : Version) : Except Fault Bool :=
  (r.test v).mapError .incomparable

/-- Whether a value is a version that a range admits. The range is read first, so that a range
that cannot be read is reported in any case. -/
def check [VersionLibrary] (version range : Value) : Except Fault Bool := do
  let r ← ofValue range
  match Version.ofValue? version with
  | none => return false
  | some v => r.admits v

end EnvDoctor.Range
