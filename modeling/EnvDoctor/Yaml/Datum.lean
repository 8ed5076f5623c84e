import EnvDoctor.Text.Base64
import EnvDoctor.Text.LowerCase
import EnvDoctor.Value.Basic
import EnvDoctor.Yaml.Schema

/-!
# YAML scalars as values

The value of a scalar of each kind. A tag can give a kind to a text that does not look like it, so
each kind has its own way to refuse a text.
-/

namespace EnvDoctor.Yaml

def dropUnderscores (s : List Char) : List Char :=
  s.filter (· != '_')

def wholeIn (base : Nat) (s : List Char) : Except Fault Int :=
  (Numeral.ofText base s).mapError .whole

def sixtieths (groups : List Int) : Int :=
  groups.foldl (fun n group => 60 * n + group) 0

/-- A whole number without sign and underscores. A mark or a zero in front tells the base. -/
def unsignedWhole (s : List Char) : Except Fault Int :=
  match s with
  | [] => .error .emptyNumber
  | ['0'] => .ok 0
  | '0' :: 'b' :: rest => wholeIn 2 rest
  | '0' :: 'x' :: rest => wholeIn 16 rest
  | '0' :: _ => wholeIn 8 s
  | _ => do return sixtieths (← (colonParts s).mapM (wholeIn 10))

def wholeValue (s : List Char) : Except Fault Int := do
  let (negative, s) := Text.splitSign (dropUnderscores s)
  let n ← unsignedWhole s
  return if negative then -n else n

/-- The sum of groups to the base of sixty, the last one first and at the given place. -/
def sexagesimal (place : Nat) (sum : Float) : List Float → Except Fault Float
  | [] => .ok sum
  | group :: rest =>
    match Decimal.ofNat? place with
    | some x => sexagesimal (60 * place) (sum + group * x) rest
    | none => .error .placeTooHigh

/-- A double without sign and underscores, in lower case. -/
def unsignedReal (s : List Char) : Except Fault Float := do
  let real (part : List Char) := (Decimal.ofText part).mapError Fault.real
  match String.ofList s with
  | ".inf" => return 1 / 0
  | ".nan" => return 0 / 0
  | _ =>
    match colonParts s with
    | [_] => real s
    | parts => sexagesimal 1 0 (← parts.mapM real).reverse

def signedReal? (s : List Char) : Option (Bool × List Char) :=
  let s := Text.lowerText (dropUnderscores s)
  if s.isEmpty then none else some (Text.splitSign s)

def realValue (s : List Char) : Except Fault Float :=
  match signedReal? s with
  | none => .error .emptyNumber
  | some (negative, s) => do
    let x ← unsignedReal s
    return if negative then -x else x

/-- The text is a name of the one value that is no number. All others of them differ from each
other. -/
def isNotANumber (s : List Char) : Bool :=
  (signedReal? s).any fun (_, s) => s == ".nan".toList

def truthValue (s : List Char) : Except Fault Bool :=
  let word := Text.lowerText s
  match String.ofList word with
  | "yes" | "true" | "on" => .ok true
  | "no" | "false" | "off" => .ok false
  | _ => .error (.noTruthValue word)

/-- A date or a moment, which must exist. A line end at the end of the text does not count. -/
def timestampValue (s : List Char) : Except Fault Value :=
  match timestamp? (dropLastNewline s) with
  | none => .error .noTimestamp
  | some (date, none) =>
    match date.fault? with
    | none => .ok (.date date)
    | some fault => .error (.calendar fault)
  | some (date, some (clock, offset)) =>
    let moment : Moment := ⟨date, clock, offset⟩
    match moment.fault? with
    | none => .ok (.moment moment)
    | some fault => .error (.calendar fault)

/-- Bytes in base 64; only characters of the ASCII range may be passed over. -/
def binaryValue (s : List Char) : Except Fault (List UInt8) :=
  if s.any fun c => c.toNat ≥ 128 then .error .malformed
  else orMalformed (Text.Base64.decode? s)

def scalarValue (kind : Kind) (text : String) : Except Fault Value :=
  let s := text.toList
  match kind with
  | .null => .ok .null
  | .bool => (truthValue s).map .bool
  | .int => (wholeValue s).map .int
  | .real => (realValue s).map .real
  | .timestamp => timestampValue s
  | .text => .ok (.text text)
  | .binary => (binaryValue s).map .bytes
  | _ => .error .malformed

end EnvDoctor.Yaml
