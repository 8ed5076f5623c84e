import EnvDoctor.Decimal.Reader
import EnvDoctor.Numeral.Whole
import EnvDoctor.Operator
import EnvDoctor.Pattern.Basic
import EnvDoctor.Value.Calendar

/-!
# Values

The dynamic values of configuration files and of command output. Tables keep the order in which
their keys were first set. A list or a table that leads back to itself is a knot: it is unrolled as
far as anyone looks. Three kinds of value come from a host and from no file: a ready constraint, a
compiled pattern, and a routine that turns command output into a value.
-/

namespace EnvDoctor

inductive Value where
  | null
  | bool (b : Bool)
  | int (n : Int)
  | real (x : Float)
  | text (s : String)
  | bytes (b : List UInt8)
  | date (d : Date)
  | clock (c : Clock)
  | moment (m : Moment)
  | list (items : List Value)
  | tuple (items : List Value)
  | set (items : List Value)
  | table (entries : List (Value × Value))
  /-- A ready constraint; its version is not checked and need not be a text. -/
  | constraint (operator : Operator) (version : Value)
  | pattern (p : Pattern)
  /-- A routine gives a value for an output, or fails. -/
  | routine (name : String) (run : String → Option Value)
  /-- A list or a table with a label that leads back to itself. Where the label comes up again
  inside it, the same value is meant. -/
  | knot (label : Nat) (v : Value)

namespace Value

instance : Inhabited Value := ⟨null⟩

/-- The name of a kind of value, for messages. -/
def kind : Value → String
  | null => "NoneType"
  | bool _ => "bool"
  | int _ => "int"
  | real _ => "float"
  | text _ => "str"
  | bytes _ => "bytes"
  | date _ => "date"
  | clock _ => "time"
  | moment _ => "datetime"
  | list _ => "list"
  | tuple _ => "tuple"
  | set _ => "set"
  | table _ => "dict"
  | constraint _ _ => "VersionConstraint"
  | pattern _ => "Pattern"
  | routine _ _ => "function"
  | knot _ v => v.kind

/-- A list or a table without its label. -/
def bare : Value → Value
  | knot _ v => v
  | v => v

/-- Null, false, zero and whatever is empty count as absent. -/
def isTruthy : Value → Bool
  | null => false
  | bool b => b
  | int n => n != 0
  | real x => x != 0
  | text s => !s.isEmpty
  | bytes b => !b.isEmpty
  | list items => !items.isEmpty
  | tuple items => !items.isEmpty
  | set items => !items.isEmpty
  | table entries => !entries.isEmpty
  | date _ | clock _ | moment _ | constraint _ _ | pattern _ | routine _ _ | knot _ _ => true

def isNull : Value → Bool
  | null => true
  | _ => false

def isTextOf (s : String) : Value → Bool
  | text t => t == s
  | _ => false

def lookup (key : String) (entries : List (Value × Value)) : Option Value :=
  (entries.find? fun e => e.1.isTextOf key).map Prod.snd

def field? (key : String) : Value → Option Value
  | table entries => lookup key entries
  | _ => none

/-- The number that a boolean, an integer or a whole double stands for. -/
def wholeNumber? : Value → Option Int
  | bool b => some (if b then 1 else 0)
  | int n => some n
  | real x => Decimal.wholeOf? x
  | _ => none

mutual

/-- Two keys of a table are the same. Numbers are compared by their values across all kinds. -/
def sameKey : Value → Value → Bool
  | null, null => true
  | text s, text t => s == t
  | bytes s, bytes t => s == t
  | date d, date e => d == e
  | clock c, clock d => c == d
  | moment m, moment n => m.same n
  | tuple xs, tuple ys => sameKeys xs ys
  | real x, real y => x == y
  | v, w =>
    match v.wholeNumber?, w.wholeNumber? with
    | some m, some n => m == n
    | _, _ => false

def sameKeys : List Value → List Value → Bool
  | [], [] => true
  | v :: vs, w :: ws => sameKey v w && sameKeys vs ws
  | _, _ => false

end

mutual

/-- The kind of the first part of a value that keeps it from being a key of a table. Lists, tables
and sets are no keys, nor is a tuple that holds one. -/
def keyFault? : Value → Option String
  | list _ => some "list"
  | table _ => some "dict"
  | set _ => some "set"
  | knot _ v => keyFault? v
  | tuple items => keyFaultAmong? items
  | _ => none

def keyFaultAmong? : List Value → Option String
  | [] => none
  | v :: rest => (keyFault? v).or (keyFaultAmong? rest)

end

def isKey (v : Value) : Bool :=
  (keyFault? v).isNone

mutual

/-- A whole number of more digits than are written stands somewhere in the value. -/
def holdsLong : Value → Bool
  | int n => Numeral.isLong n
  | list items | tuple items | set items => anyHoldsLong items
  | table entries => entriesHoldLong entries
  | constraint _ version => holdsLong version
  | knot _ v => holdsLong v
  | _ => false

def anyHoldsLong : List Value → Bool
  | [] => false
  | v :: rest => holdsLong v || anyHoldsLong rest

def entriesHoldLong : List (Value × Value) → Bool
  | [] => false
  | (k, v) :: rest => holdsLong k || holdsLong v || entriesHoldLong rest

end

@[simp]
theorem holdsLong_text (s : String) : (text s).holdsLong = false := by rw [holdsLong.eq_def]

/-- Sets a key of a table. A key that is present keeps its place and takes the new value. -/
def insert (key value : Value) : List (Value × Value) → List (Value × Value)
  | [] => [(key, value)]
  | e :: rest => if sameKey e.1 key then (e.1, value) :: rest else e :: insert key value rest

def tableOf (entries : List (Value × Value)) : Value :=
  table (entries.foldl (fun acc e => insert e.1 e.2 acc) [])

def record (fields : List (String × Value)) : Value :=
  table (fields.map fun f => (text f.1, f.2))

theorem lookup_cons (key : String) (e : Value × Value) (rest : List (Value × Value)) :
    lookup key (e :: rest) = if e.1.isTextOf key then some e.2 else lookup key rest := by
  by_cases h : e.1.isTextOf key <;> simp [lookup, h]

end Value

end EnvDoctor
