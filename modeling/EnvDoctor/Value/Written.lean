import EnvDoctor.Decimal.Style
import EnvDoctor.Text.Quoted
import EnvDoctor.Value.Basic

/-!
# The written form of values

A value has two written forms. The literal form quotes texts and shows every value inside a
container, but a container inside itself as three points; the display form shows a text as it is
and a constraint as its operator and version.
-/

namespace EnvDoctor.Value

def boolWord (b : Bool) : String :=
  if b then "True" else "False"

def quotedByte (quote : Char) (b : UInt8) : List Char :=
  let c := Char.ofNat b.toNat
  if c = quote ∨ c = '\\' then ['\\', c]
  else if c = '\t' then ['\\', 't']
  else if c = '\n' then ['\\', 'n']
  else if c = '\r' then ['\\', 'r']
  else if 32 ≤ b ∧ b < 127 then [c]
  else '\\' :: 'x' :: Text.hexPadded 2 b.toNat

def quotedBytes (b : List UInt8) : String :=
  let quote := Text.quoteFor (b.map fun x => Char.ofNat x.toNat)
  String.ofList ('b' :: quote :: b.flatMap (quotedByte quote) ++ [quote])

/-- A container inside itself. -/
def ellipsis : Value → String
  | table _ => "\x7b...\x7d"
  | _ => "[...]"

mutual

/-- The literal form of a value inside the knots with some labels. -/
def literalIn (around : List Nat) : Value → String
  | null => "None"
  | bool b => boolWord b
  | int n => toString n
  | real x => Decimal.Style.plain.ofFloat x
  | text s => Text.quote s
  | bytes b => quotedBytes b
  | date d => d.literal
  | clock c => c.literal
  | moment m => m.literal
  | list items => "[" ++ ", ".intercalate (literalsIn around items) ++ "]"
  | tuple [item] => "(" ++ literalIn around item ++ ",)"
  | tuple items => "(" ++ ", ".intercalate (literalsIn around items) ++ ")"
  | set [] => "set()"
  | set items => "\x7b" ++ ", ".intercalate (literalsIn around items) ++ "\x7d"
  | table entries => "\x7b" ++ ", ".intercalate (entryLiteralsIn around entries) ++ "\x7d"
  | constraint op version =>
    "VersionConstraint(operator=" ++ Text.quote op.symbol ++ ", version=" ++
      literalIn around version ++ ")"
  | pattern p => "re.compile(" ++ Text.quote p.source ++ ")"
  | routine name _ => "<function " ++ name ++ ">"
  | knot label v => if around.contains label then ellipsis v else literalIn (label :: around) v

def literalsIn (around : List Nat) : List Value → List String
  | [] => []
  | v :: rest => literalIn around v :: literalsIn around rest

def entryLiteralsIn (around : List Nat) : List (Value × Value) → List String
  | [] => []
  | (k, v) :: rest =>
    (literalIn around k ++ ": " ++ literalIn around v) :: entryLiteralsIn around rest

end

def literal (v : Value) : String :=
  literalIn [] v

def display : Value → String
  | text s => s
  | date d => d.display
  | clock c => c.display
  | moment m => m.display
  | constraint op version => op.symbol ++ display version
  | v => literal v

@[simp]
theorem display_text (s : String) : display (text s) = s := by
  simp [display]

end EnvDoctor.Value
