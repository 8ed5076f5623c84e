import EnvDoctor.Text.Digit
import EnvDoctor.Toml.Reader
import EnvDoctor.Value.Written

/-!
# Writing TOML

A table is written with its plain values first and its subtables after them, each under a header
of its own. Arrays have an item on each line, and a table inside an array is written on one line.
-/

namespace EnvDoctor.Toml

def escaped (c : Char) : List Char :=
  if c = '"' ∨ c = '\\' then ['\\', c]
  else if c = '\n' then ['\\', 'n']
  else if c = '\r' then ['\\', 'r']
  else if c = '\x08' then ['\\', 'b']
  else if c = '\x0c' then ['\\', 'f']
  else if isControl c then '\\' :: 'u' :: Text.hexPadded 4 c.toNat
  else [c]

def quoted (s : String) : String :=
  String.ofList ('"' :: s.toList.flatMap escaped ++ ['"'])

def keyText (key : String) : String :=
  if !key.isEmpty && key.toList.all isBareKeyChar then key else quoted key

def scalarText : Value → String
  | .text s => quoted s
  | .bool b => if b then "true" else "false"
  | .int n => toString n
  | v => quoted v.kind

mutual

def inlineText (indent : Nat) : Value → String
  | .list [] => "[]"
  | .list items =>
    "[\n" ++ String.join (itemLines (indent + 4) items) ++
      String.ofList (List.replicate indent ' ') ++ "]"
  | .table [] => "\x7b\x7d"
  | .table entries => "\x7b " ++ ", ".intercalate (inlineEntries indent entries) ++ " \x7d"
  | v => scalarText v

def itemLines (indent : Nat) : List Value → List String
  | [] => []
  | v :: rest =>
    (String.ofList (List.replicate indent ' ') ++ inlineText indent v ++ ",\n") ::
      itemLines indent rest

def inlineEntries (indent : Nat) : List (Value × Value) → List String
  | [] => []
  | (k, v) :: rest => (keyText k.display ++ " = " ++ inlineText indent v) :: inlineEntries indent rest

end

def plainLines : List (Value × Value) → List String
  | [] => []
  | (_, .table _) :: rest => plainLines rest
  | (k, v) :: rest => (keyText k.display ++ " = " ++ inlineText 0 v ++ "\n") :: plainLines rest

def subtableName (name key : String) : String :=
  if name.isEmpty then keyText key else name ++ "." ++ keyText key

/-- A table needs a header unless it only holds subtables. -/
def needsHeader (name : String) (entries : List (Value × Value)) : Bool :=
  let isTable (v : Value) := match v with
    | .table _ => true
    | _ => false
  !name.isEmpty && (entries.isEmpty || entries.any fun e => !isTable e.2)

mutual

/-- The parts of a value under a name, with an empty line between them: of a table, its header
with its plain values, and its subtables. -/
def sections (name : String) : Value → List String
  | .table entries =>
    let header := if needsHeader name entries then ["[" ++ name ++ "]\n"] else []
    let plain := String.join (header ++ plainLines entries)
    (if plain.isEmpty then [] else [plain]) ++ subsections name entries
  | _ => []

def subsections (name : String) : List (Value × Value) → List String
  | [] => []
  | (k, v) :: rest => sections (subtableName name k.display) v ++ subsections name rest

end

def write (v : Value) : String :=
  "\n".intercalate (sections "" v)

end EnvDoctor.Toml
