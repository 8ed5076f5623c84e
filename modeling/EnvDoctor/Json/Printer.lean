import EnvDoctor.Text.Digit
import EnvDoctor.Value.Written

/-!
# Writing JSON

Values as JSON texts, with two blanks of indentation for each level. Only quotes,
backslashes and control characters are escaped. A value that has no form in JSON is written as the
text that displays it.
-/

namespace EnvDoctor.Json

def escaped (c : Char) : List Char :=
  if c = '"' ∨ c = '\\' then ['\\', c]
  else if c = '\n' then ['\\', 'n']
  else if c = '\r' then ['\\', 'r']
  else if c = '\t' then ['\\', 't']
  else if c = '\x08' then ['\\', 'b']
  else if c = '\x0c' then ['\\', 'f']
  else if c.toNat < 0x20 then '\\' :: 'u' :: Text.hexPadded 4 c.toNat
  else [c]

def quoted (s : String) : String :=
  String.ofList ('"' :: s.toList.flatMap escaped ++ ['"'])

def scalarText : Value → String
  | .null => "null"
  | .bool b => if b then "true" else "false"
  | .int n => toString n
  | .real x => Decimal.Style.plain.ofFloat x
  | v => quoted v.display

def lineBreak (level : Nat) : String :=
  "\n" ++ String.ofList (List.replicate (2 * level) ' ')

/-- Items between brackets, each on a line of its own one level further in. -/
def block (level : Nat) (opening closing : String) (items : List String) : String :=
  if items.isEmpty then opening ++ closing
  else
    opening ++ lineBreak (level + 1) ++ ("," ++ lineBreak (level + 1)).intercalate items ++
      lineBreak level ++ closing

mutual

def indented (level : Nat) : Value → String
  | .list items => block level "[" "]" (indentedItems (level + 1) items)
  | .tuple items => block level "[" "]" (indentedItems (level + 1) items)
  | .table entries => block level "\x7b" "\x7d" (indentedEntries (level + 1) entries)
  | v => scalarText v

def indentedItems (level : Nat) : List Value → List String
  | [] => []
  | v :: rest => indented level v :: indentedItems level rest

def indentedEntries (level : Nat) : List (Value × Value) → List String
  | [] => []
  | (k, v) :: rest =>
    (quoted k.display ++ ": " ++ indented level v) :: indentedEntries level rest

end

def pretty (v : Value) : String :=
  indented 0 v

end EnvDoctor.Json
