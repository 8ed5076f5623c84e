import EnvDoctor.Text.Blank
import EnvDoctor.Text.Digit

/-!
# Numbers in the ASCII range

Numbers may be written with the digits and blanks of any script. Before a number is read they are
replaced by those of the ASCII range.
-/

namespace EnvDoctor.Text

/-- A blank of the ASCII range, without the information separators. -/
def isAsciiBlank (c : Char) : Bool :=
  c == ' ' || (0x09 ≤ c.toNat && c.toNat ≤ 0x0D)

/-- A digit or a blank as one of the ASCII range. Nothing else beyond that range belongs to a
number, and a question mark stands for it. -/
def asciiChar (c : Char) : Char :=
  if c.toNat < 127 then c
  else if isBlank c then ' '
  else
    match digitValue? c with
    | some n => Char.ofNat ('0'.toNat + n)
    | none => '?'

def asciiForm (s : List Char) : List Char :=
  s.map asciiChar

def splitSign : List Char → Bool × List Char
  | '-' :: rest => (true, rest)
  | '+' :: rest => (false, rest)
  | s => (false, s)

end EnvDoctor.Text
