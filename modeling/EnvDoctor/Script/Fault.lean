import EnvDoctor.Numeral
import EnvDoctor.Text.Lines

/-!
# Faults of scripts

Why a script cannot be used. Faults of its writing are found before anything of it is run and have
a line; they are placed by how many characters were left. The others come up while it runs.
-/

namespace EnvDoctor.Script

inductive Fault where
  | malformed (left : Nat)
  | indented (left : Nat)
  | numeralTooLong (numeral : Numeral.TooLong) (left : Nat)
  | noKey (kind : String)
  | noSign (sign : Char) (kind : String)
  | raised (text : String)
  deriving DecidableEq, Repr

def Fault.complaint : Fault → String
  | malformed _ => "invalid syntax"
  | indented _ => "unexpected indent"
  | numeralTooLong numeral _ =>
    numeral.message ++ " - Consider hexadecimal for huge integer literals to avoid decimal " ++
      "conversion limits."
  | noKey kind => "unhashable type: '" ++ kind ++ "'"
  | noSign sign kind =>
    "bad operand type for unary " ++ String.singleton sign ++ ": '" ++ kind ++ "'"
  | raised text => text

/-- How many characters were left where the writing is wrong. -/
def Fault.left? : Fault → Option Nat
  | malformed left | indented left | numeralTooLong _ left => some left
  | noKey _ | noSign _ _ | raised _ => none

def Fault.message (file : String) (script : List Char) (fault : Fault) : String :=
  match fault.left? with
  | none => fault.complaint
  | some left =>
    let place := Text.placeOf script (script.length - left)
    fault.complaint ++ " (" ++ file ++ ", line " ++ toString place.line ++ ")"

end EnvDoctor.Script
