import EnvDoctor.Decimal.Reader
import EnvDoctor.Numeral.Whole
import EnvDoctor.Value.Calendar

/-!
# Faults of YAML texts

Why a text has no value. Most texts that have none break the grammar, or hold a scalar that its
kind does not admit. A few scalars that cannot be what their tag says break the reading off; such
a fault is not about the text as a whole.
-/

namespace EnvDoctor.Yaml

inductive Fault where
  | malformed
  | noCharacter
  | calendar (fault : CalendarFault)
  | whole (fault : Numeral.Fault)
  | real (fault : Decimal.Misspelt)
  /-- An escape names a number beyond 31 bits. -/
  | codeTooLarge
  | noTruthValue (word : List Char)
  /-- A number has no character besides underscores, or no digit after its sign. -/
  | emptyNumber
  | noTimestamp
  | mappingAsTimestamp
  /-- A group to the base of sixty stands at a place too high for a double. -/
  | placeTooHigh
  deriving DecidableEq, Repr

def Fault.message : Fault → String
  | malformed => "<yaml>"
  | noCharacter => "chr() arg not in range(0x110000)"
  | calendar fault => fault.message
  | whole fault => fault.message
  | real fault => fault.message
  | codeTooLarge => "Python int too large to convert to C int"
  | noTruthValue word => String.ofList (Text.quoted word)
  | emptyNumber => "string index out of range"
  | noTimestamp => "'NoneType' object has no attribute 'groupdict'"
  | mappingAsTimestamp => "expected string or bytes-like object, got 'list'"
  | placeTooHigh => "int too large to convert to float"

def Fault.ofText : Fault → Bool
  | malformed | noCharacter | calendar _ | whole _ | real _ => true
  | _ => false

def orMalformed {α : Type} : Option α → Except Fault α
  | some a => .ok a
  | none => .error .malformed

@[simp]
theorem orMalformed_some {α : Type} (a : α) : orMalformed (some a) = .ok a := rfl

@[simp]
theorem orMalformed_none {α : Type} : orMalformed (none : Option α) = .error .malformed := rfl

end EnvDoctor.Yaml
