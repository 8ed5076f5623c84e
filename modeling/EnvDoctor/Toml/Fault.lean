import EnvDoctor.Numeral

/-!
# Faults of TOML texts

Why a text is no TOML document: it breaks the grammar, contradicts itself or has a number of too
many digits. Whatever comes first in the text counts.
-/

namespace EnvDoctor.Toml

inductive Fault where
  | malformed
  | tooLong (numeral : Numeral.TooLong)
  deriving DecidableEq, Repr

def Fault.message : Fault → String
  | malformed => "<toml>"
  | tooLong numeral => numeral.message

def orMalformed {α : Type} : Option α → Except Fault α
  | some a => .ok a
  | none => .error .malformed

@[simp]
theorem orMalformed_some {α : Type} (a : α) : orMalformed (some a) = .ok a := rfl

@[simp]
theorem orMalformed_none {α : Type} : orMalformed (none : Option α) = .error .malformed := rfl

end EnvDoctor.Toml
