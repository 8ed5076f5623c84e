import EnvDoctor.Value.Basic

/-!
# Routines

Routines turn the output of a program into a value: a version, or a table of component versions.
They come from the host and not from configuration files.
-/

namespace EnvDoctor

structure Routine where
  name : String
  /-- The value for an output; nothing if the routine fails. -/
  run : String → Option Value

namespace Routine

def toValue (r : Routine) : Value :=
  .routine r.name r.run

def ofValue? : Value → Option Routine
  | .routine name run => some ⟨name, run⟩
  | _ => none

@[simp]
theorem ofValue?_toValue (r : Routine) : ofValue? r.toValue = some r := rfl

end Routine

end EnvDoctor
