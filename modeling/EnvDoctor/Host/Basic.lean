import EnvDoctor.Value.Basic

/-!
# Hosts

What a run leaves to the system around it: where the configurations of a user are kept, and what
becomes of a script that is run.
-/

namespace EnvDoctor

inductive Script.Result where
  | defines (names : List (String × Value))
  | raises (complaint : String)
  /-- The script ends the whole program and not itself alone. -/
  | exits (complaint : String)

structure Host where
  /-- The directory for the configurations of this program, from the setting for the directory of
  all configurations and from the path of the home directory. -/
  configDirectory : (setting home : String) → String
  runScript : String → List UInt8 → Script.Result

end EnvDoctor
