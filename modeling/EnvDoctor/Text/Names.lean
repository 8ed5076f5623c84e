/-!
# Names of characters

A character can be called by its name. The table of the names comes from outside.
-/

namespace EnvDoctor

class CharacterNames where
  /-- The code point that a name calls, in letters of either case. -/
  codeOf? : List Char → Option Nat

end EnvDoctor
