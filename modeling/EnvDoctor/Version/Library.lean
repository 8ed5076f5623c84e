import EnvDoctor.Version.Basic

/-!
# The library for versions

Versions are read and compared by a library from outside, of which nothing else is used. A
comparison may break off with a complaint.
-/

namespace EnvDoctor

class VersionLibrary where
  /-- The version that a text is, without its build metadata. -/
  read? : List Char → Option Version
  compare : Version → Version → Except String Ordering

end EnvDoctor
