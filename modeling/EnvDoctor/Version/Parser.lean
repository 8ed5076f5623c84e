import EnvDoctor.Text.Blank
import EnvDoctor.Value.Basic
import EnvDoctor.Version.Library

/-!
# Reading versions

A text is read as a version after its outer blanks and the leading equals signs and letters `v`
are dropped. What remains has to be a complete version.
-/

namespace EnvDoctor.Version

variable [VersionLibrary]

def isLeadingSign (c : Char) : Bool :=
  c == '=' || c == 'v'

def parse? (s : String) : Option Version :=
  VersionLibrary.read? ((Text.trim s.toList).dropWhile isLeadingSign)

def clean? (s : String) : Option String :=
  (parse? s).map toString

def ofValue? : Value → Option Version
  | .text s => parse? s
  | _ => none

end EnvDoctor.Version
