import EnvDoctor.Text.CaseFold
import EnvDoctor.Text.Pieces

/-!
# Paths

A path is a root and names. Empty names and single points do not count; two points stay, because
what they mean depends on the files. Two leading slashes are a root of their own.
-/

namespace EnvDoctor

def pathNames (s : String) : List String :=
  (Text.splitOn '/' s.toList).map String.ofList

def joinPath (path name : String) : String :=
  if path.endsWith "/" then path ++ name else path ++ "/" ++ name

structure Path where
  root : String
  names : List String
  deriving DecidableEq, Repr

namespace Path

def rootOf (s : List Char) : String :=
  match (s.takeWhile (· == '/')).length with
  | 0 => ""
  | 2 => "//"
  | _ => "/"

def ofText (s : String) : Path :=
  ⟨rootOf s.toList, (pathNames s).filter fun n => n != "" && n != "."⟩

/-- The written form; a path without names and root is a point. -/
def toText (p : Path) : String :=
  let s := p.root ++ "/".intercalate p.names
  if s.isEmpty then "." else s

def child (p : Path) (name : String) : Path :=
  { p with names := p.names ++ [name] }

def lastName (p : Path) : String :=
  p.names.getLast?.getD ""

/-- The last name from its last point on. A point at either end of the name begins no suffix. -/
def suffix (p : Path) : String :=
  let name := p.lastName.toList
  let ending := (name.reverse.takeWhile (· != '.')).length
  let start := name.length - ending - 1
  if ending < name.length && 0 < start && 0 < ending then String.ofList (name.drop start) else ""

def lowerSuffix (p : Path) : String :=
  String.ofList (p.suffix.toList.map Text.lower)

end Path

end EnvDoctor
