import EnvDoctor.Files.Path
import EnvDoctor.Text.Quoted

/-!
# Stores of files

A store has files and directories at places; a place is the list of names that lead to it from the
root. A path is walked name by name, so that every name but the last has to be a directory, and two
points lead back to the directory above.
-/

namespace EnvDoctor

inductive FileFault where
  | notFound
  | alreadyExists
  | notDirectory
  | isDirectory
  | nameTooLong
  | nullByte
  deriving DecidableEq, Repr

def FileFault.message (path : String) : FileFault → String
  | notFound => complaint 2 "No such file or directory"
  | alreadyExists => complaint 17 "File exists"
  | notDirectory => complaint 20 "Not a directory"
  | isDirectory => complaint 21 "Is a directory"
  | nameTooLong => complaint 36 "File name too long"
  | nullByte => "embedded null byte"
where
  complaint (number : Nat) (text : String) : String :=
    "[Errno " ++ toString number ++ "] " ++ text ++ ": " ++ Text.quote path

inductive Entry where
  | directory
  | file (content : List UInt8)
  deriving DecidableEq, Repr

/-- The names that lead from the root to an entry. -/
abbrev Place := List String

structure Store where
  entries : List (Place × Entry)
  deriving DecidableEq, Repr

namespace Store

def empty : Store :=
  ⟨[]⟩

/-- What stands at a place. The root is a directory. -/
def find? (s : Store) (p : Place) : Option Entry :=
  if p = [] then some .directory else s.entries.lookup p

def put (s : Store) (p : Place) (e : Entry) : Store :=
  ⟨(p, e) :: s.entries.filter (·.1 != p)⟩

/-- The place of a directory that a walk has come to. -/
def directory (s : Store) (p : Place) : Except FileFault Place :=
  match s.find? p with
  | none => .error .notFound
  | some (.file _) => .error .notDirectory
  | some .directory => .ok p

def nameLimit : Nat := 255

def enter (s : Store) (p : Place) (name : String) : Except FileFault Place := do
  let p ← s.directory p
  if name = "" ∨ name = "." then return p
  else if name = ".." then return p.dropLast
  else if name.utf8ByteSize > nameLimit then throw .nameTooLong
  else return p ++ [name]

def walk (s : Store) (p : Place) (names : List String) : Except FileFault Place :=
  names.foldlM s.enter p

def read (s : Store) (p : Place) : Except FileFault (List UInt8) :=
  match s.find? p with
  | none => .error .notFound
  | some .directory => .error .isDirectory
  | some (.file content) => .ok content

def makeDirectory (s : Store) (p : Place) : Except FileFault Store :=
  match s.find? p with
  | none => .ok (s.put p .directory)
  | some _ => .error .alreadyExists

def write (s : Store) (p : Place) (content : List UInt8) : Except FileFault Store :=
  match s.find? p with
  | some .directory => .error .isDirectory
  | _ => .ok (s.put p (.file content))

/-- Puts an entry at a place and directories above it. -/
def plant (s : Store) (p : Place) (e : Entry) : Store :=
  let above := (List.range p.length).map p.take
  let s := above.foldl (fun s q => if (s.find? q).isSome then s else s.put q .directory) s
  s.put p e

def files (s : Store) : List (Place × List UInt8) :=
  s.entries.filterMap fun e =>
    match e.2 with
    | .file content => some (e.1, content)
    | .directory => none

theorem lookup_put (s : Store) (p q : Place) (e : Entry) :
    (s.put p e).entries.lookup q = if q = p then some e else s.entries.lookup q := by
  unfold put
  by_cases h : q = p
  · subst h
    simp
  · have differ : (q == p) = false := by simp [h]
    simp only [List.lookup_cons, differ, h, if_false]
    generalize s.entries = entries
    induction entries with
    | nil => rfl
    | cons f rest ih =>
      obtain ⟨r, f⟩ := f
      by_cases hr : r = p
      · subst hr
        simp [differ, ih, List.lookup_cons]
      · have keep : (r != p) = true := by simp [hr]
        simp [keep, ih, List.lookup_cons]

theorem find?_put {s : Store} {p : Place} (hp : p ≠ []) (q : Place) (e : Entry) :
    (s.put p e).find? q = if q = p then some e else s.find? q := by
  by_cases h : q = []
  · subst h
    simp [find?, Ne.symm hp]
  · simp [find?, h, lookup_put]

end Store

end EnvDoctor
