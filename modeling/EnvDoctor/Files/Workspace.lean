import EnvDoctor.Files.Store
import EnvDoctor.Host.Basic
import EnvDoctor.Named

/-!
# Workspaces

The files and the settings that a run of the program sees: the store, the working directory, the
home directories, the two settings that say where the configuration is, and the host. A path that
is not absolute starts at the working directory.
-/

namespace EnvDoctor

structure Workspace where
  store : Store
  directory : String
  home : String
  users : Named String
  /-- The configuration to use unless another one is given. -/
  configSource : String
  configHome : String
  host : Host

structure FileError where
  fault : FileFault
  path : String
  deriving DecidableEq, Repr

def FileError.message (e : FileError) : String :=
  e.fault.message e.path

def pathLimit : Nat := 4095

namespace Workspace

/-- The place of a path from the root, before it is walked. -/
def startOf (w : Workspace) (path : String) : Place :=
  if path.startsWith "/" then [] else (Path.ofText w.directory).names

/-- A path must not be empty, must not be too long and has no null byte. -/
def checkPath (path : String) : Except FileFault Unit :=
  if path.contains '\x00' then .error .nullByte
  else if path.isEmpty then .error .notFound
  else if path.utf8ByteSize > pathLimit then .error .nameTooLong
  else .ok ()

/-- The place that a path leads to, where something may stand or not. -/
def place (w : Workspace) (path : String) : Except FileFault Place := do
  checkPath path
  w.store.walk (w.startOf path) (pathNames path)

def entry (w : Workspace) (path : String) : Except FileFault Entry := do
  let p ← w.place path
  match w.store.find? p with
  | some e => return e
  | none => throw .notFound

def hasEntry (w : Workspace) (path : String) : Bool :=
  (w.entry path).isOk

def isDirectory (w : Workspace) (path : String) : Bool :=
  match w.entry path with
  | .ok .directory => true
  | _ => false

/-- A path leads to a file. A name that is too long is an error, whatever else is wrong is not. -/
def isFile (w : Workspace) (path : String) : Except FileError Bool :=
  match w.entry path with
  | .ok (.file _) => .ok true
  | .error .nameTooLong => .error ⟨.nameTooLong, path⟩
  | _ => .ok false

def read (w : Workspace) (path : String) : Except FileFault (List UInt8) := do
  w.store.read (← w.place path)

/-- The directory that is to hold the last name of a path, and that name. -/
def holder (w : Workspace) (path : String) : Except FileFault (Place × String) := do
  checkPath path
  let names := pathNames path
  let p ← w.store.walk (w.startOf path) names.dropLast
  return (← w.store.directory p, names.getLast?.getD "")

/-- A name that stands for a directory which is there already. -/
def isStanding (name : String) : Bool :=
  name = "" || name = "." || name = ".."

/-- An activity that may change the workspace and may fail; what it has changed before it fails
stays changed. -/
abbrev Filing := ExceptT FileError (StateM Workspace)

def change (path : String) (update : Workspace → Except FileFault Store) : Filing Unit := do
  let w ← get
  match update w with
  | .ok store => set { w with store }
  | .error fault => throw ⟨fault, path⟩

def makeDirectory (path : String) : Filing Unit :=
  change path fun w => do
    let (p, name) ← w.holder path
    if isStanding name then throw .alreadyExists
    else w.store.makeDirectory (← w.store.enter p name)

/-- A path up to its last slash, without the slashes there unless it has nothing else, and the name
after it. -/
def splitPath (path : List Char) : List Char × List Char :=
  let tail := (path.reverse.takeWhile (· != '/')).reverse
  let head := path.take (path.length - tail.length)
  let trimmed := (head.reverse.dropWhile (· == '/')).reverse
  (if trimmed.isEmpty then head else trimmed, tail)

/-- The path of the directory that holds what a path leads to. -/
def parentPath (path : String) : String :=
  String.ofList (splitPath path.toList).1

/-- Makes a directory and the directories that lead to it, as far as they are missing. -/
def makeDirectories : (fuel : Nat) → String → Filing Unit
  | 0, path => throw ⟨.nameTooLong, path⟩
  | fuel + 1, path => do
    let (head, tail) := splitPath path.toList
    let (head, tail) := if tail.isEmpty then splitPath head else (head, tail)
    let above := String.ofList head
    if !head.isEmpty && !tail.isEmpty && !(← get).hasEntry above then
      tryCatch (makeDirectories fuel above) fun e =>
        if e.fault = .alreadyExists then pure () else throw e
      if tail = ['.'] then return
    tryCatch (makeDirectory path) fun e => do
      if !(← get).isDirectory path then throw e

def writeFile (path : String) (content : List UInt8) : Filing Unit :=
  change path fun w => do
    let (p, name) ← w.holder path
    if isStanding name then throw .isDirectory
    else w.store.write (← w.store.enter p name) content

def save (path : String) (content : List UInt8) : Filing Unit := do
  let parent := parentPath path
  if !parent.isEmpty then makeDirectories (path.length + 1) parent
  writeFile path content

end Workspace

end EnvDoctor
