import EnvDoctor.Files.Workspace
import EnvDoctor.Host.Usual
import EnvDoctor.Json.Reader
import EnvDoctor.Process
import EnvDoctor.Text.Utf8
import EnvDoctor.Value.Written

/-!
# Snapshots

A snapshot describes the files, the settings and the programs of an environment as a value: files
by their paths in the working directory or in the home directory, with their texts, with their
bytes in hexadecimal, or with null for a directory; settings by their names; programs by their
commands, with what they print or with the reason why they do not end well.
-/

namespace EnvDoctor.Snapshot

def replaceAll (old new : List Char) : (fuel : Nat) → List Char → List Char
  | 0, s => s
  | _ + 1, [] => []
  | fuel + 1, c :: rest =>
    match old.isPrefixOf? (c :: rest) with
    | some tail => if old.isEmpty then c :: rest else new ++ replaceAll old new fuel tail
    | none => c :: replaceAll old new fuel rest

def replace (old new s : String) : String :=
  String.ofList (replaceAll old.toList new.toList (s.length + 1) s.toList)

def hexBytes : List Char → List UInt8
  | a :: b :: rest => UInt8.ofNat (Text.valueInBase 16 [a, b]) :: hexBytes rest
  | _ => []

def entryOf (v : Value) : Entry :=
  match v with
  | .text s => .file (Text.Utf8.encode s.toList)
  | .table _ =>
    match v.field? "hex" with
    | some (.text s) => .file (hexBytes s.toList)
    | _ => .directory
  | _ => .directory

def entriesOf : Option Value → List (Value × Value)
  | some (.table entries) => entries
  | _ => []

def plantAll (base : Place) (entries : List (Value × Value)) (s : Store) : Store :=
  entries.foldl
    (fun s e => s.plant (base ++ (Path.ofText e.1.display).names) (entryOf e.2)) s

/-- A text field; a text that is missing or null is empty. -/
def textField (key : String) (v : Value) : String :=
  match v.field? key with
  | some (.text s) => s
  | _ => ""

/-- The workspace of a snapshot, with the paths of its two directories. In settings `<cwd>` and
`<home>` stand for these paths. -/
def workspaceOf (directory home : String) (v : Value) : Workspace :=
  let place (path : String) := (Path.ofText path).names
  let base := (Store.empty.plant (place directory) .directory).plant (place home) .directory
  let store := plantAll (place home) (entriesOf (v.field? "home"))
    (plantAll (place directory) (entriesOf (v.field? "files")) base)
  let setting (name : String) : String :=
    let text := textField name (.table (entriesOf (v.field? "env")))
    replace "<home>" home (replace "<cwd>" directory text)
  { store, directory, home
    users := [("root", "/root")]
    configSource := setting "DOCTOR_CONFIG"
    configHome := setting "XDG_CONFIG_HOME"
    host := .usual }

def endingOf (v : Value) : Ending :=
  match v with
  | .text s => .ends ⟨s, "", 0⟩
  | _ =>
    match v.field? "fail" with
    | some (.text "timeout") => .timesOut
    | some (.text _) => .cannotStart
    | _ =>
      let code := match v.field? "code" with
        | some (.int n) => n
        | _ => 0
      .ends ⟨textField "stdout" v, textField "stderr" v, code⟩

/-- The arguments make no difference to a program of a snapshot. -/
def programOf (v : Value) : Program :=
  fun _ => endingOf v

def programsOf (v : Value) : Programs :=
  Named.ofList ((entriesOf (v.field? "procs")).map fun e => (e.1.display, programOf e.2))

end EnvDoctor.Snapshot
