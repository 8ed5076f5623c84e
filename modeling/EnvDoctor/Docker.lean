import EnvDoctor.Json.Reader
import EnvDoctor.Named
import EnvDoctor.Routine
import EnvDoctor.Value.Written

/-!
# Docker

Docker prints its versions as a JSON document with a section for the client and one for the
server; the server has components of its own.
-/

namespace EnvDoctor.Docker

def document (output : String) : List (Value × Value) :=
  match Json.read output.toList with
  | .ok (.table entries) => entries
  | _ => []

def section? (name : String) (entries : List (Value × Value)) : Option (List (Value × Value)) :=
  match Value.lookup name entries with
  | some (.table entries) => some entries
  | _ => none

def present? (name : String) (entries : List (Value × Value)) : Option Value :=
  (Value.lookup name entries).filter Value.isTruthy

def versionOf? (entries : List (Value × Value)) : Option String :=
  (present? "Version" entries).map Value.display

def clientVersion? (output : String) : Option String :=
  (section? "Client" (document output)).bind versionOf?

/-- The members of a list of components; text and tables have members that are no components.
Nothing if the value has no members. -/
def members? : Option Value → Option (List Value)
  | none => some []
  | some (.list items) => some items
  | some (.text _) | some (.table _) => some []
  | some v => if v.isTruthy then none else some []

def component? : Value → Option (String × String)
  | .table entries => do
    let name ← present? "Name" entries
    let version ← present? "Version" entries
    some (name.display, version.display)
  | _ => none

/-- The versions of the client, of the server and of its components. A later one of a name counts.
Nothing if the components of the server cannot be listed. -/
def components? (output : String) : Option (Named String) := do
  let document := document output
  let client := ((section? "Client" document).bind versionOf?).map fun v => ("Client", v)
  let server := section? "Server" document
  let serverVersion := (server.bind versionOf?).map fun v => ("Server", v)
  let members ← members? (server.bind (Value.lookup "Components"))
  some (Named.ofList
    (client.toList ++ serverVersion.toList ++ members.filterMap component?))

def versionRoutine : Routine where
  name := "parse_docker_version"
  run output := some (((clientVersion? output).map Value.text).getD .null)

def componentsRoutine : Routine where
  name := "parse_docker_components"
  run output := (components? output).map fun found =>
    if found.isEmpty then .null else .record (found.map fun c => (c.1, .text c.2))

end EnvDoctor.Docker
