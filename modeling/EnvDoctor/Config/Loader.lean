import EnvDoctor.Config.Location
import EnvDoctor.Config.Validation
import EnvDoctor.Json.Reader
import EnvDoctor.Text.Utf8
import EnvDoctor.Toml.Reader
import EnvDoctor.Yaml.Reader

/-!
# Loading configurations

A configuration is loaded from a file, whose suffix tells the format, or read from a text that is
the configuration itself. Without either it is looked for.
-/

namespace EnvDoctor

inductive Format where
  | toml
  | json
  | yaml
  | script
  /-- JSON, or else TOML. -/
  | either
  deriving DecidableEq, Repr

def Format.ofPath (p : Path) : Format :=
  match p.lowerSuffix with
  | ".py" => .script
  | ".toml" => .toml
  | ".json" => .json
  | ".yaml" | ".yml" => .yaml
  | _ => .either

namespace Config

inductive ContentFault where
  | encoding (fault : Text.Utf8.Fault)
  | json (text : List Char) (fault : Json.Fault)
  | toml (fault : Toml.Fault)
  | yaml (fault : Yaml.Fault)

def ContentFault.message : ContentFault → String
  | encoding fault => fault.message
  | json text fault => fault.message text
  | toml fault => fault.message
  | yaml fault => fault.message

/-- A fault of the content of a file. A scalar that breaks off the reading is no fault of it. -/
def ContentFault.inFile (name : String) : ContentFault → LoadFault
  | yaml fault =>
    if fault.ofText then .config ⟨.fileUnreadable name fault.message, some name⟩
    else .scalar fault
  | fault => .config ⟨.fileUnreadable name fault.message, some name⟩

def readJson (text : List Char) : Except ContentFault Value :=
  (Json.read text).mapError (.json text)

def readToml (text : List Char) : Except ContentFault Value :=
  (Toml.read text).mapError .toml

/-- An empty document counts as an empty table. -/
def readYaml (text : List Char) : Except ContentFault Value := do
  let v ← (Yaml.read text).mapError .yaml
  return if v.isTruthy then v else .table []

def readText : Format → List Char → Except ContentFault Value
  | .toml, text => readToml text
  | .json, text => readJson text
  | .yaml, text => readYaml text
  | .script, text | .either, text =>
    match readJson text with
    | .ok v => .ok v
    | .error _ => readToml text

/-- The value of bytes in a format, with all line ends written alike. -/
def readContent (format : Format) (content : List UInt8) : Except ContentFault Value := do
  let text ← (Text.Utf8.decode content).mapError .encoding
  readText format (Text.normalizeNewlines text)

def readFile (w : Workspace) (path : Path) : Except LoadFault Value :=
  let name := path.toText
  match w.read name with
  | .error .notFound => .error (.ofConfig name (.fileNotFound name))
  | .error fault => .error (.ofConfig name (.fileUnreadable name (fault.message name)))
  | .ok content => (readContent (Format.ofPath path) content).mapError (ContentFault.inFile name)

def absolute (w : Workspace) (path : String) : String :=
  if path.startsWith "/" then path else joinPath w.directory path

def runScript (w : Workspace) (path : Path) : Script.Result :=
  let place := absolute w path.toText
  match w.read place with
  | .error fault => .raises (fault.message place)
  | .ok content => w.host.runScript place content

/-- The value of a name after all assignments. -/
def valueOf? (name : String) (names : List (String × Value)) : Option Value :=
  names.reverse.lookup name

/-- The configuration that a script defines: the value of `config`, or else the sections that it
assigns. -/
def scriptValue (names : List (String × Value)) : Option Value :=
  match valueOf? "config" names with
  | some v => if v.isNull then sections else some v
  | none => sections
where
  sections : Option Value :=
    let found := ["requirements", "checkers"].filterMap fun key =>
      (valueOf? key names).map fun v => (key, v)
    if found.isEmpty then none else some (.record found)

/-- The value in a script file. The suffix must be in lower case. -/
def readScript (w : Workspace) (path : Path) : Except LoadFault Value :=
  let name := path.toText
  let fail (fault : ConfigFault) := .error (.ofConfig name fault)
  if path.suffix ≠ ".py" then fail (.cannotImport name)
  else
    match runScript w path with
    | .exits complaint => .error (.exited complaint)
    | .raises complaint => fail (.importFailed name complaint)
    | .defines names =>
      match scriptValue names with
      | some v => .ok v
      | none => fail (.definesNothing name)

def readAny (w : Workspace) (path : Path) : Except LoadFault Value :=
  match Format.ofPath path with
  | .script => readScript w path
  | _ => readFile w path

/-- A path whose first name is a tilde, perhaps with the name of a user, starts at a home
directory. -/
def expandHome (w : Workspace) (path : Path) : Except LoadFault Path :=
  match path.root, path.names with
  | "", first :: rest =>
    if !first.startsWith "~" then .ok path
    else
      let user := (first.drop 1).toString
      if user.contains '\x00' then .error (.file ⟨.nullByte, first⟩)
      else
        match if user.isEmpty then some w.home else w.users.find? user with
        | some home =>
          let home := Path.ofText home
          .ok { home with names := home.names ++ rest }
        | none => .error .homeUnknown
  | _, _ => .ok path

variable [CharacterNames]

def loadFile (w : Workspace) (source : String) : Except LoadFault Config := do
  let path ← expandHome w (Path.ofText source)
  let data ← readAny w path
  ofValue data (some path.toText)

def loadInline (text : String) : Except LoadFault Config :=
  match readJson text.toList with
  | .ok data => ofValue data (some "<inline>")
  | .error fault => .error (.config ⟨.inlineUnreadable fault.message, none⟩)

def loadSource (w : Workspace) (source : String) : Except LoadFault Config := do
  let isPath ← (w.looksLikeConfigPath source).mapError LoadFault.file
  if isPath then loadFile w source else loadInline source

/-- The source that is used unless one is given: the one of the settings, or else the
configuration file that is found. -/
def defaultSource (w : Workspace) : Except LoadFault (Option String) :=
  let configured := Text.strip w.configSource
  if configured.isEmpty then (w.findConfig none).mapError LoadFault.file
  else .ok (some configured)

/-- Loads a configuration. There is none if no source is given and none is found. -/
def load (w : Workspace) (source : Option String) : Except LoadFault (Option Config) := do
  let given := source.filter fun s => !s.isEmpty
  match given with
  | some source => some <$> loadSource w source
  | none =>
    match ← defaultSource w with
    | some source => some <$> loadSource w source
    | none => return none

end Config

end EnvDoctor
