import EnvDoctor.Files.Workspace
import EnvDoctor.Text.CaseFold

/-!
# Locations of configurations

Which texts are taken for the path of a configuration file, and where configuration files are
looked for: in the working directory under several names, and in the directory for configurations.
-/

namespace EnvDoctor

/-- The text starts like a path with a drive, or has a backslash. -/
def looksLikeWindowsPath (s : String) : Bool :=
  let s := Text.trim s.toList
  let drive := match s with
    | [letter, ':'] | letter :: ':' :: '\\' :: _ | letter :: ':' :: '/' :: _ => letter.isAlpha
    | _ => false
  drive || s.contains '\\'

def configSuffixes : List String :=
  [".toml", ".json", ".yaml", ".yml", ".py"]

/-- The names under which a configuration is looked for, the first one counting most. -/
def configNames : List String :=
  ["doctor.toml", "doctor.config.toml", "doctor.config.py", "doctor.config.json",
   "doctor.config.yaml", "doctor.config.yml"]

namespace Workspace

/-- The text is the path of a configuration file and no configuration itself: it has a slash or a
backslash, or the suffix of a configuration file, or it leads to a file. -/
def looksLikeConfigPath (w : Workspace) (s : String) : Except FileError Bool :=
  let trimmed := Text.trim s.toList
  let lower := trimmed.map Text.lower
  match trimmed with
  | '\x7b' :: _ | '[' :: _ => .ok false
  | _ =>
    if trimmed.contains '/' || looksLikeWindowsPath s ||
        configSuffixes.any fun suffix => suffix.toList.isSuffixOf lower then .ok true
    else w.isFile (Path.ofText (String.ofList trimmed)).toText

def userConfigPath (w : Workspace) : String :=
  w.host.configDirectory w.configHome w.home ++ "/doctor.toml"

def firstFile (w : Workspace) : List String → Except FileError (Option String)
  | [] => .ok none
  | path :: rest => do
    if ← w.isFile path then return some path else firstFile w rest

/-- The paths where a configuration is looked for, from a directory on. -/
def configCandidates (w : Workspace) (directory : String) : List String :=
  configNames.map (fun name => ((Path.ofText directory).child name).toText) ++
    [(Path.ofText w.userConfigPath).toText]

def findConfig (w : Workspace) (directory : Option String) : Except FileError (Option String) :=
  w.firstFile (w.configCandidates (directory.getD w.directory))

end Workspace

end EnvDoctor
