import EnvDoctor.Files.Path
import EnvDoctor.Host.Basic
import EnvDoctor.Script.Reader
import EnvDoctor.Text.Lines
import EnvDoctor.Text.Utf8

/-!
# The usual host

Configurations are kept in the directory that the setting names, unless its path is relative, and
else below the home directory. Scripts are literals assigned to names.
-/

namespace EnvDoctor.Host

/-- Runs a script that assigns literals. -/
def runLiterals (path : String) (content : List UInt8) : Script.Result :=
  let name := (Path.ofText path).lastName
  match Text.Utf8.decode content with
  | .error fault => .raises ("(unicode error) " ++ fault.message ++ " (" ++ name ++ ", line 1)")
  | .ok text =>
    let text := Text.normalizeNewlines text
    let text := if text.head? = some '\uFEFF' then text.tail else text
    match Script.read text with
    | .error fault => .raises (fault.message name text)
    | .ok names => .defines names

def usual : Host where
  configDirectory setting home :=
    let base := if setting.startsWith "/" then setting else joinPath home ".config"
    joinPath base "doctor"
  runScript := runLiterals

end EnvDoctor.Host
