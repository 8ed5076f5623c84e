import EnvDoctor.Files.Workspace
import EnvDoctor.Text.Utf8
import EnvDoctor.Toml.Writer

/-!
# The sample configuration

The configuration to start with, as a value and as a TOML file.
-/

namespace EnvDoctor.Config

def constraintTable (operator version : String) : Value :=
  .record [("operator", .text operator), ("version", .text version)]

def sample : Value :=
  .record [
    ("requirements", .record [
      ("node", .text ">= 18.0.0, < 23.0.0"),
      ("npm", constraintTable ">=" "8.0.0"),
      ("git", constraintTable ">=" "2.0.0"),
      ("python3", .list [constraintTable ">=" "3.10.0", constraintTable "<" "4.0.0"])]),
    ("checkers", .record [
      ("rustc", .record [
        ("command", .text "rustc"),
        ("version_flag", .text "--version"),
        ("parse_version", .text "rustc (\\d+\\.\\d+\\.\\d+)")])])]

def sampleText : String :=
  Toml.write sample

def saveSample (path : String) : Workspace.Filing Unit :=
  Workspace.save path (Text.Utf8.encode sampleText.toList)

end EnvDoctor.Config
