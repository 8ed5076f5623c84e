import EnvDoctor.Config.Loader
import EnvDoctor.Config.Sample
import Mathlib.Data.List.Basic

/-!
# The text of the sample configuration

The sample as it is written, and what each reader makes of it. Only TOML reads it: the header of the
first table is a list to a reader of JSON and of YAML, and what comes after a list is a fault to
both of them.
-/

namespace EnvDoctor

theorem Text.normalizeNewlines_of_notMem {s : List Char} (clean : '\r' ∉ s) :
    normalizeNewlines s = s := by
  fun_induction normalizeNewlines s with
  | case1 => rfl
  | case2 rest ih => simp at clean
  | case3 rest _ ih => simp at clean
  | case4 c rest _ _ ih =>
    rw [ih fun inside => clean (List.mem_cons_of_mem _ inside)]

namespace Toml

theorem keyText_of_bare {key : String} (nonempty : key ≠ "")
    (bare : key.toList.all isBareKeyChar = true) : keyText key = key := by
  simp [keyText, bare, nonempty]

theorem toList_quoted (s : String) :
    (quoted s).toList = '"' :: (s.toList.flatMap escaped ++ ['"']) := by
  rw [quoted, String.toList_ofList]
  rfl

end Toml

namespace Config

@[irreducible]
def sampleLiteral : String :=
"[requirements]
node = \">= 18.0.0, < 23.0.0\"
python3 = [
    \x7b operator = \">=\", version = \"3.10.0\" \x7d,
    \x7b operator = \"<\", version = \"4.0.0\" \x7d,
]

[requirements.npm]
operator = \">=\"
version = \"8.0.0\"

[requirements.git]
operator = \">=\"
version = \"2.0.0\"

[checkers.rustc]
command = \"rustc\"
version_flag = \"--version\"
parse_version = \"rustc (\\\\d+\\\\.\\\\d+\\\\.\\\\d+)\"
"

def sampleKeys : List String :=
  ["requirements", "node", "npm", "git", "python3", "operator", "version", "checkers", "rustc",
   "command", "version_flag", "parse_version"]

theorem keyText_sampleKeys : ∀ key ∈ sampleKeys, Toml.keyText key = key := by
  intro key among
  apply Toml.keyText_of_bare
  · rintro rfl
    exact absurd among (by decide)
  · revert key
    decide

/-- The sample as it is read back: subtables come after plain values. -/
def reread : Value :=
  .record [
    ("requirements", .record [
      ("node", .text ">= 18.0.0, < 23.0.0"),
      ("python3", .list [constraintTable ">=" "3.10.0", constraintTable "<" "4.0.0"]),
      ("npm", constraintTable ">=" "8.0.0"),
      ("git", constraintTable ">=" "2.0.0")]),
    ("checkers", .record [
      ("rustc", .record [
        ("command", .text "rustc"),
        ("version_flag", .text "--version"),
        ("parse_version", .text "rustc (\\d+\\.\\d+\\.\\d+)")])])]

section

set_option maxRecDepth 100000

theorem toList_sampleText : sampleText.toList = sampleLiteral.toList := by
  have keys := keyText_sampleKeys
  simp only [sampleKeys, List.forall_mem_cons] at keys
  rw [sampleLiteral, String.toList_ofList]
  simp [sampleText, Toml.write, sample, Toml.sections, Toml.subsections, Toml.needsHeader,
    Toml.plainLines, Value.record, Toml.subtableName, constraintTable, Toml.inlineText,
    Toml.inlineEntries, Toml.itemLines, Toml.scalarText, keys, Toml.toList_quoted, Toml.escaped,
    Toml.isControl]

theorem readToml_sampleLiteral : readToml sampleLiteral.toList = .ok reread := by
  rw [sampleLiteral, String.toList_ofList]
  rfl

/-- There is no value, and what is wrong is the text as a whole. -/
def failsByText : Except ContentFault Value → Bool
  | .ok _ => false
  | .error (.yaml fault) => fault.ofText
  | .error _ => true

theorem failsByText_readJson_sampleLiteral :
    failsByText (readJson sampleLiteral.toList) = true := by
  rw [sampleLiteral, String.toList_ofList]
  decide +kernel

/-- The first line would list a name in a script, and no comment follows it. -/
theorem exists_rest_sampleLiteral :
    ∃ rest, sampleLiteral.toList = "[requirements]\n".toList ++ rest ∧ '#' ∉ rest := by
  rw [sampleLiteral, String.toList_ofList]
  exact ⟨_, rfl, by decide +kernel⟩

theorem failsByText_readYaml_sampleLiteral :
    failsByText (readYaml sampleLiteral.toList) = true := by
  rw [sampleLiteral, String.toList_ofList]
  decide +kernel

theorem decode_encode_sampleLiteral :
    Text.Utf8.decode (Text.Utf8.encode sampleLiteral.toList) = .ok sampleLiteral.toList := by
  rw [sampleLiteral, String.toList_ofList]
  rfl

theorem cr_notMem_sampleLiteral : '\r' ∉ sampleLiteral.toList := by
  rw [sampleLiteral, String.toList_ofList]
  decide +kernel

end

theorem exists_config_of_failsByText {x : Except ContentFault Value} (fails : failsByText x = true)
    (name : String) : ∃ e, x.mapError (ContentFault.inFile name) = .error (.config e) := by
  cases x with
  | ok v => cases fails
  | error fault =>
    cases fault with
    | yaml fault =>
      have whole : fault.ofText = true := fails
      have told : ContentFault.inFile name (.yaml fault) =
          .config ⟨.fileUnreadable name fault.message, some name⟩ := by
        rw [ContentFault.inFile, if_pos whole]
      exact ⟨_, congrArg Except.error told⟩
    | encoding | json | toml => exact ⟨_, rfl⟩

theorem readContent_of_decode {content : List UInt8} {text : List Char}
    (decoded : Text.Utf8.decode content = .ok text) (clean : '\r' ∉ text) (format : Format) :
    readContent format content = readText format text := by
  rw [readContent, decoded]
  change readText format (Text.normalizeNewlines text) = _
  rw [Text.normalizeNewlines_of_notMem clean]

theorem decode_encode_sampleText :
    Text.Utf8.decode (Text.Utf8.encode sampleText.toList) = .ok sampleLiteral.toList := by
  rw [toList_sampleText, decode_encode_sampleLiteral]

/-- What a reader makes of the file is what it makes of the text. -/
theorem readContent_sampleText (format : Format) :
    readContent format (Text.Utf8.encode sampleText.toList) =
      readText format sampleLiteral.toList :=
  readContent_of_decode decode_encode_sampleText cr_notMem_sampleLiteral format

theorem readText_sampleLiteral {format : Format} (toml : format = .toml ∨ format = .either) :
    readText format sampleLiteral.toList = .ok reread := by
  rcases toml with rfl | rfl
  · exact readToml_sampleLiteral
  · have fails := failsByText_readJson_sampleLiteral
    rw [readText]
    cases read : readJson sampleLiteral.toList with
    | ok v =>
      rw [read] at fails
      cases fails
    | error fault => exact readToml_sampleLiteral

theorem failsByText_readText_sampleLiteral {format : Format}
    (other : format = .json ∨ format = .yaml) :
    failsByText (readText format sampleLiteral.toList) = true := by
  rcases other with rfl | rfl
  · exact failsByText_readJson_sampleLiteral
  · exact failsByText_readYaml_sampleLiteral

end Config

end EnvDoctor
