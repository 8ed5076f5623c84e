import EnvDoctor.CommandLine.Run
import EnvDoctor.Host.Usual
import EnvDoctor.Proofs.Config.Probing
import EnvDoctor.Proofs.Config.Unwritable
import EnvDoctor.Text.CharacterName
import EnvDoctor.Version.Strict

/-!
# Faults that are not about a configuration

Loading a configuration is meant to fail with faults of the configuration alone, which commands
report. What else it can fail with is listed here, by what the source and the files are like, and
nothing is missing from the list.
-/

namespace EnvDoctor.Config

open Workspace

/-- The source that a configuration is loaded from. -/
inductive Chosen (w : Workspace) : Option String → String → Prop
  | given {s : String} (nonempty : s ≠ "") : Chosen w (some s) s
  | configured {source : Option String} (missing : source.getD "" = "")
      (set : Text.strip w.configSource ≠ "") : Chosen w source (Text.strip w.configSource)
  | found {source : Option String} {path : String} (missing : source.getD "" = "")
      (blank : Text.strip w.configSource = "")
      (first : FirstFaulty (fun q => w.isFile q = .ok false)
        (fun q => (∃ content, w.entry q = .ok (.file content)) ∧ path = q)
        (w.configCandidates w.directory)) : Chosen w source path

/-- The content of a file is no YAML, because of a scalar that breaks off the reading. -/
structure BreaksOff (w : Workspace) (path : Path) (fault : Yaml.Fault) : Prop where
  format : Format.ofPath path = .yaml
  content : ∃ content, w.read path.toText = .ok content ∧
    readContent .yaml content = .error (.yaml fault)
  scalar : fault.ofText = false

/-- A script file ends the whole program. -/
structure EndsProgram (w : Workspace) (path : Path) (complaint : String) : Prop where
  suffix : path.suffix = ".py"
  exits : runScript w path = .exits complaint

/-- A source holds a value, under the name that faults tell. -/
inductive Holds (w : Workspace) (s : String) : Value → String → Prop
  | file {path : Path} {data : Value} (taken : w.TakenForPath s)
      (expanded : expandHome w (Path.ofText s) = .ok path) (read : readAny w path = .ok data) :
      Holds w s data path.toText
  | inline {data : Value} (text : ¬ w.TakenForPath s) (probed : ¬ w.ProbesOverlong s)
      (read : readJson s.toList = .ok data) : Holds w s data "<inline>"

section Names

variable [CharacterNames]

/-- What loading from a source fails with besides faults of the configuration. -/
inductive EscapesFrom (w : Workspace) (s : String) : LoadFault → Prop
  /-- A text is too long to find out whether it is the name of a file. -/
  | probe (overlong : w.ProbesOverlong s) : EscapesFrom w s (.file ⟨.nameTooLong, probedPath s⟩)
  | nullUser {user : String} {rest : List String} (taken : w.TakenForPath s)
      (home : Path.ofText s = ⟨"", ("~" ++ user) :: rest⟩) (null : '\x00' ∈ user.toList) :
      EscapesFrom w s (.file ⟨.nullByte, "~" ++ user⟩)
  /-- Nobody is known whose home directory is asked for. -/
  | unknownUser {user : String} {rest : List String} (taken : w.TakenForPath s)
      (home : Path.ofText s = ⟨"", ("~" ++ user) :: rest⟩) (clean : '\x00' ∉ user.toList)
      (named : user ≠ "") (unknown : w.users.find? user = none) : EscapesFrom w s .homeUnknown
  | scalar {path : Path} {f : Yaml.Fault} (taken : w.TakenForPath s)
      (expanded : expandHome w (Path.ofText s) = .ok path) (breaks : BreaksOff w path f) :
      EscapesFrom w s (.scalar f)
  | script {path : Path} {complaint : String} (taken : w.TakenForPath s)
      (expanded : expandHome w (Path.ofText s) = .ok path) (ends : EndsProgram w path complaint) :
      EscapesFrom w s (.exited complaint)
  | number {name : String} {data : Value} (holds : Holds w s data name)
      (stops : StopsAtNumber data) : EscapesFrom w s (.number ⟨none⟩)
  /-- A pattern is beyond the limits of patterns. -/
  | pattern {name text : String} {data : Value} {f : Pattern.Fault} (holds : Holds w s data name)
      (invalid : validate data (some name) = .error (.rule (.invalidPattern text f)))
      (limit : f.isLimit = true) : EscapesFrom w s (.pattern text f)

/-- What loading a configuration fails with besides faults of the configuration: a path that is too
long is met before any configuration is found, or loading from the source fails so. -/
inductive Escapes (w : Workspace) (source : Option String) : LoadFault → Prop
  | lookup {path : String} (missing : source.getD "" = "")
      (blank : Text.strip w.configSource = "")
      (first : FirstFaulty (fun q => w.isFile q = .ok false) (fun q => w.Overlong q ∧ path = q)
        (w.configCandidates w.directory)) : Escapes w source (.file ⟨.nameTooLong, path⟩)
  | loading {s : String} {fault : LoadFault} (chosen : Chosen w source s)
      (escapes : EscapesFrom w s fault) : Escapes w source fault

end Names

def IsConfig (fault : LoadFault) : Prop :=
  ∃ e, fault = .config e

variable {w : Workspace} {fault : LoadFault}

/-- What follows a tilde in a name. -/
theorem drop_tilde (user : String) : (("~" ++ user).drop 1).toString = user := by
  apply String.toList_injective
  change (("~" ++ user).drop 1).copy.toList = _
  rw [String.toList_copy_drop, String.toList_append]
  rfl

theorem startsWith_tilde_iff {name : String} :
    name.startsWith "~" = true ↔ ∃ user, name = "~" ++ user := by
  rw [String.startsWith_string_iff]
  constructor
  · rintro ⟨rest, whole⟩
    refine ⟨String.ofList rest, String.toList_injective ?_⟩
    rw [← whole]
    simp
  · rintro ⟨user, rfl⟩
    rw [String.toList_append]
    exact List.prefix_append _ _

theorem ne_tilde_of_head? {p : Path} (plain : p.names.head?.any (·.toList.head? != some '~') = true)
    (user : String) (rest : List String) : p ≠ ⟨"", ("~" ++ user) :: rest⟩ := by
  rintro rfl
  simp [String.toList_append] at plain

theorem expandHome_of_not_tilde {path : Path}
    (other : ∀ user rest, path ≠ ⟨"", ("~" ++ user) :: rest⟩) : expandHome w path = .ok path := by
  unfold expandHome
  split
  next first rest root names =>
    have plain : first.startsWith "~" = false := by
      rw [Bool.eq_false_iff, Ne, startsWith_tilde_iff]
      rintro ⟨user, rfl⟩
      apply other user rest
      rw [← root, ← names]
    rw [plain]
    rfl
  next => rfl

theorem expandHome_eq_error_iff {path : Path} :
    expandHome w path = .error fault ↔ ∃ user rest, path = ⟨"", ("~" ++ user) :: rest⟩ ∧
      ('\x00' ∈ user.toList ∧ fault = .file ⟨.nullByte, "~" ++ user⟩ ∨
        '\x00' ∉ user.toList ∧ user ≠ "" ∧ w.users.find? user = none ∧ fault = .homeUnknown) := by
  by_cases home : ∃ user rest, path = ⟨"", ("~" ++ user) :: rest⟩
  · obtain ⟨user, rest, rfl⟩ := home
    have tilde : ("~" ++ user).startsWith "~" = true := startsWith_tilde_iff.mpr ⟨user, rfl⟩
    have fault_iff : expandHome w ⟨"", ("~" ++ user) :: rest⟩ = .error fault ↔
        ('\x00' ∈ user.toList ∧ fault = .file ⟨.nullByte, "~" ++ user⟩ ∨
          '\x00' ∉ user.toList ∧ user ≠ "" ∧ w.users.find? user = none ∧
            fault = .homeUnknown) := by
      simp only [expandHome, tilde, drop_tilde, String.contains_char_eq]
      by_cases null : '\x00' ∈ user.toList
      · simp [null, eq_comm]
      · by_cases own : user = ""
        · simp [own]
        · cases known : w.users.find? user with
          | none =>
            simp [null, own]
            exact eq_comm
          | some home => simp [null, own]
    rw [fault_iff]
    constructor
    · intro cause
      exact ⟨user, rest, rfl, cause⟩
    · rintro ⟨user', rest', same, cause⟩
      have names := (List.cons.inj (Path.mk.inj same).2).1
      obtain rfl : user' = user := by
        rw [← drop_tilde user', ← drop_tilde user, names]
      exact cause
  · rw [expandHome_of_not_tilde fun user rest same => home ⟨user, rest, same⟩]
    constructor
    · nofun
    · rintro ⟨user, rest, same, -⟩
      exact absurd ⟨user, rest, same⟩ home

/-- Of the faults of a configuration, those of numbers and of the limits of patterns stand alone. -/
theorem ofConfig_eq_iff {s : Option String} {f : ConfigFault} :
    (LoadFault.ofConfig s f = fault ∧ ¬ IsConfig fault) ↔
      (∃ n, f = .numberTooLong n ∧ fault = .number n) ∨
        ∃ text g, f = .rule (.invalidPattern text g) ∧ g.isLimit = true ∧
          fault = .pattern text g := by
  unfold LoadFault.ofConfig
  split
  next text g =>
    cases limit : g.isLimit with
    | true =>
      constructor
      · rintro ⟨rfl, -⟩
        exact .inr ⟨text, g, rfl, limit, rfl⟩
      · rintro (⟨n, same, -⟩ | ⟨text', g', same, -, rfl⟩)
        · cases same
        · cases same
          exact ⟨rfl, by simp [IsConfig]⟩
    | false =>
      constructor
      · rintro ⟨rfl, other⟩
        exact absurd ⟨_, rfl⟩ other
      · rintro (⟨n, same, -⟩ | ⟨text', g', same, limit', -⟩)
        · cases same
        · cases same
          rw [limit] at limit'
          cases limit'
  next n =>
    constructor
    · rintro ⟨rfl, -⟩
      exact .inl ⟨n, rfl, rfl⟩
    · rintro (⟨n', same, rfl⟩ | ⟨text, g, same, -⟩)
      · cases same
        exact ⟨rfl, by simp [IsConfig]⟩
      · cases same
  next notPattern notNumber =>
    constructor
    · rintro ⟨rfl, other⟩
      exact absurd ⟨_, rfl⟩ other
    · rintro (⟨n, same, -⟩ | ⟨text, g, same, -⟩)
      · exact absurd same (notNumber n)
      · exact absurd same (notPattern text g)

theorem ofValue_escapes_iff [CharacterNames] {data : Value} {source : Option String} :
    (ofValue data source = .error fault ∧ ¬ IsConfig fault) ↔
      (StopsAtNumber data ∧ fault = .number ⟨none⟩) ∨
        ∃ text g, validate data source = .error (.rule (.invalidPattern text g)) ∧
          g.isLimit = true ∧ fault = .pattern text g := by
  unfold ofValue
  rw [mapError_eq_error_iff]
  constructor
  · rintro ⟨⟨f, failed, same⟩, other⟩
    rcases ofConfig_eq_iff.mp ⟨same, other⟩ with ⟨n, rfl, rfl⟩ | ⟨text, g, rfl, limit, rfl⟩
    · obtain ⟨stops, rfl⟩ := validate_eq_numberTooLong_iff.mp failed
      exact .inl ⟨stops, rfl⟩
    · exact .inr ⟨text, g, failed, limit, rfl⟩
  · rintro (⟨stops, rfl⟩ | ⟨text, g, failed, limit, rfl⟩)
    · obtain ⟨same, other⟩ := (ofConfig_eq_iff (s := source)).mpr (.inl ⟨_, rfl, rfl⟩)
      exact ⟨⟨_, validate_eq_numberTooLong_iff.mpr ⟨stops, rfl⟩, same⟩, other⟩
    · obtain ⟨same, other⟩ := (ofConfig_eq_iff (s := source)).mpr
        (.inr ⟨text, g, rfl, limit, rfl⟩)
      exact ⟨⟨_, failed, same⟩, other⟩

/-- Whatever is wrong with a script is a fault of the configuration, unless it ends the program. -/
theorem readScript_escapes_iff {path : Path} :
    (readScript w path = .error fault ∧ ¬ IsConfig fault) ↔
      ∃ complaint, EndsProgram w path complaint ∧ fault = .exited complaint := by
  -- The three faults of scripts are about the configuration.
  have isConfig {f : ConfigFault} (plain : LoadFault.ofConfig path.toText f =
      .config ⟨f, path.toText⟩) (failed : (Except.error (LoadFault.ofConfig path.toText f) :
        Except LoadFault Value) = .error fault) : IsConfig fault :=
    ⟨_, (Except.error.inj failed).symm.trans plain⟩
  constructor
  · rintro ⟨failed, other⟩
    unfold readScript at failed
    dsimp only at failed
    split at failed
    next => exact absurd (isConfig rfl failed) other
    next suffix =>
      split at failed
      next complaint exits =>
        cases failed
        exact ⟨complaint, ⟨not_not.mp suffix, exits⟩, rfl⟩
      next => exact absurd (isConfig rfl failed) other
      next =>
        split at failed
        next => cases failed
        next => exact absurd (isConfig rfl failed) other
  · rintro ⟨complaint, ends, rfl⟩
    refine ⟨?_, by simp [IsConfig]⟩
    unfold readScript
    dsimp only
    rw [if_neg (not_not.mpr ends.suffix), ends.exits]

theorem ofPath_of_endsProgram {path : Path} {complaint : String}
    (ends : EndsProgram w path complaint) : Format.ofPath path = .script := by
  unfold Format.ofPath Path.lowerSuffix
  rw [ends.suffix]
  rfl

theorem readToml_ne_yaml {text : List Char} {f : Yaml.Fault} :
    readToml text ≠ .error (.yaml f) := by
  intro failed
  obtain ⟨_, -, same⟩ := mapError_eq_error_iff.mp failed
  cases same

/-- Only the reading of YAML fails with faults of YAML. -/
theorem readContent_eq_yaml {format : Format} {content : List UInt8} {f : Yaml.Fault}
    (failed : readContent format content = .error (.yaml f)) : format = .yaml := by
  rcases bind_eq_error_iff.mp failed with undecoded | ⟨text, -, failed⟩
  · obtain ⟨_, -, same⟩ := mapError_eq_error_iff.mp undecoded
    cases same
  · unfold readText at failed
    split at failed
    next => exact absurd failed readToml_ne_yaml
    next =>
      obtain ⟨_, -, same⟩ := mapError_eq_error_iff.mp failed
      cases same
    next => rfl
    all_goals
      split at failed
      next => cases failed
      next => exact absurd failed readToml_ne_yaml

/-- Of the faults of a content, only that of a scalar which breaks off the reading stands alone. -/
theorem inFile_escapes_iff {n : String} {c : ContentFault} :
    (c.inFile n = fault ∧ ¬ IsConfig fault) ↔
      ∃ f, c = .yaml f ∧ f.ofText = false ∧ fault = .scalar f := by
  unfold ContentFault.inFile
  split
  next f =>
    cases text : f.ofText with
    | true =>
      constructor
      · rintro ⟨rfl, other⟩
        exact absurd ⟨_, rfl⟩ other
      · rintro ⟨f', same, broken, -⟩
        cases same
        rw [text] at broken
        cases broken
    | false =>
      constructor
      · rintro ⟨rfl, -⟩
        exact ⟨f, rfl, text, rfl⟩
      · rintro ⟨f', same, -, rfl⟩
        cases same
        exact ⟨rfl, by simp [IsConfig]⟩
  next notYaml =>
    constructor
    · rintro ⟨rfl, other⟩
      exact absurd ⟨_, rfl⟩ other
    · rintro ⟨f, same, -⟩
      exact absurd same (notYaml f)

theorem readFile_of_unread {path : Path} {f : FileFault} (unread : w.read path.toText = .error f) :
    ∃ e, readFile w path = .error (.config e) := by
  unfold readFile
  dsimp only
  rw [unread]
  cases f <;> exact ⟨_, rfl⟩

theorem readFile_escapes_iff {path : Path} :
    (readFile w path = .error fault ∧ ¬ IsConfig fault) ↔
      ∃ f, BreaksOff w path f ∧ fault = .scalar f := by
  cases found : w.read path.toText with
  | error f =>
    obtain ⟨e, failed⟩ := readFile_of_unread found
    rw [failed]
    constructor
    · rintro ⟨same, other⟩
      exact absurd ⟨e, (Except.error.inj same).symm⟩ other
    · rintro ⟨_, breaks, -⟩
      obtain ⟨content, there, -⟩ := breaks.content
      rw [found] at there
      cases there
  | ok content =>
    have parsed : readFile w path =
        (readContent (Format.ofPath path) content).mapError (ContentFault.inFile path.toText) := by
      unfold readFile
      dsimp only
      rw [found]
    rw [parsed, mapError_eq_error_iff]
    constructor
    · rintro ⟨⟨c, failed, same⟩, other⟩
      obtain ⟨f, rfl, scalar, rfl⟩ := inFile_escapes_iff.mp ⟨same, other⟩
      have yaml := readContent_eq_yaml failed
      rw [yaml] at failed
      exact ⟨f, ⟨yaml, ⟨content, found, failed⟩, scalar⟩, rfl⟩
    · rintro ⟨f, ⟨yaml, ⟨content', there, failed⟩, scalar⟩, rfl⟩
      obtain rfl := Except.ok.inj (found.symm.trans there)
      rw [yaml]
      obtain ⟨same, other⟩ :=
        (inFile_escapes_iff (n := path.toText)).mpr ⟨f, rfl, scalar, rfl⟩
      exact ⟨⟨_, failed, same⟩, other⟩

theorem readAny_escapes_iff {path : Path} :
    (readAny w path = .error fault ∧ ¬ IsConfig fault) ↔
      (∃ f, BreaksOff w path f ∧ fault = .scalar f) ∨
        ∃ complaint, EndsProgram w path complaint ∧ fault = .exited complaint := by
  unfold readAny
  split
  next script =>
    rw [readScript_escapes_iff, or_iff_right]
    rintro ⟨f, breaks, -⟩
    cases script.symm.trans breaks.format
  next other =>
    rw [readFile_escapes_iff, or_iff_left]
    rintro ⟨complaint, ends, -⟩
    exact other (ofPath_of_endsProgram ends)

variable {s : String} {source : Option String}

theorem defaultSource_of_set (set : Text.strip w.configSource ≠ "") :
    defaultSource w = .ok (some (Text.strip w.configSource)) := by
  have sought : ¬ (Text.strip w.configSource).isEmpty = true := fun empty =>
    set (String.isEmpty_iff.mp empty)
  unfold defaultSource
  dsimp only
  rw [if_neg sought]

theorem defaultSource_of_blank (blank : Text.strip w.configSource = "") :
    defaultSource w = (w.firstFile (w.configCandidates w.directory)).mapError .file := by
  have sought : (Text.strip w.configSource).isEmpty = true := String.isEmpty_iff.mpr blank
  unfold defaultSource
  dsimp only
  rw [if_pos sought]
  rfl

theorem defaultSource_eq_error_iff :
    defaultSource w = .error fault ↔ Text.strip w.configSource = "" ∧ ∃ path,
      FirstFaulty (fun q => w.isFile q = .ok false) (fun q => w.Overlong q ∧ path = q)
        (w.configCandidates w.directory) ∧ fault = .file ⟨.nameTooLong, path⟩ := by
  by_cases blank : Text.strip w.configSource = ""
  · rw [defaultSource_of_blank blank, mapError_eq_error_iff]
    simp only [blank, true_and, firstFile_eq_error_iff]
    constructor
    · rintro ⟨e, first, rfl⟩
      obtain ⟨_, q, _, -, -, -, rfl⟩ := id first
      refine ⟨q, first.imp fun q' fault => ?_, rfl⟩
      exact ⟨fault.1, congrArg FileError.path fault.2⟩
    · rintro ⟨path, first, rfl⟩
      refine ⟨_, first.imp fun q fault => ?_, rfl⟩
      exact ⟨fault.1, by rw [fault.2]⟩
  · simp [defaultSource_of_set blank, blank]

theorem defaultSource_eq_some_iff :
    defaultSource w = .ok (some s) ↔
      (Text.strip w.configSource ≠ "" ∧ s = Text.strip w.configSource) ∨
        Text.strip w.configSource = "" ∧
          FirstFaulty (fun q => w.isFile q = .ok false)
            (fun q => (∃ content, w.entry q = .ok (.file content)) ∧ s = q)
            (w.configCandidates w.directory) := by
  by_cases blank : Text.strip w.configSource = ""
  · rw [defaultSource_of_blank blank, mapError_eq_ok_iff, firstFile_eq_some_iff]
    simp [blank]
  · rw [defaultSource_of_set blank]
    simp [blank, eq_comm]

theorem filter_of_nonempty (nonempty : s ≠ "") :
    (some s).filter (fun s => !s.isEmpty) = some s := by
  simp [Option.filter, nonempty]

/-- A command ends with the exit code two, on every terminal that takes what it tells. -/
def EndsWithTwo (outcome : Except LoadFault Report) : Prop :=
  ∃ report, outcome = .ok report ∧
    ∀ terminal : Terminal, report.Fits terminal → (report.emit terminal).exit = 2

theorem endsWithTwo_complain (text : String) (more : List Message) :
    EndsWithTwo (.ok (CommandLine.complain text more)) := by
  refine ⟨_, rfl, fun terminal fits => ?_⟩
  rw [Report.emit_of_fits fits]
  rfl

section Loading

variable [CharacterNames]

theorem loadSource_of_taken (taken : w.TakenForPath s) : loadSource w s = loadFile w s := by
  rw [loadSource, looksLikeConfigPath_eq_true_iff.mpr taken]
  rfl

theorem loadSource_of_text (text : ¬ w.TakenForPath s) (probed : ¬ w.ProbesOverlong s) :
    loadSource w s = loadInline s := by
  rw [loadSource, looksLikeConfigPath_eq_false_iff.mpr ⟨text, probed⟩]
  rfl

theorem loadSource_of_holds {data : Value} {name : String} (holds : Holds w s data name) :
    loadSource w s = ofValue data (some name) := by
  cases holds with
  | file taken expanded read =>
    rw [loadSource_of_taken taken]
    simp only [loadFile, expanded, read, bind, Except.bind]
  | inline text probed read =>
    rw [loadSource_of_text text probed, loadInline, read]

theorem loadSource_of_unread {path : Path} (taken : w.TakenForPath s)
    (expanded : expandHome w (Path.ofText s) = .ok path)
    (unread : readAny w path = .error fault ∧ ¬ IsConfig fault) :
    loadSource w s = .error fault ∧ ¬ IsConfig fault := by
  refine ⟨?_, unread.2⟩
  rw [loadSource_of_taken taken, loadFile]
  exact bind_eq_error_iff.mpr (.inr ⟨_, expanded, bind_eq_error_iff.mpr (.inl unread.1)⟩)

theorem escapesFrom_of_loadSource (failed : loadSource w s = .error fault) (other : ¬ IsConfig fault) :
    EscapesFrom w s fault := by
  -- Once there is a value, only its validation can fail, be it from a file or inline.
  have escapes_of_holds {data : Value} {name : String} (holds : Holds w s data name) :
      EscapesFrom w s fault := by
    rw [loadSource_of_holds holds] at failed
    rcases ofValue_escapes_iff.mp ⟨failed, other⟩ with
      ⟨stops, rfl⟩ | ⟨text, f, invalid, limit, rfl⟩
    · exact .number holds stops
    · exact .pattern holds invalid limit
  by_cases overlong : w.ProbesOverlong s
  · rw [loadSource, looksLikeConfigPath_eq_error_iff.mpr ⟨overlong, rfl⟩] at failed
    obtain rfl := Except.error.inj failed
    exact .probe overlong
  · by_cases taken : w.TakenForPath s
    · rw [loadSource_of_taken taken, loadFile] at failed
      rcases bind_eq_error_iff.mp failed with homeless | ⟨path, expanded, unloaded⟩
      · obtain ⟨user, rest, home, ⟨null, rfl⟩ | ⟨clean, named, unknown, rfl⟩⟩ :=
          expandHome_eq_error_iff.mp homeless
        · exact .nullUser taken home null
        · exact .unknownUser taken home clean named unknown
      · rcases bind_eq_error_iff.mp unloaded with unread | ⟨data, read, -⟩
        · rcases readAny_escapes_iff.mp ⟨unread, other⟩ with ⟨f, breaks, rfl⟩ | ⟨_, ends, rfl⟩
          · exact .scalar taken expanded breaks
          · exact .script taken expanded ends
        · exact escapes_of_holds (.file taken expanded read)
    · cases read : readJson s.toList with
      | ok data => exact escapes_of_holds (.inline taken overlong read)
      | error f =>
        rw [loadSource_of_text taken overlong, loadInline, read] at failed
        exact absurd ⟨_, (Except.error.inj failed).symm⟩ other

theorem loadSource_escapes_iff :
    (loadSource w s = .error fault ∧ ¬ IsConfig fault) ↔ EscapesFrom w s fault := by
  constructor
  · rintro ⟨failed, other⟩
    exact escapesFrom_of_loadSource failed other
  · rintro (overlong | ⟨taken, home, null⟩ | ⟨taken, home, clean, named, unknown⟩ |
      ⟨taken, expanded, breaks⟩ | ⟨taken, expanded, ends⟩ | ⟨holds, stops⟩ |
      ⟨holds, invalid, limit⟩)
    · rw [loadSource, looksLikeConfigPath_eq_error_iff.mpr ⟨overlong, rfl⟩]
      exact ⟨rfl, by simp [IsConfig]⟩
    · have homeless : expandHome w (Path.ofText s) = .error (.file ⟨.nullByte, _⟩) :=
        expandHome_eq_error_iff.mpr ⟨_, _, home, .inl ⟨null, rfl⟩⟩
      rw [loadSource_of_taken taken, loadFile, homeless]
      exact ⟨rfl, by simp [IsConfig]⟩
    · have homeless : expandHome w (Path.ofText s) = .error .homeUnknown :=
        expandHome_eq_error_iff.mpr ⟨_, _, home, .inr ⟨clean, named, unknown, rfl⟩⟩
      rw [loadSource_of_taken taken, loadFile, homeless]
      exact ⟨rfl, by simp [IsConfig]⟩
    · exact loadSource_of_unread taken expanded (readAny_escapes_iff.mpr (.inl ⟨_, breaks, rfl⟩))
    · exact loadSource_of_unread taken expanded (readAny_escapes_iff.mpr (.inr ⟨_, ends, rfl⟩))
    · rw [loadSource_of_holds holds]
      exact ofValue_escapes_iff.mpr (.inl ⟨stops, rfl⟩)
    · rw [loadSource_of_holds holds]
      exact ofValue_escapes_iff.mpr (.inr ⟨_, _, invalid, limit, rfl⟩)

theorem load_of_given (nonempty : s ≠ "") : load w (some s) = some <$> loadSource w s := by
  unfold load
  rw [filter_of_nonempty nonempty]

theorem load_of_missing (missing : source.getD "" = "") :
    load w source = defaultSource w >>= fun chosen =>
      match chosen with
      | some s => some <$> loadSource w s
      | none => return none := by
  have given : source.filter (fun s => !s.isEmpty) = none := by
    cases source with
    | none => rfl
    | some s =>
      obtain rfl : s = "" := missing
      rfl
  unfold load
  generalize source.filter (fun s => !s.isEmpty) = chosen at given ⊢
  subst given
  rfl

/-- Loading a configuration fails with a fault of the configuration, or with one of the listed
ones. -/
theorem load_escapes_iff :
    (load w source = .error fault ∧ ¬ IsConfig fault) ↔ Escapes w source fault := by
  constructor
  · rintro ⟨failed, other⟩
    by_cases missing : source.getD "" = ""
    · rw [load_of_missing missing] at failed
      rcases bind_eq_error_iff.mp failed with lost | ⟨chosen, sought, failed⟩
      · obtain ⟨blank, path, first, rfl⟩ := defaultSource_eq_error_iff.mp lost
        exact .lookup missing blank first
      · cases chosen with
        | none => cases failed
        | some s =>
          have escapes := loadSource_escapes_iff.mp ⟨map_eq_error_iff.mp failed, other⟩
          rcases defaultSource_eq_some_iff.mp sought with ⟨set, rfl⟩ | ⟨blank, first⟩
          · exact .loading (.configured missing set) escapes
          · exact .loading (.found missing blank first) escapes
    · cases source with
      | none => exact absurd rfl missing
      | some s =>
        have nonempty : s ≠ "" := missing
        rw [load_of_given nonempty] at failed
        exact .loading (.given nonempty)
          (loadSource_escapes_iff.mp ⟨map_eq_error_iff.mp failed, other⟩)
  · rintro (⟨missing, blank, first⟩ | ⟨chosen, escapes⟩)
    · rw [load_of_missing missing]
      have lost := defaultSource_eq_error_iff.mpr ⟨blank, _, first, rfl⟩
      exact ⟨bind_eq_error_iff.mpr (.inl lost), by simp [IsConfig]⟩
    · obtain ⟨failed, other⟩ := loadSource_escapes_iff.mpr escapes
      refine ⟨?_, other⟩
      cases chosen with
      | given nonempty =>
        rw [load_of_given nonempty]
        exact map_eq_error_iff.mpr failed
      | configured missing set =>
        rw [load_of_missing missing]
        have sought := defaultSource_eq_some_iff.mpr (.inl ⟨set, rfl⟩)
        exact bind_eq_error_iff.mpr (.inr ⟨_, sought, map_eq_error_iff.mpr failed⟩)
      | found missing blank first =>
        rw [load_of_missing missing]
        have sought := defaultSource_eq_some_iff.mpr (.inr ⟨blank, first⟩)
        exact bind_eq_error_iff.mpr (.inr ⟨_, sought, map_eq_error_iff.mpr failed⟩)

variable [VersionLibrary]

theorem verify_of_isConfig (failed : load w source = .error fault) (config : IsConfig fault)
    (programs : Programs) (verbose json : Bool) :
    EndsWithTwo (CommandLine.verify programs w verbose source json) := by
  obtain ⟨e, rfl⟩ := config
  unfold CommandLine.verify
  rw [failed]
  exact endsWithTwo_complain _ _

theorem check_of_isConfig (given : source.getD "" ≠ "") (failed : load w source = .error fault)
    (config : IsConfig fault) (programs : Programs) (verbose : Bool) (binary requirement : String)
    (json : Bool) :
    EndsWithTwo (CommandLine.check programs w verbose binary requirement source json) := by
  obtain ⟨e, rfl⟩ := config
  cases source with
  | none => exact absurd rfl given
  | some s =>
    have nonempty : s ≠ "" := given
    unfold CommandLine.check
    rw [filter_of_nonempty nonempty]
    dsimp only
    rw [failed]
    exact endsWithTwo_complain _ _

/-- A source that cannot be used is a fault of the configuration, which `verify` reports with the
exit code two, and `check` too if the source is given. -/
structure Reported (w : Workspace) (source : Option String) : Prop where
  config : ∀ fault, load w source = .error fault → IsConfig fault
  verify : ∀ fault, load w source = .error fault → ∀ programs verbose json,
    EndsWithTwo (CommandLine.verify programs w verbose source json)
  check : ∀ fault, load w source = .error fault → source.getD "" ≠ "" →
    ∀ programs verbose binary requirement json,
      EndsWithTwo (CommandLine.check programs w verbose binary requirement source json)

/-- Unusable sources are reported except for the faults that are listed, which are exactly those
that loading ends with instead. -/
theorem reported_iff (w : Workspace) (source : Option String) :
    (Reported w source ↔ ∀ fault, ¬ Escapes w source fault) ∧
      ∀ fault, Escapes w source fault ↔ load w source = .error fault ∧ ¬ IsConfig fault := by
  refine ⟨⟨?_, ?_⟩, fun fault => load_escapes_iff.symm⟩
  · intro reported fault escapes
    obtain ⟨failed, other⟩ := load_escapes_iff.mpr escapes
    exact other (reported.config fault failed)
  · intro none
    have config : ∀ fault, load w source = .error fault → IsConfig fault := by
      intro fault failed
      by_contra other
      exact none fault (load_escapes_iff.mp ⟨failed, other⟩)
    refine ⟨config, ?_, ?_⟩
    · intro fault failed
      exact verify_of_isConfig failed (config fault failed)
    · intro fault failed given
      exact check_of_isConfig given failed (config fault failed)

end Loading

def blank : Workspace where
  store := Store.empty
  directory := "/work"
  home := "/home"
  users := []
  configSource := ""
  configHome := ""
  host := .usual

/-- The home directory of an unknown user is no fault of a configuration. -/
theorem not_reported_of_unknown_user : ¬ Reported blank (some "~nosuchuser/x.toml") := by
  have taken : blank.TakenForPath "~nosuchuser/x.toml" := ⟨by decide +kernel, .inl (by decide +kernel)⟩
  have home : Path.ofText "~nosuchuser/x.toml" = ⟨"", ("~" ++ "nosuchuser") :: ["x.toml"]⟩ := by
    decide
  have escapes : Escapes blank (some "~nosuchuser/x.toml") .homeUnknown :=
    .loading (.given (by decide)) (.unknownUser taken home (by decide) (by decide) rfl)
  obtain ⟨failed, other⟩ := load_escapes_iff.mpr escapes
  intro reported
  exact other (reported.config _ failed)

end EnvDoctor.Config
