import EnvDoctor.Proofs.CommandLine.Init
import EnvDoctor.Proofs.Config.Escapes
import EnvDoctor.Proofs.Config.Sample
import EnvDoctor.Proofs.Files.Rereading
import EnvDoctor.Proofs.Host

/-!
# Loading what `init` wrote

The sample is written as TOML whatever the path is, while its suffix tells the loader what to read.
So a path under one of four suffixes cannot be loaded. All others that the loader takes for paths
give the configuration of the sample, unless they are looked for behind a home directory.
-/

namespace EnvDoctor

namespace Config

open Workspace

variable {w : Workspace}

/-- The suffixes of files that are read as something else than TOML. -/
def foreignSuffixes : List String :=
  [".json", ".yaml", ".yml", ".py"]

section

variable {p : Path}

theorem ofPath_of_not_foreign (other : p.lowerSuffix ∉ foreignSuffixes) :
    Format.ofPath p = .toml ∨ Format.ofPath p = .either := by
  unfold Format.ofPath
  split
  next script => exact absurd (by simp [script, foreignSuffixes]) other
  next => exact .inl rfl
  next json => exact absurd (by simp [json, foreignSuffixes]) other
  next yaml => exact absurd (by simp [yaml, foreignSuffixes]) other
  next yaml => exact absurd (by simp [yaml, foreignSuffixes]) other
  next => exact .inr rfl

theorem ofPath_of_foreign (foreign : p.lowerSuffix ∈ foreignSuffixes) :
    Format.ofPath p = .script ∨ Format.ofPath p = .json ∨ Format.ofPath p = .yaml := by
  unfold Format.ofPath
  simp only [foreignSuffixes, List.mem_cons, List.not_mem_nil, or_false] at foreign
  rcases foreign with same | same | same | same <;> simp [same]

theorem lowerSuffix_of_script (script : Format.ofPath p = .script) : p.lowerSuffix = ".py" := by
  unfold Format.ofPath at script
  split at script
  next suffix => exact suffix
  all_goals cases script

variable (there : w.read p.toText = .ok (Text.Utf8.encode sampleText.toList))

include there

theorem readFile_sample : readFile w p =
    (readText (Format.ofPath p) sampleLiteral.toList).mapError (ContentFault.inFile p.toText) := by
  rw [readFile, there, ← readContent_sampleText]

theorem readAny_sample (other : p.lowerSuffix ∉ foreignSuffixes) : readAny w p = .ok reread := by
  have format := ofPath_of_not_foreign other
  unfold readAny
  split
  next script => simp [script] at format
  next =>
    rw [readFile_sample there, readText_sampleLiteral format]
    rfl

/-- A script is run behind the working directory, which leads to the same file. -/
theorem exists_runScript_sample (rooted : IsRooted w.directory)
    (refuses : w.host.RefusesUnassigned) : ∃ complaint, runScript w p = .raises complaint := by
  unfold runScript
  dsimp only
  cases behind : w.read (absolute w p.toText) with
  | error fault => exact ⟨_, rfl⟩
  | ok content =>
    -- The script is run under its whole path, which need not be the path that was written to.
    have same : content = Text.Utf8.encode sampleText.toList := by
      unfold absolute at behind
      split at behind
      next =>
        rw [there] at behind
        exact (Except.ok.inj behind).symm
      next relative => exact read_joined rooted (Bool.eq_false_iff.mpr relative) there behind
    obtain ⟨rest, first, uncommented⟩ := exists_rest_sampleLiteral
    have decoded := decode_encode_sampleText
    rw [first, ← same] at decoded
    exact refuses _ content rest uncommented decoded

theorem readScript_sample (rooted : IsRooted w.directory) (refuses : w.host.RefusesUnassigned) :
    ∃ fault, readScript w p = .error fault ∧ IsConfig fault := by
  obtain ⟨complaint, raises⟩ := exists_runScript_sample there rooted refuses
  unfold readScript
  dsimp only
  split
  next => exact ⟨_, rfl, _, rfl⟩
  next =>
    rw [raises]
    exact ⟨_, rfl, _, rfl⟩

theorem readAny_sample_foreign (rooted : IsRooted w.directory)
    (foreign : p.lowerSuffix ∈ foreignSuffixes)
    (refuses : p.lowerSuffix = ".py" → w.host.RefusesUnassigned) :
    ∃ fault, readAny w p = .error fault ∧ IsConfig fault := by
  have format := ofPath_of_foreign foreign
  unfold readAny
  split
  next script => exact readScript_sample there rooted (refuses (lowerSuffix_of_script script))
  next other =>
    have fails := failsByText_readText_sampleLiteral (format.resolve_left other)
    obtain ⟨e, failed⟩ := exists_config_of_failsByText fails p.toText
    exact ⟨_, (readFile_sample there).trans failed, e, rfl⟩

end

variable {path : String}

/-- A text without outer blanks is probed as it is, so that the file is found. -/
theorem takenForPath_of_read {content : List UInt8}
    (there : w.read (Path.ofText path).toText = .ok content) (text : ¬ Inline path)
    (spelled : SpelledAsPath path ∨ Text.strip path = path) : w.TakenForPath path := by
  refine ⟨text, spelled.imp_right fun bare => ?_⟩
  have probed : probedPath path = (Path.ofText path).toText := by
    rw [probedPath, ← Text.strip, bare]
  rw [probed]
  exact ⟨_, read_eq_ok_iff.mp there⟩

section Names

variable [CharacterNames]

/-- What is loaded from a path is what the sample describes. -/
def LoadsSample (w : Workspace) (path : String) : Prop :=
  ∃ config expected, load w (some path) = .ok (some config) ∧ ofValue sample none = .ok expected ∧
    config.requirements.Perm expected.requirements ∧ config.checkers = expected.checkers

section Written

variable (there : w.read (Path.ofText path).toText = .ok (Text.Utf8.encode sampleText.toList))
  (nonempty : path ≠ "") (taken : w.TakenForPath path)
  (plain : ∀ user rest, Path.ofText path ≠ ⟨"", ("~" ++ user) :: rest⟩)

include there nonempty taken plain

theorem loadsSample (other : (Path.ofText path).lowerSuffix ∉ foreignSuffixes) :
    LoadsSample w path := by
  have holds := Holds.file taken (expandHome_of_not_tilde plain) (readAny_sample there other)
  have loaded : load w (some path) =
      .ok (some ⟨rereadRequirements, sampleCheckers, some (Path.ofText path).toText⟩) := by
    rw [load_of_given nonempty, loadSource_of_holds holds, ofValue_reread]
    rfl
  exact ⟨_, _, loaded, ofValue_sample none, rereadRequirements_perm, rfl⟩

theorem load_foreign (rooted : IsRooted w.directory)
    (foreign : (Path.ofText path).lowerSuffix ∈ foreignSuffixes)
    (refuses : (Path.ofText path).lowerSuffix = ".py" → w.host.RefusesUnassigned) :
    ∃ fault, load w (some path) = .error fault ∧ IsConfig fault := by
  obtain ⟨fault, unread, config⟩ := readAny_sample_foreign there rooted foreign refuses
  refine ⟨fault, ?_, config⟩
  rw [load_of_given nonempty, map_eq_error_iff, loadSource_of_taken taken]
  refine bind_eq_error_iff.mpr (.inr ⟨_, expandHome_of_not_tilde plain, ?_⟩)
  exact bind_eq_error_iff.mpr (.inl unread)

end Written

end Names

end Config

namespace CommandLine

open Workspace Filing

section Library

variable [VersionLibrary] [CharacterNames] {programs : Programs} {words : List String}
  {verbose force : Bool} {path : String} {report : Report} {w w' : Workspace}

/-- The exit code tells that the sample has been saved. -/
theorem save_of_init (asked : read words = .ok (.run verbose (.init path force)))
    (done : (run programs words).run w = (.ok report, w')) (success : report.exit = 0) :
    outcome (save path sampleContent) w = (.ok (), w') := by
  rw [run_of_init asked, outcome_init] at done
  split at done
  next =>
    obtain rfl := Except.ok.inj (Prod.mk.inj done).1
    cases success
  next =>
    generalize outcome (save path sampleContent) w = saved at done ⊢
    obtain ⟨r, w₁⟩ := saved
    cases r with
    | error e => cases (Prod.mk.inj done).1
    | ok _ => exact congrArg _ (Prod.mk.inj done).2

theorem read_of_init (asked : read words = .ok (.run verbose (.init path force)))
    (done : (run programs words).run w = (.ok report, w')) (success : report.exit = 0) :
    w' = { w with store := w'.store } ∧ path ≠ "" ∧
      w'.read (Path.ofText path).toText = .ok (Text.Utf8.encode Config.sampleText.toList) := by
  have saved := save_of_init asked done success
  have same := settings_of_save w path sampleContent
  rw [saved] at same
  obtain ⟨found, named⟩ := entry_of_save saved
  refine ⟨same, ?_, ?_⟩
  · rintro rfl
    exact named (by decide)
  · exact read_eq_ok_iff.mpr (entry_toText (keptFields_ne_nil_of_named named) found)

/-- Where nothing is seen, `init` succeeds if the sample can be saved. -/
theorem run_init_of_saved (missing : w.hasEntry path = false)
    (saved : outcome (save path sampleContent) w = (.ok (), w')) :
    ∃ report, (run programs ["init", "--path", path]).run w = (.ok report, w') ∧
      report.exit = 0 := by
  rw [run_of_init (read_init path), outcome_init, missing, saved]
  exact ⟨_, rfl, rfl⟩

omit [VersionLibrary] [CharacterNames] in
theorem isRooted_configured : IsRooted configured.directory where
  absolute := by
    rw [String.startsWith_string_iff]
    decide
  forward := by decide

theorem run_init_configured {name : String} (relative : name.toList.head? ≠ some '/')
    (front : frontNames name = []) (bare : parentPath name = "")
    (checked : checkPath name = .ok ()) (fits : Store.Fits (lastName name))
    (named : ¬ isStanding (lastName name))
    (missing : configured.store.find? (Store.step ["work"] (lastName name)) = none) :
    configured.hasEntry name = false ∧
      ∃ w' report, (run [] ["init", "--path", name]).run configured = (.ok report, w') ∧
        report.exit = 0 := by
  have start : configured.startOf name = ["work"] := by
    rw [startOf_of_relative _ relative]
    decide
  have place : configured.landing name = Store.step ["work"] (lastName name) := by
    rw [landing_eq, start, front]
    rfl
  rw [← place] at missing
  have unseen : configured.hasEntry name = false := by
    rw [← Bool.not_eq_true, hasEntry_iff]
    rintro ⟨-, -, e, found⟩
    rw [missing] at found
    cases found
  have prepared : Prepared configured name := by
    refine ⟨checked, ?_, fits, named⟩
    rw [start, front]
    decide
  have free : configured.store.find? (configured.landing name) ≠ some .directory := by
    rw [missing]
    simp
  have saved := outcome_save_of_bare sampleContent bare prepared free
  exact ⟨unseen, _, run_init_of_saved unseen saved⟩

/-- A path that `init` wrote to is taken for a path if it is spelled like one or has no outer blanks.
Unless it starts at a home directory, what is loaded from it is what the sample describes, or a
fault of the configuration if the suffix is one of something else than TOML. If it is that of
scripts, this rests on what the host does with them. -/
theorem load_of_init (rooted : IsRooted w.directory)
    (asked : read words = .ok (.run verbose (.init path force)))
    (done : (run programs words).run w = (.ok report, w')) (success : report.exit = 0) :
    (¬ Inline path → SpelledAsPath path ∨ Text.strip path = path → w'.TakenForPath path) ∧
    (w'.TakenForPath path → (∀ user rest, Path.ofText path ≠ ⟨"", ("~" ++ user) :: rest⟩) →
      ((Path.ofText path).lowerSuffix ∉ Config.foreignSuffixes → Config.LoadsSample w' path) ∧
      ((Path.ofText path).lowerSuffix ∈ Config.foreignSuffixes →
        ((Path.ofText path).lowerSuffix = ".py" → w.host.RefusesUnassigned) →
        ∃ fault, Config.load w' (some path) = .error fault ∧ Config.IsConfig fault)) := by
  obtain ⟨same, nonempty, there⟩ := read_of_init asked done success
  have rooted' : IsRooted w'.directory := by rwa [same]
  have host : w'.host = w.host := by rw [same]
  refine ⟨Config.takenForPath_of_read there, fun taken plain => ⟨?_, ?_⟩⟩
  · intro other
    exact Config.loadsSample there nonempty taken plain other
  · intro foreign refuses
    rw [← host] at refuses
    exact Config.load_foreign there nonempty taken plain rooted' foreign refuses

end Library

/-- A name without a suffix is probed and found, and the usual host fails with what is no script. -/
theorem load_of_init_environment :
    (∃ w' report, IsRooted configured.directory ∧ configured.hasEntry "environment" = false ∧
      read ["init", "--path", "environment"] = .ok (.run false (.init "environment" false)) ∧
      (run [] ["init", "--path", "environment"]).run configured = (.ok report, w') ∧
      report.exit = 0 ∧ Config.LoadsSample w' "environment") ∧
    ∃ w' report fault, configured.hasEntry "doctor.py" = false ∧
      (run [] ["init", "--path", "doctor.py"]).run configured = (.ok report, w') ∧
      report.exit = 0 ∧ Config.load w' (some "doctor.py") = .error fault ∧
      Config.IsConfig fault := by
  constructor
  · have checked : checkPath "environment" = .ok () :=
      checkPath_eq_ok_iff.mpr ⟨by decide, by decide, by decide⟩
    obtain ⟨unseen, w', report, done, success⟩ := run_init_configured (by decide) (by decide)
      (by decide) checked (by decide) (by decide) (by decide)
    obtain ⟨taken, loads⟩ := load_of_init isRooted_configured (read_init _) done success
    have plain := Config.ne_tilde_of_head? (p := Path.ofText "environment") (by decide)
    refine ⟨w', report, isRooted_configured, unseen, read_init _, done, success, ?_⟩
    exact (loads (taken (by decide +kernel) (.inr (by decide))) plain).1 (by decide)
  · have checked : checkPath "doctor.py" = .ok () :=
      checkPath_eq_ok_iff.mpr ⟨by decide, by decide, by decide⟩
    obtain ⟨unseen, w', report, done, success⟩ := run_init_configured (by decide) (by decide)
      (by decide) checked (by decide) (by decide) (by decide)
    obtain ⟨taken, loads⟩ := load_of_init isRooted_configured (read_init _) done success
    have plain := Config.ne_tilde_of_head? (p := Path.ofText "doctor.py") (by decide)
    obtain ⟨fault, failed, config⟩ :=
      (loads (taken (by decide +kernel) (.inr (by decide))) plain).2 (by decide)
        fun _ => Host.refusesUnassigned_usual
    exact ⟨w', report, fault, unseen, done, success, failed, config⟩

/-- JSON is asked for by the suffix, but TOML is written. -/
theorem not_loadsSample_json :
    ∃ w' report, configured.hasEntry "doctor.json" = false ∧
      (run [] ["init", "--path", "doctor.json"]).run configured = (.ok report, w') ∧
      report.exit = 0 ∧ ¬ Config.LoadsSample w' "doctor.json" := by
  have checked : checkPath "doctor.json" = .ok () :=
    checkPath_eq_ok_iff.mpr ⟨by decide, by decide, by decide⟩
  obtain ⟨unseen, w', report, done, success⟩ := run_init_configured (by decide) (by decide)
    (by decide) checked (by decide) (by decide) (by decide)
  obtain ⟨same, nonempty, there⟩ := read_of_init (read_init _) done success
  refine ⟨w', report, unseen, done, success, ?_⟩
  have taken : w'.TakenForPath "doctor.json" := ⟨by decide +kernel, .inl (by decide +kernel)⟩
  have plain := Config.ne_tilde_of_head? (p := Path.ofText "doctor.json") (by decide)
  have rooted : IsRooted w'.directory := by
    rw [same]
    exact isRooted_configured
  obtain ⟨fault, failed, -⟩ :=
    Config.load_foreign there nonempty taken plain rooted (by decide)
      fun script => absurd script (by decide)
  rintro ⟨config, _, loaded, -⟩
  rw [failed] at loaded
  cases loaded

end CommandLine

end EnvDoctor
