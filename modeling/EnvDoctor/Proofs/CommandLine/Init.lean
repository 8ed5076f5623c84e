import EnvDoctor.CommandLine.Run
import EnvDoctor.Host.Usual
import EnvDoctor.Proofs.Files.Saving
import EnvDoctor.Text.CharacterName
import EnvDoctor.Version.Strict

/-!
# What `init` leaves of the files

Without force, `init` writes nothing where it sees something. It looks before the directories of the
way are made, though, so that it does not see a file behind a directory that is missing and two
points. Such a file is written over, and nothing else is.
-/

namespace EnvDoctor

namespace Workspace

/-- A path leads to a file with another content, but the way to it is not open yet. -/
def OverwritesUnseen (w : Workspace) (path : String) (content : List UInt8) : Prop :=
  w.Overwrites path content ∧ ¬ w.store.Opens (w.startOf path) (frontNames path)

/-- A file that a path leads to is seen if and only if the way to it is open. -/
theorem Overwrites.hasEntry_iff {w : Workspace} {path : String} {content : List UInt8}
    (overwrites : w.Overwrites path content) :
    w.hasEntry path = true ↔ w.store.Opens (w.startOf path) (frontNames path) := by
  rw [Workspace.hasEntry_iff, pathNames_eq, Store.along_append]
  constructor
  · rintro ⟨-, ⟨along, there, -⟩, -⟩
    exact ⟨along, there⟩
  · rintro ⟨along, there⟩
    obtain ⟨old, file, -⟩ := overwrites.differs
    exact ⟨overwrites.checked, ⟨along, there, overwrites.fits, trivial⟩, _, file⟩

/-- Without two points, a path that leads to a file leads there through directories that are there
already. -/
theorem not_overwritesUnseen_of_forward {w : Workspace} (tree : w.store.IsTree) {path : String}
    (forward : ".." ∉ pathNames path) (content : List UInt8) :
    ¬ w.OverwritesUnseen path content := by
  rintro ⟨overwrites, closed⟩
  apply closed
  obtain ⟨old, file, -⟩ := overwrites.differs
  rw [pathNames_eq] at forward
  have notBack : lastName path ≠ ".." := by
    intro back
    exact forward (by simp [back])
  rw [landing_eq] at file
  have ends := tree.of_step notBack file (.inl overwrites.named)
  exact tree.opens_of_ends overwrites.openable.along.fits
    (fun back => forward (List.mem_append_left _ back)) ends

def configured : Workspace where
  store := ⟨[(["work"], .directory), (["work", "doctor.toml"], .file [111, 108, 100])]⟩
  directory := "/work"
  home := "/home"
  users := []
  configSource := ""
  configHome := ""
  host := .usual

theorem isTree_configured : configured.store.IsTree :=
  Store.isTree_of_forall_mem (by decide)

end Workspace

namespace CommandLine

open Workspace

def after [VersionLibrary] [CharacterNames] (programs : Programs) (words : List String)
    (w : Workspace) : Workspace :=
  ((run programs words).run w).2

def sampleContent : List UInt8 :=
  Text.Utf8.encode Config.sampleText.toList

theorem read_init (path : String) :
    read ["init", "--path", path] = .ok (.run false (.init path false)) := by
  have command : "init".startsWith "-" = false := by
    rw [Bool.eq_false_iff, Ne, String.startsWith_string_iff]
    decide
  have words : withDefaultCommand ["init", "--path", path] = ["init", "--path", path] := by
    rw [withDefaultCommand, command]
    rfl
  rw [read, words]
  rfl

variable {programs : Programs} {words : List String} {verbose force : Bool} {path : String}

theorem outcome_init (path : String) (force : Bool) (w : Workspace) :
    Filing.outcome (init path force) w =
      if w.hasEntry path && !force then
        (.ok ⟨1, [.info ("Config already exists: " ++ path), .info "Use --force to overwrite."]⟩, w)
      else
        ((Filing.outcome (save path sampleContent) w).1.map fun _ =>
            ⟨0, [.good ("Config written: " ++ path),
              .info "Next: edit the requirements and run \x60doctor\x60."]⟩,
          (Filing.outcome (save path sampleContent) w).2) := by
  rw [init, Filing.outcome_bind, Filing.outcome_get]
  dsimp only
  split
  next => rfl
  next =>
    rw [Filing.outcome_bind, Config.saveSample, ← sampleContent]
    generalize Filing.outcome (save path sampleContent) w = saved
    obtain ⟨r, w₁⟩ := saved
    cases r <;> rfl

section Library

variable [VersionLibrary] [CharacterNames]

theorem run_of_init (asked : read words = .ok (.run verbose (.init path force)))
    (w : Workspace) : (run programs words).run w =
      ((Filing.outcome (init path force) w).1.mapError LoadFault.file,
        (Filing.outcome (init path force) w).2) := by
  rw [run, asked]
  rfl

/-- Without force, the sample is saved if nothing is seen where the path leads to. -/
theorem after_init (asked : read words = .ok (.run verbose (.init path false))) (w : Workspace) :
    after programs words w =
      if w.hasEntry path then w else (Filing.outcome (save path sampleContent) w).2 := by
  rw [after, run_of_init asked, outcome_init]
  cases w.hasEntry path <;> simp

/-- A run of `init` without force keeps all files as they are, unless the path leads to a file
through directories that the run itself makes. -/
theorem init_keepsFiles_iff {w : Workspace} (tree : w.store.IsTree)
    (asked : read words = .ok (.run verbose (.init path false))) :
    KeepsFiles w (after programs words w) ↔ ¬ w.OverwritesUnseen path sampleContent := by
  rw [after_init asked, OverwritesUnseen]
  cases there : w.hasEntry path with
  | true =>
    rw [if_pos rfl]
    constructor
    · rintro - ⟨overwrites, closed⟩
      exact closed (overwrites.hasEntry_iff.mp there)
    · intro _ p content file
      exact file
  | false =>
    rw [if_neg Bool.false_ne_true, save_keepsFiles_iff sampleContent tree]
    constructor
    · rintro safe ⟨overwrites, -⟩
      exact safe overwrites
    · rintro safe overwrites
      apply safe
      refine ⟨overwrites, fun opens => ?_⟩
      rw [overwrites.hasEntry_iff.mpr opens] at there
      cases there

end Library

theorem init_keepsFiles_configured :
    configured.store.IsTree ∧
    read ["init", "--path", "./doctor.toml"] = .ok (.run false (.init "./doctor.toml" false)) ∧
    KeepsFiles configured (after [] ["init", "--path", "./doctor.toml"] configured) := by
  refine ⟨isTree_configured, read_init _, ?_⟩
  apply (init_keepsFiles_iff isTree_configured (read_init _)).mpr
  exact not_overwritesUnseen_of_forward isTree_configured (by decide) _

theorem head?_sampleText : Config.sampleText.toList.head? = some '[' := by
  have bare : "requirements".toList.all Toml.isBareKeyChar = true := by
    decide
  have key : Toml.keyText "requirements" = "requirements" := by
    rw [Toml.keyText, bare]
    rfl
  simp [Config.sampleText, Toml.write, Config.sample, Toml.sections, Toml.subsections,
    Toml.needsHeader, Toml.plainLines, Value.record, Toml.subtableName, Config.constraintTable, key]

theorem ne_sampleContent : [111, 108, 100] ≠ sampleContent := by
  rw [sampleContent]
  obtain ⟨rest, parts⟩ := List.head?_eq_some_iff.mp head?_sampleText
  rw [parts]
  intro same
  have first : (111 : UInt8) = 91 := (List.cons.inj same).1
  exact absurd first (by decide)

/-- The configuration is behind a directory that is missing and two points. -/
theorem configured_overwritesUnseen :
    configured.OverwritesUnseen "new/../doctor.toml" sampleContent := by
  have start : configured.startOf "new/../doctor.toml" = ["work"] := by
    rw [startOf_of_relative _ (by decide)]
    decide
  have front : frontNames "new/../doctor.toml" = ["new", ".."] := by
    decide
  have last : lastName "new/../doctor.toml" = "doctor.toml" := by
    decide
  have place : configured.landing "new/../doctor.toml" = ["work", "doctor.toml"] := by
    rw [landing_eq, start, front, last]
    decide
  refine ⟨⟨?_, ?_, ?_, ?_, ?_, [111, 108, 100], ?_, ne_sampleContent⟩, ?_⟩
  · exact checkPath_eq_ok_iff.mpr ⟨by decide, by decide, by decide⟩
  · rw [start]
    decide
  · rw [start, front]
    decide
  · rw [last]
    decide
  · rw [last]
    decide
  · rw [place]
    decide
  · rw [start, front]
    decide

/-- A file behind a directory that is missing is written over by `init` without force. -/
theorem init_overwrites_configuration :
    ¬ KeepsFiles configured (after [] ["init", "--path", "new/../doctor.toml"] configured) := by
  obtain ⟨overwrites, closed⟩ := configured_overwritesUnseen
  have unseen := overwrites.hasEntry_iff.not.mpr closed
  rw [after_init (read_init _), if_neg unseen, save_keepsFiles_iff sampleContent isTree_configured]
  exact not_not_intro overwrites

end CommandLine

end EnvDoctor
