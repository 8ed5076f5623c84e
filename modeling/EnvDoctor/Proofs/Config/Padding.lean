import EnvDoctor.Proofs.Config.Escapes
import EnvDoctor.Proofs.Files.Normal
import EnvDoctor.Proofs.Json.Padding

/-!
# Blanks around sources

Whether a source is taken for a path does not depend on the blanks around it, but what is loaded
does: a configuration is read with the blanks around it, and a path that begins or ends with a blank
is another path than the one without it.
-/

namespace EnvDoctor

open Text

namespace Path

theorem countP_isBlank_joinWith (pieces : List (List Char)) :
    (joinWith ['/'] pieces).countP isBlank = pieces.flatten.countP isBlank := by
  induction pieces with
  | nil => rfl
  | cons piece more ih =>
    cases more with
    | nil => simp [joinWith]
    | cons next more =>
      have slash : isBlank '/' = false := by decide
      rw [joinWith_cons_cons, List.countP_append, List.countP_cons, ih, slash]
      simp [List.countP_append]

/-- Names that do not count have no blanks. -/
theorem countP_isBlank_keptFields (s : List Char) :
    (keptFields s).flatten.countP isBlank = s.countP isBlank := by
  have kept (pieces : List (List Char)) :
      (pieces.filter counts).flatten.countP isBlank = pieces.flatten.countP isBlank := by
    induction pieces with
    | nil => rfl
    | cons piece more ih =>
      rw [List.flatten_cons, List.countP_append, ← ih, List.filter_cons]
      split
      next => rw [List.flatten_cons, List.countP_append]
      next uncounted =>
        have bare : piece.countP isBlank = 0 := by
          have written : piece = [] ∨ piece = ['.'] := by
            simpa [counts, or_iff_not_imp_left] using uncounted
          rcases written with rfl | rfl <;> rfl
        rw [bare, Nat.zero_add]
  rw [keptFields, kept, ← countP_isBlank_joinWith, joinWith_splitOn]

/-- A text with blanks around it spells another path than without them. -/
theorem ofText_strip_ne {s : String} (padded : strip s ≠ s) : ofText s ≠ ofText (strip s) := by
  intro same
  have fields : keptFields s.toList = keptFields (trim s.toList) := by
    have names : (ofText s).names = (ofText (strip s)).names := congrArg names same
    rw [names_ofText, names_ofText, strip, String.toList_ofList] at names
    exact List.map_injective_iff.mpr (fun _ _ => String.ofList_injective) names
  obtain ⟨before, after, blankBefore, blankAfter, whole⟩ := exists_blanks_trim s.toList
  have count : s.toList.countP isBlank = (trim s.toList).countP isBlank := by
    rw [← countP_isBlank_keptFields, fields, countP_isBlank_keptFields]
  have parts : s.toList.countP isBlank =
      before.countP isBlank + (trim s.toList).countP isBlank + after.countP isBlank :=
    (congrArg (List.countP isBlank) whole).trans (by rw [List.countP_append, List.countP_append])
  rw [List.countP_eq_length.mpr blankBefore, List.countP_eq_length.mpr blankAfter] at parts
  obtain rfl : before = [] := List.eq_nil_of_length_eq_zero (by omega)
  obtain rfl : after = [] := List.eq_nil_of_length_eq_zero (by omega)
  rw [List.nil_append, List.append_nil] at whole
  rw [strip, ← whole, String.ofList_toList] at padded
  exact padded rfl

end Path

namespace Workspace

variable {w : Workspace} {s : String}

theorem trim_toList_strip (s : String) : trim (strip s).toList = trim s.toList := by
  rw [strip, String.toList_ofList, trim_trim]

/-- The blanks around a text do not tell whether it is taken for a path. -/
theorem looksLikeConfigPath_strip : w.looksLikeConfigPath (strip s) = w.looksLikeConfigPath s := by
  have windows : looksLikeWindowsPath (strip s) = looksLikeWindowsPath s := by
    unfold looksLikeWindowsPath
    rw [trim_toList_strip]
  unfold looksLikeConfigPath
  rw [trim_toList_strip, windows]

theorem takenForPath_strip_iff : w.TakenForPath (strip s) ↔ w.TakenForPath s := by
  rw [← looksLikeConfigPath_eq_true_iff, looksLikeConfigPath_strip,
    looksLikeConfigPath_eq_true_iff]

end Workspace

namespace Config

open Workspace

section Names

variable [CharacterNames] {w : Workspace} {s : String}

theorem loadInline_eq_ok_iff {config : Config} : loadInline s = .ok config ↔
    ∃ data, Json.read s.toList = .ok data ∧ ofValue data (some "<inline>") = .ok config := by
  unfold loadInline readJson
  cases Json.read s.toList with
  | error fault => simp [Except.mapError]
  | ok data => simp [Except.mapError]

theorem loadSource_eq_ok_iff {config : Config} : loadSource w s = .ok config ↔
    w.TakenForPath s ∧ loadFile w s = .ok config ∨
      w.looksLikeConfigPath s = .ok false ∧ loadInline s = .ok config := by
  rw [loadSource, ← looksLikeConfigPath_eq_true_iff]
  cases w.looksLikeConfigPath s with
  | error e => simp [Except.mapError, bind, Except.bind]
  | ok isPath => cases isPath <;> simp [Except.mapError, bind, Except.bind]

/-- A source with the blanks around it gives the requirements and checkers that it gives without
them. -/
def IgnoresPadding (w : Workspace) (s : String) : Prop :=
  ∀ config, load w (some (strip s)) = .ok (some config) →
    ∃ other, load w (some s) = .ok (some other) ∧
      other.requirements = config.requirements ∧ other.checkers = config.checkers

/-- Why the blanks around a source of a configuration do no harm. -/
inductive Harmless (w : Workspace) (s : String) (config : Config) : Prop
  /-- The source is a configuration itself, with nothing but blanks of JSON around it. -/
  | inline {before after : List Char} (text : ¬ w.TakenForPath s)
      (whole : s.toList = before ++ trim s.toList ++ after)
      (spaces : ∀ c ∈ before ++ after, Json.isSpace c = true)
  /-- The path with the blanks leads to a file that has the same requirements and checkers. -/
  | file {path : Path} {data : Value} {other : Config} (taken : w.TakenForPath s)
      (expanded : expandHome w (Path.ofText s) = .ok path) (read : readAny w path = .ok data)
      (accepted : ofValue data (some path.toText) = .ok other)
      (requirements : other.requirements = config.requirements)
      (checkers : other.checkers = config.checkers)

/-- Blanks around a source do no harm in the listed cases only. The path that is opened is never the
one without the blanks. -/
theorem ignoresPadding_iff (nonempty : strip s ≠ "") :
    (IgnoresPadding w s ↔
      ∀ config, load w (some (strip s)) = .ok (some config) → Harmless w s config) ∧
    (strip s ≠ s → Path.ofText s ≠ Path.ofText (strip s)) := by
  have given : s ≠ "" := by
    rintro rfl
    exact nonempty (by decide)
  simp only [IgnoresPadding, load_of_given nonempty, load_of_given given, map_eq_ok_iff,
    Option.some_inj, exists_eq_right]
  refine ⟨forall₂_congr fun config loads => ?_, Path.ofText_strip_ne⟩
  rw [loadSource_eq_ok_iff, takenForPath_strip_iff, looksLikeConfigPath_strip] at loads
  have visible : ∀ c ∈ (trim s.toList).head?, isBlank c = false :=
    fun _ first => not_blank_of_head?_trim first
  constructor
  · rintro ⟨other, padded, requirements, checkers⟩
    rcases loadSource_eq_ok_iff.mp padded with ⟨taken, loads'⟩ | ⟨text, loads'⟩
    · obtain ⟨path, expanded, loads'⟩ := bind_eq_ok_iff.mp loads'
      obtain ⟨data, read, accepted⟩ := bind_eq_ok_iff.mp loads'
      exact .file taken expanded read accepted requirements checkers
    · have untaken := (looksLikeConfigPath_eq_false_iff.mp text).1
      rcases loads with ⟨taken, -⟩ | ⟨-, loads⟩
      · exact absurd taken untaken
      · obtain ⟨data, read, -⟩ := loadInline_eq_ok_iff.mp loads
        obtain ⟨data', read', -⟩ := loadInline_eq_ok_iff.mp loads'
        obtain ⟨before, after, blankBefore, blankAfter, whole⟩ := exists_blanks_trim s.toList
        rw [strip, String.toList_ofList] at read
        rw [whole] at read'
        have blank := List.forall_mem_append.mpr ⟨blankBefore, blankAfter⟩
        exact .inline untaken whole (Json.isSpace_of_read visible read blank read')
  · intro harmless
    cases harmless with
    | inline untaken whole spaces =>
      rcases loads with ⟨taken, -⟩ | ⟨text, loads⟩
      · exact absurd taken untaken
      · obtain ⟨data, read, accepted⟩ := loadInline_eq_ok_iff.mp loads
        rw [strip, String.toList_ofList] at read
        have read' := Json.read_padded visible read spaces
        rw [← whole] at read'
        have loads' := loadInline_eq_ok_iff.mpr ⟨data, read', accepted⟩
        exact ⟨config, loadSource_eq_ok_iff.mpr (.inr ⟨text, loads'⟩), rfl, rfl⟩
    | file taken expanded read accepted requirements checkers =>
      have loads' : loadSource w s = .ok _ :=
        (loadSource_of_holds (.file taken expanded read)).trans accepted
      exact ⟨_, loads', requirements, checkers⟩

end Names

theorem ignoresPadding_of_table :
    strip " \x7b\x7d\n" ≠ "" ∧ IgnoresPadding blank " \x7b\x7d\n" := by
  have inline : Inline " \x7b\x7d\n" := by
    decide
  have nonempty : strip " \x7b\x7d\n" ≠ "" := by
    decide
  refine ⟨nonempty, (ignoresPadding_iff nonempty).1.mpr fun config _ => ?_⟩
  exact @Harmless.inline _ _ _ config [' '] ['\n'] (fun taken => taken.1 inline) rfl
    (List.forall_mem_cons.mpr ⟨rfl, List.forall_mem_singleton.mpr rfl⟩)

def stocked : Workspace where
  store := ⟨[(["work"], .directory),
    (["work", "doctor.toml"], .file [97, 32, 61, 32, 34, 49, 34])]⟩
  directory := "/work"
  home := "/home"
  users := []
  configSource := ""
  configHome := ""
  host := .usual

theorem read_stocked :
    stocked.read (Path.ofText "doctor.toml").toText = .ok [97, 32, 61, 32, 34, 49, 34] ∧
      stocked.read (Path.ofText " doctor.toml").toText = .error .notFound := by
  have start (path : String) (relative : path.toList.head? ≠ some '/') :
      stocked.startOf path = ["work"] := by
    rw [startOf_of_relative _ relative]
    decide
  constructor
  · rw [Workspace.read, place, checkPath_eq_ok_iff.mpr (by decide), start _ (by decide)]
    decide
  · rw [Workspace.read, place, checkPath_eq_ok_iff.mpr (by decide), start _ (by decide)]
    decide

theorem readAny_of_toml {path : Path} (format : Format.ofPath path = .toml) :
    readAny w path = readFile w path := by
  unfold readAny
  split
  next script =>
    rw [format] at script
    cases script
  next => rfl

theorem load_stocked : load stocked (some "doctor.toml") =
    .ok (some ⟨[("a", .text "1")], [], some "doctor.toml"⟩) := by
  have taken : stocked.TakenForPath "doctor.toml" :=
    ⟨by decide, .inl (.inr (.inr ⟨".toml", by decide, by decide⟩))⟩
  have plain := ne_tilde_of_head? (p := Path.ofText "doctor.toml") (by decide)
  have read : readAny stocked (Path.ofText "doctor.toml") =
      .ok (.table [(.text "a", .text "1")]) := by
    rw [readAny_of_toml (by decide), readFile, read_stocked.1]
    rfl
  rw [load_of_given (by decide),
    loadSource_of_holds (.file taken (expandHome_of_not_tilde plain) read)]
  rfl

/-- With a blank in front, the path of a configuration file leads nowhere. -/
theorem not_ignoresPadding_of_path : ¬ IgnoresPadding stocked " doctor.toml" := by
  have taken : stocked.TakenForPath " doctor.toml" :=
    ⟨by decide, .inl (.inr (.inr ⟨".toml", by decide, by decide⟩))⟩
  have plain := ne_tilde_of_head? (p := Path.ofText " doctor.toml") (by decide)
  obtain ⟨e, missing⟩ := readFile_of_unread read_stocked.2
  rw [← readAny_of_toml (by decide)] at missing
  intro ignores
  obtain ⟨other, loads, -⟩ := ignores _ load_stocked
  rw [load_of_given (by decide), loadSource_of_taken taken, loadFile,
    expandHome_of_not_tilde plain] at loads
  obtain ⟨_, loads, -⟩ := map_eq_ok_iff.mp loads
  obtain ⟨path, same, loads⟩ := bind_eq_ok_iff.mp loads
  obtain ⟨data, read, -⟩ := bind_eq_ok_iff.mp loads
  rw [← Except.ok.inj same, missing] at read
  cases read

end Config

end EnvDoctor
