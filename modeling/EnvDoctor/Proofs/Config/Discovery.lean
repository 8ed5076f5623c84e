import EnvDoctor.Proofs.Config.Validity
import EnvDoctor.Proofs.Files.Absolute
import EnvDoctor.Proofs.Host

/-!
# Discovered configurations

A configuration file that is looked for and found is loaded as if it had been named. The working
directory is named from the root, so that a path behind it is taken for a path and for no
configuration itself, no home directory is put in its place, and the file that is read is the file
that was found. The same holds behind the directory for configurations that the host knows if it is
named from the root, or at least not misread.
-/

namespace EnvDoctor

theorem Text.head?_trim_of_not_blank {s : List Char} {c : Char} (first : s.head? = some c)
    (visible : isBlank c = false) : (trim s).head? = some c := by
  obtain ⟨rest, rfl⟩ := List.head?_eq_some_iff.mp first
  obtain ⟨after, blank, whole⟩ := exists_blanks_trimRight (c :: rest)
  have same : trim (c :: rest) = trimRight (c :: rest) := by
    rw [trim, trimLeft_cons_of_not_blank visible]
  rw [same]
  cases kept : trimRight (c :: rest) with
  | nil =>
    rw [kept, List.nil_append] at whole
    have blanked := blank c (whole ▸ List.mem_cons_self)
    rw [visible] at blanked
    cases blanked
  | cons d rest' =>
    rw [kept] at whole
    rw [(List.cons.inj whole).1]
    rfl

theorem Text.mem_trim_of_not_blank {s : List Char} {c : Char} (among : c ∈ s)
    (visible : isBlank c = false) : c ∈ trim s := by
  obtain ⟨before, after, blankBefore, blankAfter, whole⟩ := exists_blanks_trim s
  rw [whole, List.mem_append, List.mem_append] at among
  rcases among with (early | inside) | late
  · rw [blankBefore c early] at visible
    cases visible
  · exact inside
  · rw [blankAfter c late] at visible
    cases visible

namespace Workspace

/-- A path is not opened as it stands: it is read as a configuration, or it starts at a home
directory. -/
def Misread (path : String) : Prop :=
  Inline path ∨ ∃ user rest, Path.ofText path = ⟨"", ("~" ++ user) :: rest⟩

/-- A path where a configuration is looked for. A script is looked for from the root only. -/
structure IsCandidate (p : Path) : Prop where
  normal : p.IsNormal
  last : p.lastName ∈ configNames
  script : Format.ofPath p = .script → p.IsAbsolute

variable {w : Workspace}

theorem names_userConfigPath : (Path.ofText w.userConfigPath).names =
    ((pathNames (w.host.configDirectory w.configHome w.home)).filter
      fun name => Path.counts name.toList) ++ ["doctor.toml"] := by
  have spelled : w.userConfigPath =
      String.ofList ((w.host.configDirectory w.configHome w.home).toList ++
        '/' :: "doctor.toml".toList) := by
    apply String.toList_injective
    simp [userConfigPath]
  rw [Path.names_ofText_eq_filter, spelled, pathNames_append_slash, String.ofList_toList,
    List.filter_append]
  rfl

theorem lastName_userConfigPath : (Path.ofText w.userConfigPath).lastName = "doctor.toml" := by
  rw [Path.lastName, names_userConfigPath, List.getLast?_concat]
  rfl

/-- The paths behind the working directory are named from the root. -/
theorem isAbsolute_child (anchored : w.directory.startsWith "/" = true) {name : String}
    (among : name ∈ configNames) : ((Path.ofText w.directory).child name).IsAbsolute := by
  have names : ∀ name ∈ configNames, Path.counts name.toList = true ∧ '/' ∉ name.toList := by
    decide
  obtain ⟨counted, whole⟩ := names name among
  exact (Path.isAbsolute_ofText (startsWith_slash_iff.mp anchored)).child counted whole

theorem isCandidate_of_mem (anchored : w.directory.startsWith "/" = true) {path : String}
    (candidate : path ∈ w.configCandidates w.directory) :
    ∃ p : Path, IsCandidate p ∧ path = p.toText := by
  rcases List.mem_append.mp candidate with inside | own
  · obtain ⟨name, among, rfl⟩ := List.mem_map.mp inside
    have absolute := isAbsolute_child anchored among
    refine ⟨_, ⟨absolute.toIsNormal, ?_, fun _ => absolute⟩, rfl⟩
    rwa [Path.lastName, Path.child, List.getLast?_concat]
  · refine ⟨_, ⟨Path.isNormal_ofText _, ?_, fun script => ?_⟩, List.mem_singleton.mp own⟩
    · rw [lastName_userConfigPath]
      decide
    · have suffix : (Path.ofText w.userConfigPath).lowerSuffix = ".toml" := by
        rw [Path.lowerSuffix, Path.suffix, lastName_userConfigPath]
        decide
      unfold Format.ofPath at script
      rw [suffix] at script
      cases script

/-- All candidates are named from the root if the directory for configurations is. -/
theorem isAbsolute_of_mem (anchored : w.directory.startsWith "/" = true)
    (own : (w.host.configDirectory w.configHome w.home).startsWith "/" = true) {path : String}
    (candidate : path ∈ w.configCandidates w.directory) :
    ∃ p : Path, p.IsAbsolute ∧ path = p.toText := by
  rcases List.mem_append.mp candidate with inside | last
  · obtain ⟨name, among, rfl⟩ := List.mem_map.mp inside
    exact ⟨_, isAbsolute_child anchored among, rfl⟩
  · obtain ⟨rest, whole⟩ := List.head?_eq_some_iff.mp (startsWith_slash_iff.mp own)
    refine ⟨_, Path.isAbsolute_ofText ?_, List.mem_singleton.mp last⟩
    rw [userConfigPath, String.toList_append, whole]
    rfl

theorem candidate_of_found {path : String} (found : w.findConfig none = .ok (some path)) :
    path ∈ w.configCandidates w.directory := by
  obtain ⟨before, _, after, whole, -, -, rfl⟩ := firstFile_eq_some_iff.mp found
  have candidate : path ∈ w.configCandidates (none.getD w.directory) :=
    whole ▸ List.mem_append_right _ List.mem_cons_self
  exact candidate

/-- A path from the root is not misread. -/
theorem not_misread_of_absolute {p : Path} (absolute : p.IsAbsolute) : ¬ Misread p.toText := by
  have trimmed := Text.head?_trim_of_not_blank absolute.head?_toText (by decide)
  rintro ((brace | bracket) | ⟨user, rest, home⟩)
  · rw [trimmed] at brace
    cases brace
  · rw [trimmed] at bracket
    cases bracket
  · rw [absolute.ofText_toText] at home
    exact absolute.anchored (congrArg Path.root home)

/-- A candidate is taken for a path unless it is misread. -/
theorem IsCandidate.taken {p : Path} (candidate : IsCandidate p) (plain : ¬ Misread p.toText) :
    w.TakenForPath p.toText := by
  refine ⟨fun inline => plain (.inl inline), .inl ?_⟩
  by_cases alone : p = ⟨"", [p.lastName]⟩
  · have suffixed : ∀ name ∈ configNames, SpelledAsPath (Path.mk "" [name]).toText := by
      decide
    rw [alone]
    exact suffixed _ candidate.last
  · have named : p.lastName ∈ p.names := by
      cases last : p.names.getLast? with
      | none =>
        have among := candidate.last
        rw [Path.lastName, last] at among
        exact absurd among (by decide)
      | some name =>
        rw [Path.lastName, last]
        exact List.mem_of_getLast? last
    have slash := Path.slash_mem_toText candidate.normal named alone
    exact .inl (Text.mem_trim_of_not_blank slash (by decide))

end Workspace

namespace Config

open Workspace

variable {w : Workspace} {path : String} {source : Option String}

theorem runScript_congr {w' : Workspace} {p : Path} (absolute : p.IsAbsolute)
    (host : w'.host = w.host) (same : w'.read p.toText = w.read p.toText) :
    runScript w' p = runScript w p := by
  have place (w : Workspace) : Config.absolute w p.toText = p.toText := by
    rw [Config.absolute, if_pos (startsWith_slash_iff.mpr absolute.head?_toText)]
  unfold runScript
  dsimp only
  rw [place, place, same, host]

/-- What is read from a path depends on the content of its file and on the host alone, for scripts
only if the path starts at the root. -/
theorem readAny_congr {w' : Workspace} {p : Path}
    (script : Format.ofPath p = .script → p.IsAbsolute) (host : w'.host = w.host)
    (same : w'.read p.toText = w.read p.toText) : readAny w' p = readAny w p := by
  unfold readAny
  split
  next isScript =>
    unfold readScript
    rw [runScript_congr (script isScript) host same]
  next =>
    unfold readFile
    dsimp only
    rw [same]

theorem source_of_inFile {fault : ContentFault} {e : ConfigError}
    (same : fault.inFile path = .config e) : e.source = some path := by
  unfold ContentFault.inFile at same
  split at same
  next =>
    split at same
    next => rw [← LoadFault.config.inj same]
    next => cases same
  next => rw [← LoadFault.config.inj same]

/-- A fault of the configuration in a file has the path of the file as its source. -/
theorem source_of_readAny {p : Path} {e : ConfigError}
    (unread : readAny w p = .error (.config e)) : e.source = some p.toText := by
  unfold readAny at unread
  split at unread
  next =>
    unfold readScript at unread
    dsimp only at unread
    split at unread
    next => rw [eq_of_ofConfig (Except.error.inj unread)]
    next =>
      split at unread
      next => cases unread
      next => rw [eq_of_ofConfig (Except.error.inj unread)]
      next =>
        split at unread
        next => cases unread
        next => rw [eq_of_ofConfig (Except.error.inj unread)]
  next =>
    unfold readFile at unread
    dsimp only at unread
    split at unread
    next => rw [eq_of_ofConfig (Except.error.inj unread)]
    next => rw [eq_of_ofConfig (Except.error.inj unread)]
    next =>
      obtain ⟨f, -, same⟩ := mapError_eq_error_iff.mp unread
      exact source_of_inFile same

section Names

variable [CharacterNames]

/-- Reads and validates the file that a path leads to; the path is the source. -/
def fromFile (w : Workspace) (path : String) : Except LoadFault Config := do
  let data ← readAny w (Path.ofText path)
  ofValue data (some path)

theorem loadSource_of_candidate {p : Path} (candidate : IsCandidate p)
    (plain : ¬ Misread p.toText) : loadSource w p.toText = fromFile w p.toText := by
  have same := candidate.normal.ofText_toText
  have unexpanded : expandHome w p = .ok p := by
    refine expandHome_of_not_tilde fun user rest home => ?_
    exact plain (.inr ⟨user, rest, same.trans home⟩)
  rw [loadSource_of_taken (candidate.taken plain), loadFile, fromFile, same, unexpanded]
  simp only [bind, Except.bind]

theorem source_of_ofValue {data : Value} {config : Config}
    (accepted : ofValue data source = .ok config) : config.source = source := by
  have valid : validate data source = .ok config := mapError_eq_ok_iff.mp accepted
  unfold validate at valid
  split at valid
  next =>
    obtain ⟨_, -, valid⟩ := bind_eq_ok_iff.mp valid
    obtain ⟨_, -, valid⟩ := bind_eq_ok_iff.mp valid
    obtain ⟨_, -, done⟩ := bind_eq_ok_iff.mp valid
    cases done
    rfl
  next => cases valid

theorem source_of_fromFile {p : Path} (normal : p.IsNormal) :
    (∀ config, fromFile w p.toText = .ok config → config.source = some p.toText) ∧
      ∀ e, fromFile w p.toText = .error (.config e) → e.source = some p.toText := by
  unfold fromFile
  rw [normal.ofText_toText]
  constructor
  · intro config done
    obtain ⟨data, -, accepted⟩ := bind_eq_ok_iff.mp done
    exact source_of_ofValue accepted
  · intro e failed
    rcases bind_eq_error_iff.mp failed with unread | ⟨data, -, failed⟩
    · exact source_of_readAny unread
    · obtain ⟨f, -, same⟩ := mapError_eq_error_iff.mp failed
      rw [eq_of_ofConfig same]

/-- Loading from a source is reading and validating the file of a path. -/
structure LoadsFile (w : Workspace) (source : Option String) (path : String) : Prop where
  taken : w.TakenForPath path
  result : load w source = some <$> fromFile w path
  config : ∀ config, load w source = .ok (some config) → config.source = some path
  fault : ∀ e, load w source = .error (.config e) → e.source = some path
  /-- Nothing else on the files matters. -/
  only : ∀ w' : Workspace, w'.host = w.host → w'.read path = w.read path →
    fromFile w' path = fromFile w path

theorem loadsFile_of_candidate {p : Path} (candidate : IsCandidate p) (plain : ¬ Misread p.toText)
    (loaded : load w source = some <$> loadSource w p.toText) : LoadsFile w source p.toText := by
  rw [loadSource_of_candidate candidate plain] at loaded
  obtain ⟨ofConfig, ofFault⟩ := source_of_fromFile (w := w) candidate.normal
  refine ⟨candidate.taken plain, loaded, ?_, ?_, ?_⟩
  · intro config done
    rw [loaded] at done
    obtain ⟨_, done, same⟩ := map_eq_ok_iff.mp done
    cases same
    exact ofConfig config done
  · intro e failed
    rw [loaded, map_eq_error_iff] at failed
    exact ofFault e failed
  · intro w' host same
    rw [fromFile, fromFile, candidate.normal.ofText_toText,
      readAny_congr candidate.script host same]

end Names

/-- A workspace where the directory for configurations has a name like a list. -/
def oddHome : Workspace where
  store := ⟨[(["[ ~"], .directory), (["[ ~", "doctor"], .directory),
    (["[ ~", "doctor", "doctor.toml"], .file [])]⟩
  directory := "/work"
  home := "/home"
  users := []
  configSource := ""
  configHome := "/[ ~/"
  host := .usual

theorem findConfig_oddHome :
    oddHome.findConfig none = .ok (some "/[ ~/doctor/doctor.toml") := by
  have user : (Path.ofText oddHome.userConfigPath).toText = "/[ ~/doctor/doctor.toml" := by
    have base : oddHome.configHome.startsWith "/" = true := startsWith_slash_iff.mpr rfl
    have path : oddHome.userConfigPath = joinPath "/[ ~/" "doctor" ++ "/doctor.toml" := by
      change joinPath (if oddHome.configHome.startsWith "/" then _ else _) "doctor" ++ _ = _
      rw [if_pos base]
      rfl
    rw [path, joinPath]
    split <;> decide
  have candidates : oddHome.configCandidates oddHome.directory =
      configNames.map (fun name => "/work/" ++ name) ++ ["/[ ~/doctor/doctor.toml"] := by
    rw [configCandidates, user]
    decide
  refine firstFile_eq_some_iff.mpr ⟨_, _, [], candidates, ?_, ⟨[], ?_⟩, rfl⟩
  · have missing : ∀ q ∈ configNames.map fun name => "/work/" ++ name,
        q.toList.head? = some '/' ∧ checkPath q = .ok () ∧
          oddHome.store.walk [] (pathNames q) = .error .notFound := by
      simp only [checkPath_eq_ok_iff]
      decide
    intro q among
    obtain ⟨first, checked, lost⟩ := missing q among
    have nothing : oddHome.entry q = .error .notFound := by
      rw [entry, place, checked, startOf_of_absolute _ first, lost]
      rfl
    rw [isFile, nothing]
  · refine entry_eq_ok_iff.mpr ⟨checkPath_eq_ok_iff.mpr (by decide), ?_, ?_⟩
    · rw [startOf_of_absolute _ rfl]
      decide
    · rw [landing, startOf_of_absolute _ rfl]
      decide

end Config

end EnvDoctor
