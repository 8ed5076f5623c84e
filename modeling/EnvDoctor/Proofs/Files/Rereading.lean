import EnvDoctor.Config.Location
import EnvDoctor.Proofs.Files.Normal
import EnvDoctor.Proofs.Files.Saving

/-!
# Reading what was saved

What was saved under a path is what the path leads to, and so does the path behind that of the
working directory, provided the latter goes from the root to its place without two points.
-/

namespace EnvDoctor

theorem Store.foldl_step_of_forward {names : List String} (forward : ".." ∉ names) (p : Place) :
    names.foldl step p = p ++ names.filter fun name => Path.counts name.toList := by
  induction names generalizing p with
  | nil => simp
  | cons name rest ih =>
    obtain ⟨notBack, forward⟩ := not_or.mp (List.mem_cons.not.mp forward)
    rw [List.foldl_cons, ih forward, List.filter_cons]
    cases counted : Path.counts name.toList with
    | true =>
      obtain ⟨nonempty, notPoint⟩ := Path.counts_iff.mp counted
      rw [step, if_neg (not_or.mpr ⟨nonempty, notPoint⟩), if_neg (Ne.symm notBack)]
      simp
    | false =>
      rw [step_of_not_counts counted]
      simp

namespace Workspace

open Filing

variable {w w' : Workspace} {path : String} {content : List UInt8}

theorem entry_of_writeFile (written : outcome (writeFile path content) w = (.ok (), w')) :
    w'.entry path = .ok (.file content) ∧ ¬ isStanding (lastName path) := by
  rw [writeFile_eq, outcome_change] at written
  split at written
  next t done =>
    obtain ⟨prepared, put⟩ := atLast_eq_ok_iff.mp done
    obtain rfl := (Prod.mk.inj written).2
    unfold Store.write at put
    split at put
    next => cases put
    next free =>
      obtain rfl := Except.ok.inj put
      have found (q : Place) :=
        w.store.find?_put (landing_ne_root rfl free) q (.file content)
      have kept (q : Place) (there : Store.IsDirectory (w.store.find? q)) :
          Store.IsDirectory ((w.store.put (w.landing path) (.file content)).find? q) := by
        rw [found, if_neg]
        · exact there
        · rintro rfl
          exact free there
      refine ⟨entry_eq_ok_iff.mpr ⟨prepared.checked, ?_, ?_⟩, prepared.named⟩
      · rw [pathNames_eq]
        exact Store.along_append.mpr
          ⟨prepared.opens.along.mono kept, kept _ prepared.opens.ends, prepared.fits, trivial⟩
      · exact (found _).trans (if_pos rfl)
  next => cases written

theorem entry_of_save (saved : outcome (save path content) w = (.ok (), w')) :
    w'.entry path = .ok (.file content) ∧ ¬ isStanding (lastName path) := by
  rw [outcome_save] at saved
  split at saved
  next => exact entry_of_writeFile saved
  next => cases saved

theorem settings_of_writeFile (w : Workspace) (path : String) (content : List UInt8) :
    (outcome (writeFile path content) w).2 =
      { w with store := (outcome (writeFile path content) w).2.store } := by
  rcases outcome_writeFile_cases w path content with none | ⟨-, -, put⟩
  · rw [none]
  · rw [put]

/-- Saving changes nothing but the store. -/
theorem settings_of_save (w : Workspace) (path : String) (content : List UInt8) :
    (outcome (save path content) w).2 =
      { w with store := (outcome (save path content) w).2.store } := by
  have makes := onlyMakes_makeParent w path
  unfold OnlyMakes at makes
  rw [outcome_save]
  cases made : outcome (makeParent path) w with
  | mk first w₁ =>
    rw [made] at makes
    cases first with
    | error e => exact makes.settings
    | ok _ =>
      have same : w₁ = { w with store := w₁.store } := makes.settings
      dsimp only
      rw [settings_of_writeFile]
      generalize (outcome (writeFile path content) w₁).2.store = store
      rw [same]

/-- The path of the working directory goes from the root to its place without two points. -/
structure IsRooted (directory : String) : Prop where
  absolute : directory.startsWith "/" = true
  forward : ".." ∉ pathNames directory

theorem pathNames_append_slash (front back : List Char) :
    pathNames (String.ofList (front ++ '/' :: back)) =
      pathNames (String.ofList front) ++ pathNames (String.ofList back) := by
  simp only [pathNames, String.toList_ofList, ← List.map_append]
  exact congrArg _ (Text.splitWhere_append_cons (by simp) front back)

theorem endsWith_slash_iff {text : String} :
    text.endsWith "/" = true ↔ ∃ front, text = String.ofList (front ++ ['/']) := by
  have slice : text.endsWith "/" = text.toSlice.endsWith "/" := rfl
  have slash : "/".toList = ['/'] := rfl
  rw [slice, String.Slice.endsWith_string_iff, String.copy_toSlice, slash]
  constructor
  · rintro ⟨front, whole⟩
    exact ⟨front, by rw [whole, String.ofList_toList]⟩
  · rintro ⟨front, rfl⟩
    exact ⟨front, by rw [String.toList_ofList]⟩

/-- A path followed by a name has the names of both; a slash at the end of the path adds none. -/
theorem pathNames_joined (directory name : String) :
    ∃ front, pathNames (joinPath directory name) = front ++ pathNames name ∧
      (pathNames directory = front ∨ pathNames directory = front ++ [""]) := by
  unfold joinPath
  split
  next ends =>
    obtain ⟨front, rfl⟩ := endsWith_slash_iff.mp ends
    have spelled : String.ofList (front ++ ['/']) ++ name =
        String.ofList (front ++ '/' :: name.toList) := by
      apply String.toList_injective
      simp
    rw [spelled, pathNames_append_slash, pathNames_append_slash, String.ofList_toList]
    exact ⟨_, rfl, .inr rfl⟩
  next =>
    have spelled : directory ++ "/" ++ name =
        String.ofList (directory.toList ++ '/' :: name.toList) := by
      apply String.toList_injective
      simp
    rw [spelled, pathNames_append_slash, String.ofList_toList, String.ofList_toList]
    exact ⟨_, rfl, .inl rfl⟩

theorem startsWith_joined {directory : String} (absolute : directory.startsWith "/" = true)
    (name : String) : (joinPath directory name).startsWith "/" = true := by
  rw [String.startsWith_string_iff] at absolute ⊢
  unfold joinPath
  split
  next =>
    rw [String.toList_append]
    exact absolute.trans (List.prefix_append _ _)
  next =>
    rw [String.toList_append, String.toList_append, List.append_assoc]
    exact absolute.trans (List.prefix_append _ _)

/-- Behind the path of the working directory, a path leads where it leads alone. -/
theorem landing_joined {name : String} (rooted : IsRooted w.directory)
    (relative : name.startsWith "/" = false) :
    w.landing (joinPath w.directory name) = w.landing name := by
  obtain ⟨front, names, whole⟩ := pathNames_joined w.directory name
  have forward : ".." ∉ front := by
    intro back
    apply rooted.forward
    rcases whole with whole | whole
    · rwa [whole]
    · rw [whole]
      exact List.mem_append_left _ back
  have place : front.foldl Store.step [] = (Path.ofText w.directory).names := by
    rw [Store.foldl_step_of_forward forward, Path.names_ofText_eq_filter, List.nil_append]
    rcases whole with whole | whole
    · rw [whole]
    · rw [whole, List.filter_append]
      exact (List.append_nil _).symm
  have start : w.startOf name = (Path.ofText w.directory).names := by
    rw [startOf, relative]
    rfl
  have root : w.startOf (joinPath w.directory name) = [] := by
    rw [startOf, startsWith_joined rooted.absolute]
    rfl
  rw [landing, landing, root, start, names, List.foldl_append, place]

theorem read_joined {name : String} {other : List UInt8} (rooted : IsRooted w.directory)
    (relative : name.startsWith "/" = false) (alone : w.read name = .ok content)
    (behind : w.read (joinPath w.directory name) = .ok other) : other = content := by
  obtain ⟨-, -, here⟩ := entry_eq_ok_iff.mp (read_eq_ok_iff.mp alone)
  obtain ⟨-, -, there⟩ := entry_eq_ok_iff.mp (read_eq_ok_iff.mp behind)
  rw [landing_joined rooted relative, here] at there
  exact (Entry.file.inj (Option.some.inj there)).symm

end Workspace

end EnvDoctor
