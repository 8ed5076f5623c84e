import EnvDoctor.Proofs.Files.Making

/-!
# Saving files

Saving a file makes the directories that lead to it and then writes it, so that all other files
stay as they are. What becomes of a file that stands where the path leads to is said exactly: in a
tree it is written over if and only if there is no file on the way, whether the directories of the
way are there or not.
-/

namespace EnvDoctor.Workspace

open Filing

/-- All files of a workspace are in the other one, with the same contents. -/
def KeepsFiles (w w₁ : Workspace) : Prop :=
  ∀ p content, w.store.find? p = some (.file content) → w₁.store.find? p = some (.file content)

/-- A path leads to a file with another content, perhaps through directories that can be made. -/
structure Overwrites (w : Workspace) (path : String) (content : List UInt8) : Prop where
  checked : checkPath path = .ok ()
  start : w.store.find? (w.startOf path) = some .directory
  openable : w.store.Openable (w.startOf path) (frontNames path)
  fits : Store.Fits (lastName path)
  named : ¬ isStanding (lastName path)
  differs : ∃ old, w.store.find? (w.landing path) = some (.file old) ∧ old ≠ content

def makeParent (path : String) : Filing Unit := do
  if !(parentPath path).isEmpty then makeDirectories (path.length + 1) (parentPath path)

theorem Makes.keepsFiles {start : Place} {w w₁ : Workspace} (makes : Makes start w w₁) :
    KeepsFiles w w₁ :=
  fun _ _ file => makes.extends_store.file_iff.mpr file

variable (w : Workspace) (path : String) (content : List UInt8)

theorem outcome_save : outcome (save path content) w =
    match outcome (makeParent path) w with
    | (.ok _, w₁) => outcome (writeFile path content) w₁
    | (.error e, w₁) => (.error e, w₁) := by
  have steps : outcome (save path content) w =
      outcome (makeParent path >>= fun _ => writeFile path content) w := by
    unfold save makeParent
    dsimp only
    cases (parentPath path).isEmpty with
    | true => simp only [Bool.not_true, Bool.false_eq_true, if_false, pure_bind]
    | false => simp only [Bool.not_false, if_true]
  rw [steps, outcome_bind]
  rcases outcome (makeParent path) w with ⟨r, w₁⟩
  cases r <;> rfl

theorem onlyMakes_makeParent : OnlyMakes (w.startOf path) (makeParent path) w := by
  unfold makeParent
  cases top : (parentPath path).isEmpty with
  | true => exact .refl _ w
  | false =>
    have above : parentPath path ≠ "" := by
      intro none
      rw [none] at top
      cases top
    rw [← startOf_parent w above]
    exact onlyMakes_makeDirectories _ (bare_parentPath path) w

/-- In a tree the directories that lead to a path can be made, or are there, if the way starts at a
directory and there is no file on it. -/
theorem makeParent_ok {w : Workspace} {path : String} (tree : w.store.IsTree)
    (checked : checkPath path = .ok ())
    (start : w.store.find? (w.startOf path) = some .directory)
    (openable : w.store.Openable (w.startOf path) (frontNames path)) :
    ∃ w₁, outcome (makeParent path) w = (.ok (), w₁) ∧
      w₁.store.Opens (w.startOf path) (frontNames path) := by
  by_cases top : parentPath path = ""
  · refine ⟨w, by simp [makeParent, top], ?_⟩
    rw [Store.Opens, ← leads_parent, top]
    exact ⟨⟨start, Store.fits_empty, trivial⟩, start⟩
  · have made : makeParent path = makeDirectories (path.length + 1) (parentPath path) := by
      simp [makeParent, top]
    have same := startOf_parent w top
    have shorter : (parentPath path).toList.length < path.length + 1 := by
      obtain ⟨rest, whole⟩ := exists_append_parent path.toList
      have length := congrArg List.length whole
      rw [List.length_append, String.length_toList] at length
      rw [parentPath, String.toList_ofList]
      omega
    have openableAbove : w.store.Openable (w.startOf path) (pathNames (parentPath path)) :=
      leads_parent.mpr openable
    rw [← same] at start openableAbove
    obtain ⟨w₁, done, opens⟩ := makeDirectories_ok tree (bare_parentPath path) shorter
      (checkPath_parent checked top) start openableAbove
    rw [same] at opens
    exact ⟨w₁, made ▸ done, leads_parent.mp opens⟩

/-- Writing a file leaves everything as it is, or puts the file where the path leads to. -/
theorem outcome_writeFile_cases : (outcome (writeFile path content) w).2 = w ∨
    Prepared w path ∧ w.store.find? (w.landing path) ≠ some .directory ∧
      (outcome (writeFile path content) w).2 =
        { w with store := w.store.put (w.landing path) (.file content) } := by
  rw [writeFile_eq, outcome_change]
  cases written : atLast .isDirectory (fun s p => s.write p content) path w with
  | error e => exact .inl rfl
  | ok t =>
    obtain ⟨prepared, done⟩ := atLast_eq_ok_iff.mp written
    unfold Store.write at done
    split at done
    next => cases done
    next free =>
      obtain rfl := Except.ok.inj done
      exact .inr ⟨prepared, free, rfl⟩

variable {w path}

/-- A file is written where the way to it is open and no directory stands there. -/
theorem outcome_writeFile_of_free (prepared : Prepared w path)
    (free : w.store.find? (w.landing path) ≠ some .directory) :
    outcome (writeFile path content) w =
      (.ok (), { w with store := w.store.put (w.landing path) (.file content) }) := by
  have written : w.store.write (w.landing path) content =
      .ok (w.store.put (w.landing path) (.file content)) := by
    unfold Store.write
    split
    next there => exact absurd there free
    next => rfl
  rw [writeFile_eq, outcome_change, atLast_eq_ok_iff.mpr ⟨prepared, written⟩]

/-- So a path without a slash is saved at once. -/
theorem outcome_save_of_bare (bare : parentPath path = "") (prepared : Prepared w path)
    (free : w.store.find? (w.landing path) ≠ some .directory) :
    outcome (save path content) w =
      (.ok (), { w with store := w.store.put (w.landing path) (.file content) }) := by
  have nothing : outcome (makeParent path) w = (.ok (), w) := by
    simp [makeParent, bare]
  rw [outcome_save, nothing]
  exact outcome_writeFile_of_free content prepared free

theorem landing_ne_root {q : Place} {s : Store} {e : Option Entry} (found : s.find? q = e)
    (other : e ≠ some .directory) : q ≠ [] := by
  rintro rfl
  exact other found.symm

/-- The way can be opened, and then the last name leads to the file as before. -/
theorem save_of_overwrites (tree : w.store.IsTree) (overwrites : Overwrites w path content) :
    ¬ KeepsFiles w (outcome (save path content) w).2 := by
  obtain ⟨checked, start, openable, fits, named, old, file, differs⟩ := overwrites
  obtain ⟨w₁, made, opens⟩ := makeParent_ok tree checked start openable
  have makes := onlyMakes_makeParent w path
  unfold OnlyMakes at makes
  rw [made] at makes
  have same := makes.startOf_eq path
  rw [← same] at opens
  have kept := makes.keepsFiles _ _ file
  have place : w.landing path = w₁.landing path := by
    rw [landing, landing, same]
  rw [place] at kept file
  have free : w₁.store.find? (w₁.landing path) ≠ some .directory := by
    rw [kept]
    simp
  have written := outcome_writeFile_of_free content ⟨checked, opens, fits, named⟩ free
  intro keeps
  rw [outcome_save, made] at keeps
  dsimp only at keeps
  rw [written] at keeps
  have after := keeps _ _ file
  rw [Store.find?_put (landing_ne_root kept (by simp)), if_pos rfl] at after
  exact differs (Entry.file.inj (Option.some.inj after)).symm

/-- A file that is written after directories have been made is written over an equal one, or over
one that the path led to before. -/
theorem Makes.keepsFiles_writeFile {w₁ : Workspace} (makes : Makes (w.startOf path) w w₁)
    (safe : ¬ Overwrites w path content) :
    KeepsFiles w (outcome (writeFile path content) w₁).2 := by
  rcases outcome_writeFile_cases w₁ path content with none | ⟨prepared, free, put⟩
  · rw [none]
    exact makes.keepsFiles
  · intro q old file
    have kept := makes.keepsFiles q old file
    have same := makes.startOf_eq path
    rw [put]
    dsimp only
    rw [Store.find?_put (landing_ne_root rfl free)]
    split
    next here =>
      subst here
      by_contra other
      apply safe
      have opens := prepared.opens
      rw [same] at opens
      -- The way starts where nothing has been made: at a directory that was there before.
      have start : w.store.find? (w.startOf path) = some .directory := by
        rcases makes.start with there | rfl
        · exact there
        · exact opens.start
      refine ⟨prepared.checked, start, opens.openable_of_extends makes.extends_store,
        prepared.fits, prepared.named, old, ?_, ?_⟩
      · rw [landing, same] at file
        exact file
      · rintro rfl
        exact other rfl
    next => exact kept

/-- What a save changes among the files is what it writes over. -/
theorem save_keepsFiles_iff (tree : w.store.IsTree) :
    KeepsFiles w (outcome (save path content) w).2 ↔ ¬ Overwrites w path content := by
  constructor
  · intro keeps overwrites
    exact save_of_overwrites content tree overwrites keeps
  · intro safe
    have makes := onlyMakes_makeParent w path
    unfold OnlyMakes at makes
    rw [outcome_save]
    cases made : outcome (makeParent path) w with
    | mk r w₁ =>
      rw [made] at makes
      cases r with
      | error e => exact makes.keepsFiles
      | ok _ => exact makes.keepsFiles_writeFile content safe

end EnvDoctor.Workspace
