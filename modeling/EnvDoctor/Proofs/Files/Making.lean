import EnvDoctor.Proofs.Files.Parent
import EnvDoctor.Proofs.Files.Way

/-!
# Making directories

Making directories only adds directories, whether it fails or not. In a tree it succeeds along every
way on which there is no file, and then the way is open.
-/

namespace EnvDoctor.Workspace

open Filing

/-- One workspace comes from another by making directories. If any have been made, there is a
directory where their way starts. -/
structure Makes (start : Place) (w w₁ : Workspace) : Prop where
  settings : w₁ = { w with store := w₁.store }
  extends_store : w.store.Extends w₁.store
  tree : w.store.IsTree → w₁.store.IsTree
  start : w.store.find? start = some .directory ∨ w₁ = w

namespace Makes

variable {start : Place} {w w₁ w₂ : Workspace}

theorem refl (start : Place) (w : Workspace) : Makes start w w :=
  ⟨rfl, .refl _, id, .inr rfl⟩

theorem trans (first : Makes start w w₁) (second : Makes start w₁ w₂) : Makes start w w₂ where
  settings := by
    rw [second.settings, first.settings]
  extends_store := first.extends_store.trans second.extends_store
  tree := second.tree ∘ first.tree
  start := by
    rcases first.start with there | rfl
    · exact .inl there
    · exact second.start

theorem startOf_eq (makes : Makes start w w₁) (path : String) : w₁.startOf path = w.startOf path := by
  rw [makes.settings]
  rfl

end Makes

/-- An activity leaves behind what making directories leaves behind, whether it fails or not. -/
def OnlyMakes (start : Place) (x : Filing Unit) (w : Workspace) : Prop :=
  Makes start w (outcome x w).2

theorem OnlyMakes.tryCatch {start : Place} {x : Filing Unit} {handle : FileError → Filing Unit}
    {w : Workspace} (body : OnlyMakes start x w)
    (handled : ∀ e w₁, (outcome (handle e) w₁).2 = w₁) :
    OnlyMakes start (tryCatch x handle) w := by
  unfold OnlyMakes at body ⊢
  rw [outcome_tryCatch]
  cases left : outcome x w with
  | mk r w₁ =>
    rw [left] at body
    cases r with
    | ok _ => exact body
    | error e =>
      dsimp only
      rw [handled]
      exact body

/-! ## The last name of a path -/

def frontNames (path : String) : List String :=
  (pathNames path).dropLast

def lastName (path : String) : String :=
  (pathNames path).getLast?.getD ""

theorem pathNames_eq (path : String) : pathNames path = frontNames path ++ [lastName path] := by
  have nonempty : pathNames path ≠ [] := by
    simpa [pathNames, Text.splitOn] using Text.splitWhere_ne_nil _ _
  rw [frontNames, lastName, List.getLast?_eq_some_getLast nonempty]
  exact (List.dropLast_concat_getLast nonempty).symm

theorem filter_pathNames (path : String) :
    (pathNames path).filter (· ≠ "") = (nameFields path.toList).map String.ofList := by
  rw [pathNames, List.filter_map, nameFields, Text.fields]
  congr 1
  apply List.filter_congr
  intro piece _
  cases piece <;> simp

/-- The last name is what stands after the last slash. -/
theorem lastName_eq (path : String) : lastName path = String.ofList (lastField path.toList) := by
  obtain ⟨front, split, -⟩ := splitOn_slash path.toList
  simp [lastName, pathNames, split]

/-- The names before the last name are those of the parent. -/
theorem filter_frontNames (path : String) :
    (frontNames path).filter (· ≠ "") = (pathNames (parentPath path)).filter (· ≠ "") := by
  obtain ⟨front, split, fields⟩ := splitOn_slash path.toList
  rw [filter_pathNames, parentPath, String.toList_ofList, ← fields, frontNames, pathNames, split,
    List.map_append, List.map_singleton, List.dropLast_concat, List.filter_map]
  congr 1
  apply List.filter_congr
  intro piece _
  cases piece <;> simp

def landing (w : Workspace) (path : String) : Place :=
  (pathNames path).foldl Store.step (w.startOf path)

theorem landing_eq (w : Workspace) (path : String) : w.landing path =
    Store.step ((frontNames path).foldl Store.step (w.startOf path)) (lastName path) := by
  rw [landing, pathNames_eq, List.foldl_append]
  rfl

/-- The way to the directory that is to hold the last name of a path is open, and the last name can
stand in a directory. -/
structure Prepared (w : Workspace) (path : String) : Prop where
  checked : checkPath path = .ok ()
  opens : w.store.Opens (w.startOf path) (frontNames path)
  fits : Store.Fits (lastName path)
  named : ¬ isStanding (lastName path)

theorem directory_eq_ok_iff {s : Store} {p q : Place} :
    s.directory p = .ok q ↔ s.find? p = some .directory ∧ q = p := by
  unfold Store.directory
  split
  next missing => simp [missing]
  next file => simp [file]
  next there => simp [there, eq_comm]

theorem holder_eq_ok_iff {w : Workspace} {path name : String} {p : Place} :
    w.holder path = .ok (p, name) ↔ checkPath path = .ok () ∧
      w.store.Opens (w.startOf path) (frontNames path) ∧
      p = (frontNames path).foldl Store.step (w.startOf path) ∧ name = lastName path := by
  have unfolded : w.holder path = (do
      checkPath path
      let q ← w.store.walk (w.startOf path) (frontNames path)
      let r ← w.store.directory q
      pure (r, lastName path)) := rfl
  simp only [unfolded, bind_eq_ok_iff, Store.walk_eq_ok_iff, directory_eq_ok_iff]
  constructor
  · rintro ⟨_, checked, q, ⟨along, rfl⟩, r, ⟨there, rfl⟩, same⟩
    cases same
    exact ⟨checked, ⟨along, there⟩, rfl, rfl⟩
  · rintro ⟨checked, ⟨along, there⟩, rfl, rfl⟩
    exact ⟨_, checked, _, ⟨along, rfl⟩, _, ⟨there, rfl⟩, rfl⟩

/-- Goes to the place where the last name of a path is to stand; a name that stands for a directory
is at fault. -/
def atLast (fault : FileFault) (f : Store → Place → Except FileFault Store) (path : String)
    (w : Workspace) : Except FileFault Store := do
  let (p, name) ← w.holder path
  if isStanding name then throw fault else f w.store (← w.store.enter p name)

theorem makeDirectory_eq (path : String) :
    makeDirectory path = change path (atLast .alreadyExists Store.makeDirectory path) := rfl

theorem writeFile_eq (path : String) (content : List UInt8) :
    writeFile path content =
      change path (atLast .isDirectory (fun s p => s.write p content) path) := rfl

theorem atLast_eq_ok_iff {fault : FileFault} {f : Store → Place → Except FileFault Store}
    {path : String} {w : Workspace} {t : Store} :
    atLast fault f path w = .ok t ↔ Prepared w path ∧ f w.store (w.landing path) = .ok t := by
  unfold atLast
  rw [bind_eq_ok_iff]
  constructor
  · rintro ⟨⟨p, name⟩, held, done⟩
    obtain ⟨checked, opens, rfl, rfl⟩ := holder_eq_ok_iff.mp held
    dsimp only at done
    split at done
    next => cases done
    next named =>
      obtain ⟨q, entered, done⟩ := bind_eq_ok_iff.mp done
      obtain ⟨-, fits, rfl⟩ := Store.enter_eq_ok_iff.mp entered
      rw [← landing_eq] at done
      exact ⟨⟨checked, opens, fits, named⟩, done⟩
  · rintro ⟨prepared, done⟩
    refine ⟨_, holder_eq_ok_iff.mpr ⟨prepared.checked, prepared.opens, rfl, rfl⟩, ?_⟩
    dsimp only
    rw [if_neg prepared.named, bind_eq_ok_iff]
    exact ⟨_, Store.enter_eq_ok_iff.mpr ⟨prepared.opens.ends, prepared.fits, rfl⟩,
      landing_eq w path ▸ done⟩

/-! ## Parents and what stands at a path -/

theorem checkPath_eq_ok_iff {path : String} :
    checkPath path = .ok () ↔
      '\x00' ∉ path.toList ∧ path ≠ "" ∧ path.utf8ByteSize ≤ pathLimit := by
  unfold checkPath
  split
  next null => simp_all [String.contains_char_eq]
  next clean =>
    split
    next empty => simp_all [String.isEmpty_iff]
    next =>
      split
      next long => simp_all
      next short => simp_all [String.isEmpty_iff, String.contains_char_eq]

theorem append_parent (path : String) : ∃ rest, path = parentPath path ++ rest := by
  obtain ⟨rest, whole⟩ := exists_append_parent path.toList
  refine ⟨String.ofList rest, ?_⟩
  apply String.toList_injective
  simpa [parentPath] using whole

theorem bare_parentPath (path : String) : Bare (parentPath path).toList := by
  rw [parentPath, String.toList_ofList]
  exact bare_parent path.toList

theorem checkPath_parent {path : String} (checked : checkPath path = .ok ())
    (above : parentPath path ≠ "") : checkPath (parentPath path) = .ok () := by
  obtain ⟨rest, whole⟩ := append_parent path
  rw [checkPath_eq_ok_iff] at checked ⊢
  rw [whole, String.toList_append, String.utf8ByteSize_append] at checked
  obtain ⟨clean, -, short⟩ := checked
  exact ⟨fun null => clean (List.mem_append_left _ null), above, by omega⟩

theorem startsWith_slash_iff {path : String} :
    path.startsWith "/" = true ↔ path.toList.head? = some '/' := by
  rw [String.startsWith_string_iff]
  cases path.toList with
  | nil => simp
  | cons c rest => simp [List.cons_prefix_cons, eq_comm]

theorem startOf_of_absolute (w : Workspace) {path : String}
    (absolute : path.toList.head? = some '/') : w.startOf path = [] :=
  if_pos (startsWith_slash_iff.mpr absolute)

theorem startOf_of_relative (w : Workspace) {path : String}
    (relative : path.toList.head? ≠ some '/') : w.startOf path = (Path.ofText w.directory).names :=
  if_neg (startsWith_slash_iff.not.mpr relative)

theorem startOf_parent (w : Workspace) {path : String} (above : parentPath path ≠ "") :
    w.startOf (parentPath path) = w.startOf path := by
  obtain ⟨rest, whole⟩ := append_parent path
  have same : (parentPath path).startsWith "/" = path.startsWith "/" := by
    rw [Bool.eq_iff_iff, startsWith_slash_iff, startsWith_slash_iff]
    cases parts : (parentPath path).toList with
    | nil => exact absurd (String.toList_eq_nil_iff.mp parts) above
    | cons c more =>
      have long : path.toList = c :: (more ++ rest.toList) := by
        rw [whole, String.toList_append, parts, List.cons_append]
      simp [long]
  rw [startOf, startOf, same]

theorem place_eq_ok_iff {w : Workspace} {path : String} {p : Place} :
    w.place path = .ok p ↔ checkPath path = .ok () ∧
      w.store.Along Store.IsDirectory (w.startOf path) (pathNames path) ∧ p = w.landing path := by
  unfold place landing
  rw [bind_eq_ok_iff, Store.walk_eq_ok_iff]
  exact ⟨fun ⟨_, checked, walked⟩ => ⟨checked, walked⟩,
    fun ⟨checked, walked⟩ => ⟨_, checked, walked⟩⟩

theorem entry_eq_ok_iff {w : Workspace} {path : String} {e : Entry} :
    w.entry path = .ok e ↔ checkPath path = .ok () ∧
      w.store.Along Store.IsDirectory (w.startOf path) (pathNames path) ∧
      w.store.find? (w.landing path) = some e := by
  unfold entry
  rw [bind_eq_ok_iff]
  constructor
  · rintro ⟨p, placed, there⟩
    obtain ⟨checked, along, rfl⟩ := place_eq_ok_iff.mp placed
    split at there
    next found => exact ⟨checked, along, Except.ok.inj there ▸ found⟩
    next => cases there
  · rintro ⟨checked, along, there⟩
    refine ⟨_, place_eq_ok_iff.mpr ⟨checked, along, rfl⟩, ?_⟩
    rw [there]
    rfl

theorem hasEntry_iff {w : Workspace} {path : String} :
    w.hasEntry path = true ↔ checkPath path = .ok () ∧
      w.store.Along Store.IsDirectory (w.startOf path) (pathNames path) ∧
      ∃ e, w.store.find? (w.landing path) = some e := by
  have found : w.hasEntry path = true ↔ ∃ e, w.entry path = .ok e := by
    unfold hasEntry
    cases w.entry path <;> simp [Except.isOk, Except.toBool]
  simp only [found, entry_eq_ok_iff]
  constructor
  · rintro ⟨e, checked, along, there⟩
    exact ⟨checked, along, e, there⟩
  · rintro ⟨checked, along, e, there⟩
    exact ⟨e, checked, along, there⟩

theorem isDirectory_iff {w : Workspace} {path : String} :
    w.isDirectory path = true ↔
      checkPath path = .ok () ∧ w.store.Opens (w.startOf path) (pathNames path) := by
  have found : w.isDirectory path = true ↔ w.entry path = .ok .directory := by
    unfold isDirectory
    split
    next there => simp [there]
    next other => simpa using other
  rw [found, entry_eq_ok_iff]
  exact ⟨fun ⟨checked, along, there⟩ => ⟨checked, along, there⟩,
    fun ⟨checked, along, there⟩ => ⟨checked, along, there⟩⟩

/-! ## Making directories -/

theorem onlyMakes_makeDirectory (path : String) (w : Workspace) :
    OnlyMakes (w.startOf path) (makeDirectory path) w := by
  unfold OnlyMakes
  rw [makeDirectory_eq, outcome_change]
  cases made : atLast .alreadyExists Store.makeDirectory path w with
  | error e => exact .refl _ w
  | ok t =>
    obtain ⟨prepared, made⟩ := atLast_eq_ok_iff.mp made
    have missing : w.store.find? (w.landing path) = none := by
      unfold Store.makeDirectory at made
      split at made
      next missing => exact missing
      next => cases made
    rw [landing_eq] at made missing
    obtain ⟨t', made', extension, tree, -⟩ :=
      Store.makeDirectory_eq_ok prepared.named prepared.opens.ends missing
    obtain rfl : t' = t := by
      rw [made] at made'
      exact (Except.ok.inj made').symm
    exact ⟨rfl, extension, tree, .inl (prepared.opens.start)⟩

/-- Makes a directory in a directory that is there, unless it is there itself. -/
def ensure (path : String) : Filing Unit :=
  tryCatch (makeDirectory path) fun e => do
    if !(← get).isDirectory path then throw e

theorem outcome_ensure (path : String) (w : Workspace) :
    outcome (ensure path) w =
      match outcome (makeDirectory path) w with
      | (.ok a, w₁) => (.ok a, w₁)
      | (.error e, w₁) => if w₁.isDirectory path then (.ok (), w₁) else (.error e, w₁) := by
  unfold ensure
  rw [outcome_tryCatch]
  cases outcome (makeDirectory path) w with
  | mk r w₁ =>
    cases r with
    | ok a => rfl
    | error e =>
      dsimp only
      rw [outcome_bind, outcome_get]
      dsimp only
      cases w₁.isDirectory path <;> rfl

theorem splitPath_toList (path : String) :
    splitPath path.toList = ((parentPath path).toList, (lastName path).toList) := by
  rw [lastName_eq, parentPath, String.toList_ofList, String.toList_ofList,
    splitPath_eq]

/-- Makes the directories above a path; it does not matter if they are there already. -/
def makeAbove (fuel : Nat) (path : String) : Filing Unit :=
  tryCatch (makeDirectories fuel (parentPath path)) fun e =>
    if e.fault = .alreadyExists then pure () else throw e

/-- Without a last name, the parent of a path without a slash at its end is the path itself. -/
theorem splitPath_of_lastField_eq_nil {s : List Char} (bare : Bare s) (none : lastField s = []) :
    (splitPath s).1 = s := by
  have slashes := forall_slash_of_lastField_eq_nil s bare none
  have whole := beforeLast_append_lastField s
  rw [none, List.append_nil] at whole
  have nothing : withoutSlashes s = [] := by
    rw [withoutSlashes, List.reverse_eq_nil_iff, List.dropWhile_eq_nil_iff]
    intro c hc
    rw [slashes c (List.mem_reverse.mp hc)]
    rfl
  rw [splitPath_eq, whole, nothing]
  rfl

/-- Of a path without a slash at its end, the directories above are made first if they are not
there. -/
theorem outcome_makeDirectories (fuel : Nat) {path : String} (bare : Bare path.toList)
    (w : Workspace) :
    outcome (makeDirectories (fuel + 1) path) w =
      if parentPath path ≠ "" ∧ lastName path ≠ "" ∧ w.hasEntry (parentPath path) = false then
        match outcome (makeAbove fuel path) w with
        | (.ok _, w₁) => if lastName path = "." then (.ok (), w₁) else outcome (ensure path) w₁
        | (.error e, w₁) => (.error e, w₁)
      else outcome (ensure path) w := by
  have parts := splitPath_toList path
  have again : (if (lastName path).toList.isEmpty then splitPath (parentPath path).toList
      else ((parentPath path).toList, (lastName path).toList)) =
        ((parentPath path).toList, (lastName path).toList) := by
    split
    next none =>
      rw [lastName_eq, String.toList_ofList, List.isEmpty_iff] at none
      rw [← parts, parentPath, splitPath_of_lastField_eq_nil bare none, String.ofList_toList]
    next => rfl
  have missing : (!(parentPath path).toList.isEmpty && !(lastName path).toList.isEmpty &&
      !w.hasEntry (parentPath path)) = true ↔
        parentPath path ≠ "" ∧ lastName path ≠ "" ∧ w.hasEntry (parentPath path) = false := by
    simp [and_assoc]
  have here : (lastName path).toList = ['.'] ↔ lastName path = "." :=
    ⟨fun same => String.toList_injective same, fun same => same ▸ rfl⟩
  simp only [makeDirectories, parts, again, String.ofList_toList]
  rw [outcome_bind, outcome_get]
  dsimp only
  by_cases above : parentPath path ≠ "" ∧ lastName path ≠ "" ∧ w.hasEntry (parentPath path) = false
  · rw [if_pos above, if_pos (missing.mpr above), ← makeAbove, outcome_bind]
    cases outcome (makeAbove fuel path) w with
    | mk r w₁ =>
      cases r with
      | error e => rfl
      | ok _ =>
        dsimp only
        by_cases point : lastName path = "."
        · rw [if_pos point, if_pos (here.mpr point)]
          rfl
        · rw [if_neg point, if_neg (here.not.mpr point)]
          rfl
  · rw [if_neg above, if_neg (missing.not.mpr above)]
    rfl

theorem onlyMakes_ensure (path : String) (w : Workspace) :
    OnlyMakes (w.startOf path) (ensure path) w := by
  apply (onlyMakes_makeDirectory path w).tryCatch
  intro e w₁
  rw [outcome_bind, outcome_get]
  dsimp only
  cases w₁.isDirectory path <;> rfl

/-- Making directories only makes directories, whether it fails or not. -/
theorem onlyMakes_makeDirectories (fuel : Nat) {path : String} (bare : Bare path.toList)
    (w : Workspace) : OnlyMakes (w.startOf path) (makeDirectories fuel path) w := by
  induction fuel generalizing path w with
  | zero => exact .refl _ w
  | succ fuel ih =>
    unfold OnlyMakes
    rw [outcome_makeDirectories fuel bare]
    split
    next above =>
      have made : OnlyMakes (w.startOf path) (makeAbove fuel path) w := by
        rw [← startOf_parent w above.1]
        apply (ih (bare_parentPath path) w).tryCatch
        intro e w₁
        split <;> rfl
      unfold OnlyMakes at made
      cases left : outcome (makeAbove fuel path) w with
      | mk r w₁ =>
        rw [left] at made
        cases r with
        | error e => exact made
        | ok _ =>
          dsimp only
          split
          next => exact made
          next =>
            refine made.trans ?_
            rw [← made.startOf_eq]
            exact onlyMakes_ensure path w₁
    next => exact onlyMakes_ensure path w

/-- A directory that is there before is there after, whether or not making it fails. -/
theorem ensure_of_opens {w : Workspace} {path : String} (checked : checkPath path = .ok ())
    (opens : w.store.Opens (w.startOf path) (pathNames path)) :
    ∃ w₁, outcome (ensure path) w = (.ok (), w₁) ∧
      w₁.store.Opens (w.startOf path) (pathNames path) := by
  have makes := onlyMakes_makeDirectory path w
  unfold OnlyMakes at makes
  have after := opens.extends makes.extends_store
  rw [outcome_ensure]
  cases made : outcome (makeDirectory path) w with
  | mk r w₁ =>
    rw [made] at makes after
    cases r with
    | ok _ => exact ⟨w₁, rfl, after⟩
    | error e =>
      have isDirectory : w₁.isDirectory path = true := by
        rw [isDirectory_iff, makes.startOf_eq]
        exact ⟨checked, after⟩
      dsimp only
      rw [if_pos isDirectory]
      exact ⟨w₁, rfl, after⟩

/-- A directory is made where the way to it is open and nothing stands. -/
theorem ensure_of_missing {w : Workspace} {path : String} (prepared : Prepared w path)
    (missing : w.store.find? (w.landing path) = none) :
    ∃ w₁, outcome (ensure path) w = (.ok (), w₁) ∧
      w₁.store.Opens (w.startOf path) (pathNames path) := by
  rw [landing_eq] at missing
  obtain ⟨t, made, extension, -, directory⟩ :=
    Store.makeDirectory_eq_ok prepared.named prepared.opens.ends missing
  rw [← landing_eq] at made
  have done : outcome (makeDirectory path) w = (.ok (), { w with store := t }) := by
    rw [makeDirectory_eq, outcome_change, atLast_eq_ok_iff.mpr ⟨prepared, made⟩]
  rw [outcome_ensure, done]
  refine ⟨_, rfl, ?_⟩
  rw [pathNames_eq]
  exact Store.leads_append_singleton.mpr
    ⟨prepared.opens.extends extension, prepared.fits, directory⟩

/-- In a tree a directory can be made, or is there, where the way to it is open and there is no
file. -/
theorem ensure_ok {w : Workspace} {path : String} (tree : w.store.IsTree)
    (checked : checkPath path = .ok ())
    (opens : w.store.Opens (w.startOf path) (frontNames path))
    (fits : Store.Fits (lastName path)) (free : Store.IsFree (w.store.find? (w.landing path))) :
    ∃ w₁, outcome (ensure path) w = (.ok (), w₁) ∧
      w₁.store.Opens (w.startOf path) (pathNames path) := by
  cases there : w.store.find? (w.landing path) with
  | some e =>
    cases e with
    | file content => exact absurd there (free content)
    | directory =>
      apply ensure_of_opens checked
      rw [landing_eq] at there
      rw [pathNames_eq]
      exact Store.leads_append_singleton.mpr ⟨opens, fits, there⟩
  | none =>
    have named : ¬ isStanding (lastName path) := by
      intro standing
      rw [landing_eq, tree.step opens.ends standing] at there
      cases there
    exact ensure_of_missing ⟨checked, opens, fits, named⟩ there

/-- The same after directories have been made: they put no file in the way. -/
theorem Makes.ensure_ok {w w₁ : Workspace} {path : String} (makes : Makes (w.startOf path) w w₁)
    (tree : w.store.IsTree) (checked : checkPath path = .ok ())
    (opens : w₁.store.Opens (w.startOf path) (frontNames path))
    (fits : Store.Fits (lastName path)) (free : Store.IsFree (w.store.find? (w.landing path))) :
    ∃ w₂, outcome (ensure path) w₁ = (.ok (), w₂) ∧
      w₂.store.Opens (w.startOf path) (pathNames path) := by
  have same := makes.startOf_eq path
  have kept : Store.IsFree (w₁.store.find? (w₁.landing path)) := by
    intro content file
    rw [landing, same] at file
    exact free content (makes.extends_store.file_iff.mp file)
  rw [← same] at opens ⊢
  exact Workspace.ensure_ok (makes.tree tree) checked opens fits kept

/-- The way to the parent of a path is the way along the names of the path but the last. -/
theorem leads_parent {s : Store} {condition : Option Entry → Prop} {p : Place} {path : String} :
    s.Leads condition p (pathNames (parentPath path)) ↔ s.Leads condition p (frontNames path) := by
  rw [← Store.leads_filter, ← filter_frontNames, Store.leads_filter]

/-- If something stands at the end of a way on which there is no file, the way is open. -/
theorem opens_of_hasEntry {w : Workspace} {path : String} (there : w.hasEntry path = true)
    (openable : w.store.Openable (w.startOf path) (pathNames path)) :
    w.store.Opens (w.startOf path) (pathNames path) := by
  obtain ⟨-, along, e, found⟩ := hasEntry_iff.mp there
  cases e with
  | directory => exact ⟨along, found⟩
  | file content => exact absurd found (openable.ends content)

/-- If the parent of a path is nothing, or the path is of slashes alone, no names come before the
last. -/
theorem filter_frontNames_eq_nil {path : String} (bare : Bare path.toList)
    (top : parentPath path = "" ∨ lastName path = "") :
    (frontNames path).filter (· ≠ "") = [] := by
  rw [filter_frontNames]
  rcases top with none | none
  · rw [none]
    rfl
  · rw [lastName_eq, String.ofList_eq_empty_iff] at none
    have slashes := forall_slash_of_lastField_eq_nil _ bare none
    rw [filter_pathNames, parentPath, splitPath_of_lastField_eq_nil bare none,
      String.ofList_toList, nameFields_of_forall_slash slashes, List.map_nil]

/-- In a tree directories can be made, or are there, along a way that starts at a directory and on
which there is no file. -/
theorem makeDirectories_ok {w : Workspace} (tree : w.store.IsTree) {path : String}
    (bare : Bare path.toList) {fuel : Nat} (enough : path.toList.length < fuel)
    (checked : checkPath path = .ok ()) (start : w.store.find? (w.startOf path) = some .directory)
    (openable : w.store.Openable (w.startOf path) (pathNames path)) :
    ∃ w₁, outcome (makeDirectories fuel path) w = (.ok (), w₁) ∧
      w₁.store.Opens (w.startOf path) (pathNames path) := by
  -- Each step goes to the parent, whose way is the front of the way of the path: a front on which
  -- there is no file either, and which is open once its directories have been made.
  induction fuel generalizing path with
  | zero => exact absurd enough (Nat.not_lt_zero _)
  | succ fuel ih =>
    rw [outcome_makeDirectories fuel bare]
    rw [pathNames_eq] at openable
    obtain ⟨front, fits, free⟩ := Store.leads_append_singleton.mp openable
    rw [← landing_eq] at free
    by_cases top : parentPath path = "" ∨ lastName path = ""
    · have opens : w.store.Opens (w.startOf path) (frontNames path) := by
        rw [Store.Opens, ← Store.leads_filter, filter_frontNames_eq_nil bare top]
        exact Store.leads_nil.mpr start
      rw [if_neg (fun above => top.elim above.1 above.2.1)]
      exact ensure_ok tree checked opens fits free
    · obtain ⟨above, named⟩ := not_or.mp top
      have checkedAbove := checkPath_parent checked above
      have startAbove := startOf_parent w above
      have openableAbove : w.store.Openable (w.startOf path) (pathNames (parentPath path)) :=
        leads_parent.mpr front
      cases there : w.hasEntry (parentPath path) with
      | true =>
        rw [if_neg (by simp)]
        rw [← startAbove] at openableAbove
        have opens := opens_of_hasEntry there openableAbove
        rw [startAbove] at opens
        exact ensure_ok tree checked (leads_parent.mp opens) fits free
      | false =>
        rw [if_pos ⟨above, named, rfl⟩]
        have shorter : (parentPath path).toList.length < fuel := by
          rw [lastName_eq, String.ofList_eq_empty_iff] at named
          have less := length_parent_lt path.toList named
          rw [parentPath, String.toList_ofList]
          omega
        rw [← startAbove] at start openableAbove
        obtain ⟨w₁, made, opens⟩ :=
          ih (bare_parentPath path) shorter checkedAbove start openableAbove
        have makes := onlyMakes_makeDirectories fuel (bare_parentPath path) w
        unfold OnlyMakes at makes
        rw [made, startAbove] at makes
        rw [startAbove, Store.Opens, leads_parent] at opens
        have madeAbove : outcome (makeAbove fuel path) w = (.ok (), w₁) := by
          rw [makeAbove, outcome_tryCatch, made]
        rw [madeAbove]
        dsimp only
        by_cases point : lastName path = "."
        · -- A point at the end leads to the directory that has just been made.
          rw [if_pos point]
          refine ⟨w₁, rfl, ?_⟩
          rw [pathNames_eq, point]
          exact Store.leads_append_singleton.mpr ⟨opens, .inr (.inl rfl), opens.ends⟩
        · rw [if_neg point]
          exact makes.ensure_ok tree checked opens fits free

end EnvDoctor.Workspace
