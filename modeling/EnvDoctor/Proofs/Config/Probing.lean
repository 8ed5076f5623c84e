import EnvDoctor.Config.Location
import EnvDoctor.Proofs.Files.Making

/-!
# Probing for configurations

What a text or a candidate for a configuration leads to is tried out on the files. Only a path that
is too long, or a name on it that is, makes this fail; everything else that is wrong with a path
means that there is no file.
-/

namespace EnvDoctor

namespace Store

variable {s : Store}

theorem enter_eq_nameTooLong_iff {p : Place} {name : String} :
    s.enter p name = .error .nameTooLong ↔ s.find? p = some .directory ∧ ¬ Fits name := by
  by_cases there : s.find? p = some .directory
  · by_cases fits : Fits name
    · rw [enter_eq_ok_iff.mpr ⟨there, fits, rfl⟩]
      simp [fits]
    · obtain ⟨notEmpty, notPoint, notBack, long⟩ : name ≠ "" ∧ name ≠ "." ∧ name ≠ ".." ∧
          ¬ name.utf8ByteSize ≤ nameLimit := by
        simpa [Fits] using fits
      rw [enter_of_directory there, if_neg (not_or.mpr ⟨notEmpty, notPoint⟩), if_neg notBack,
        if_pos (Nat.lt_of_not_le long)]
      simp [there, fits]
  · unfold enter directory
    split
    next missing => simp [missing, bind, Except.bind]
    next file => simp [file, bind, Except.bind]
    next found => exact absurd found there

/-- A walk meets a name that is too long behind an open way. -/
theorem walk_eq_nameTooLong_iff {p : Place} {names : List String} :
    s.walk p names = .error .nameTooLong ↔
      ∃ front name back, names = front ++ name :: back ∧ s.Opens p front ∧ ¬ Fits name := by
  induction names generalizing p with
  | nil => simp [walk, pure, Except.pure]
  | cons name rest ih =>
    rw [walk_cons, bind_eq_error_iff, enter_eq_nameTooLong_iff]
    constructor
    · rintro (⟨there, unfit⟩ | ⟨q, entered, failed⟩)
      · exact ⟨[], name, rest, rfl, leads_nil.mpr there, unfit⟩
      · obtain ⟨there, fits, rfl⟩ := enter_eq_ok_iff.mp entered
        obtain ⟨front, long, back, rfl, opens, unfit⟩ := ih.mp failed
        exact ⟨name :: front, long, back, rfl, leads_cons.mpr ⟨there, fits, opens⟩, unfit⟩
    · rintro ⟨front, long, back, whole, opens, unfit⟩
      cases front with
      | nil =>
        obtain ⟨rfl, rfl⟩ := List.cons.inj whole
        exact .inl ⟨leads_nil.mp opens, unfit⟩
      | cons _ front =>
        obtain ⟨rfl, rfl⟩ := List.cons.inj whole
        obtain ⟨there, fits, opens⟩ := leads_cons.mp opens
        exact .inr ⟨_, enter_eq_ok_iff.mpr ⟨there, fits, rfl⟩,
          ih.mpr ⟨front, long, back, rfl, opens, unfit⟩⟩

end Store

namespace Workspace

/-- A path is too long, or an open way along it ends before a name that is too long. -/
def Overlong (w : Workspace) (path : String) : Prop :=
  '\x00' ∉ path.toList ∧ (pathLimit < path.utf8ByteSize ∨
    ∃ front name back, pathNames path = front ++ name :: back ∧
      w.store.Opens (w.startOf path) front ∧ ¬ Store.Fits name)

theorem checkPath_eq_nameTooLong_iff {path : String} :
    checkPath path = .error .nameTooLong ↔ '\x00' ∉ path.toList ∧ pathLimit < path.utf8ByteSize := by
  unfold checkPath
  rw [String.contains_char_eq]
  split
  next null => simp_all
  next clean =>
    split
    next empty =>
      obtain rfl := String.isEmpty_iff.mp empty
      simp [pathLimit]
    next =>
      split
      next long => simp_all
      next short => simp_all

theorem entry_eq_nameTooLong_iff {w : Workspace} {path : String} :
    w.entry path = .error .nameTooLong ↔ w.Overlong path := by
  unfold entry place Overlong
  rw [bind_eq_error_iff, bind_eq_error_iff, checkPath_eq_nameTooLong_iff]
  constructor
  · rintro ((long | ⟨_, checked, failed⟩) | ⟨p, -, failed⟩)
    · exact ⟨long.1, .inl long.2⟩
    · exact ⟨(checkPath_eq_ok_iff.mp checked).1, .inr (Store.walk_eq_nameTooLong_iff.mp failed)⟩
    · split at failed <;> cases failed
  · rintro ⟨clean, long | meets⟩
    · exact .inl (.inl ⟨clean, long⟩)
    · by_cases long : pathLimit < path.utf8ByteSize
      · exact .inl (.inl ⟨clean, long⟩)
      · have nonempty : path ≠ "" := by
          rintro rfl
          obtain ⟨front, name, back, whole, -, unfit⟩ := meets
          obtain rfl : name = "" := by
            have member : name ∈ pathNames "" := by simp [whole]
            simpa [pathNames, Text.splitOn] using member
          exact unfit Store.fits_empty
        have checked := checkPath_eq_ok_iff.mpr ⟨clean, nonempty, Nat.le_of_not_lt long⟩
        exact .inl (.inr ⟨(), checked, Store.walk_eq_nameTooLong_iff.mpr meets⟩)

theorem isFile_eq_error_iff {w : Workspace} {path : String} {e : FileError} :
    w.isFile path = .error e ↔ w.Overlong path ∧ e = ⟨.nameTooLong, path⟩ := by
  rw [← entry_eq_nameTooLong_iff]
  unfold isFile
  split
  next found => simp [found]
  next long => simp [long, eq_comm]
  next _ short =>
    simp only [reduceCtorEq, false_iff, not_and]
    intro long
    exact absurd long short

theorem isFile_eq_true_iff {w : Workspace} {path : String} :
    w.isFile path = .ok true ↔ ∃ content, w.entry path = .ok (.file content) := by
  unfold isFile
  split
  next content found => simp [found]
  next long => simp [long]
  next other _ => simpa using other

variable {w : Workspace}

theorem firstFile_eq_error_iff {paths : List String} {e : FileError} :
    w.firstFile paths = .error e ↔
      FirstFaulty (fun q => w.isFile q = .ok false)
        (fun q => w.Overlong q ∧ e = ⟨.nameTooLong, q⟩) paths := by
  induction paths with
  | nil => simp [firstFile, not_firstFaulty_nil]
  | cons q rest ih =>
    rw [firstFile, bind_eq_error_iff, firstFaulty_cons_iff, isFile_eq_error_iff]
    constructor
    · rintro (long | ⟨there, probed, failed⟩)
      · exact .inl long
      · cases there with
        | true => cases failed
        | false => exact .inr ⟨probed, ih.mp failed⟩
    · rintro (long | ⟨probed, failed⟩)
      · exact .inl long
      · exact .inr ⟨false, probed, ih.mpr failed⟩

/-- A file counts if no path before it leads to a file or is too long. -/
theorem firstFile_eq_some_iff {paths : List String} {path : String} :
    w.firstFile paths = .ok (some path) ↔
      FirstFaulty (fun q => w.isFile q = .ok false)
        (fun q => (∃ content, w.entry q = .ok (.file content)) ∧ path = q) paths := by
  induction paths with
  | nil => simp [firstFile, not_firstFaulty_nil]
  | cons q rest ih =>
    rw [firstFile, bind_eq_ok_iff, firstFaulty_cons_iff, ← isFile_eq_true_iff]
    constructor
    · rintro ⟨there, probed, done⟩
      cases there with
      | true => exact .inl ⟨probed, (Option.some.inj (Except.ok.inj done)).symm⟩
      | false => exact .inr ⟨probed, ih.mp done⟩
    · rintro (⟨probed, rfl⟩ | ⟨probed, found⟩)
      · exact ⟨true, probed, rfl⟩
      · exact ⟨false, probed, ih.mpr found⟩

/-- A text begins like a table or a list. -/
def Inline (s : String) : Prop :=
  (Text.trim s.toList).head? = some '\x7b' ∨ (Text.trim s.toList).head? = some '['

/-- A text is spelled like a path: it has a slash or a backslash, begins with a drive, or ends like
a configuration file. -/
def SpelledAsPath (s : String) : Prop :=
  '/' ∈ Text.trim s.toList ∨ looksLikeWindowsPath s = true ∨
    ∃ suffix ∈ configSuffixes, suffix.toList <:+ (Text.trim s.toList).map Text.lower

instance (s : String) : Decidable (Inline s) :=
  inferInstanceAs (Decidable (_ ∨ _))

instance (s : String) : Decidable (SpelledAsPath s) :=
  inferInstanceAs (Decidable (_ ∨ _ ∨ _))

/-- The path that is probed if nothing tells that a text is a path. -/
def probedPath (s : String) : String :=
  (Path.ofText (String.ofList (Text.trim s.toList))).toText

theorem looksLikeConfigPath_of_inline {s : String} (inline : Inline s) :
    w.looksLikeConfigPath s = .ok false := by
  unfold looksLikeConfigPath
  rcases inline with first | first
  · obtain ⟨rest, trimmed⟩ := List.head?_eq_some_iff.mp first
    rw [trimmed]
    rfl
  · obtain ⟨rest, trimmed⟩ := List.head?_eq_some_iff.mp first
    rw [trimmed]
    rfl

theorem looksLikeConfigPath_of_not_inline {s : String} (notInline : ¬ Inline s) :
    w.looksLikeConfigPath s = if SpelledAsPath s then .ok true else w.isFile (probedPath s) := by
  have spelled : ((Text.trim s.toList).contains '/' || looksLikeWindowsPath s ||
      configSuffixes.any fun suffix =>
        suffix.toList.isSuffixOf ((Text.trim s.toList).map Text.lower)) = true ↔
          SpelledAsPath s := by
    simp [SpelledAsPath, or_assoc]
  unfold looksLikeConfigPath
  dsimp only
  split
  next trimmed => exact absurd (.inl (congrArg List.head? trimmed)) notInline
  next trimmed => exact absurd (.inr (congrArg List.head? trimmed)) notInline
  next => simp only [spelled, probedPath]

/-- A text is taken for the path of a configuration file. -/
def TakenForPath (w : Workspace) (s : String) : Prop :=
  ¬ Inline s ∧ (SpelledAsPath s ∨ ∃ content, w.entry (probedPath s) = .ok (.file content))

/-- Trying out what a text leads to ends at a path that is too long. -/
def ProbesOverlong (w : Workspace) (s : String) : Prop :=
  ¬ Inline s ∧ ¬ SpelledAsPath s ∧ w.Overlong (probedPath s)

theorem looksLikeConfigPath_eq_true_iff {s : String} :
    w.looksLikeConfigPath s = .ok true ↔ w.TakenForPath s := by
  unfold TakenForPath
  by_cases inline : Inline s
  · simp [looksLikeConfigPath_of_inline inline, inline]
  · rw [looksLikeConfigPath_of_not_inline inline]
    by_cases spelled : SpelledAsPath s
    · simp [inline, spelled]
    · simp [inline, spelled, isFile_eq_true_iff]

theorem looksLikeConfigPath_eq_error_iff {s : String} {e : FileError} :
    w.looksLikeConfigPath s = .error e ↔
      w.ProbesOverlong s ∧ e = ⟨.nameTooLong, probedPath s⟩ := by
  unfold ProbesOverlong
  by_cases inline : Inline s
  · simp [looksLikeConfigPath_of_inline inline, inline]
  · rw [looksLikeConfigPath_of_not_inline inline]
    by_cases spelled : SpelledAsPath s
    · simp [inline, spelled]
    · simp [inline, spelled, isFile_eq_error_iff]

theorem looksLikeConfigPath_eq_false_iff {s : String} :
    w.looksLikeConfigPath s = .ok false ↔ ¬ w.TakenForPath s ∧ ¬ w.ProbesOverlong s := by
  rw [← looksLikeConfigPath_eq_true_iff]
  have probes : w.ProbesOverlong s ↔ ∃ e, w.looksLikeConfigPath s = .error e := by
    simp [looksLikeConfigPath_eq_error_iff]
  rw [probes]
  rcases w.looksLikeConfigPath s with e | _ | _ <;> simp

end Workspace

end EnvDoctor
