import EnvDoctor.Proofs.Outcome
import Mathlib.Data.List.Induction

/-!
# Ways along a path

A path spells a place, whatever the files are: the names are followed one by one and two points lead
back. What the files decide is whether the way there can be walked: all places on it have to be
directories. In a tree, where whatever stands somewhere stands in a directory, making the missing
directories of a way is all that it takes to walk it.
-/

namespace EnvDoctor

namespace Store

def step (p : Place) (name : String) : Place :=
  if name = "" ∨ name = "." then p else if name = ".." then p.dropLast else p ++ [name]

/-- A name that can be entered or made. -/
def Fits (name : String) : Prop :=
  name = "" ∨ name = "." ∨ name = ".." ∨ name.utf8ByteSize ≤ nameLimit

/-- All places from which a name of the way is entered satisfy a condition, and all names fit. -/
def Along (s : Store) (condition : Option Entry → Prop) : Place → List String → Prop
  | _, [] => True
  | p, name :: rest => condition (s.find? p) ∧ Fits name ∧ s.Along condition (step p name) rest

def IsDirectory (e : Option Entry) : Prop :=
  e = some .directory

/-- There is no file, so that a directory is there or can be made. -/
def IsFree (e : Option Entry) : Prop :=
  ∀ content, e ≠ some (.file content)

/-- All places of the way satisfy a condition, the last one too. -/
structure Leads (s : Store) (condition : Option Entry → Prop) (p : Place) (names : List String) :
    Prop where
  along : s.Along condition p names
  ends : condition (s.find? (names.foldl step p))

/-- The way can be walked, and ends in a directory. -/
def Opens (s : Store) : Place → List String → Prop :=
  s.Leads IsDirectory

/-- The way can be walked after its missing directories have been made, the last one too. -/
def Openable (s : Store) : Place → List String → Prop :=
  s.Leads IsFree

/-- Whatever stands somewhere stands in a directory. -/
def IsTree (s : Store) : Prop :=
  ∀ p e, p ≠ [] → s.find? p = some e → s.find? p.dropLast = some .directory

/-- The other store has the same entries, and perhaps more directories. -/
def Extends (s t : Store) : Prop :=
  ∀ p, t.find? p = s.find? p ∨ (s.find? p = none ∧ t.find? p = some .directory)

instance (name : String) : Decidable (Fits name) :=
  inferInstanceAs (Decidable (_ ∨ _ ∨ _ ∨ _))

instance (e : Option Entry) : Decidable (IsDirectory e) :=
  inferInstanceAs (Decidable (e = some .directory))

instance : (e : Option Entry) → Decidable (IsFree e)
  | none => isTrue nofun
  | some .directory => isTrue nofun
  | some (.file content) => isFalse fun free => free content rfl

section

variable (s : Store) (condition : Option Entry → Prop) [DecidablePred condition]

instance decidableAlong : (p : Place) → (names : List String) →
    Decidable (s.Along condition p names)
  | _, [] => isTrue trivial
  | p, name :: rest =>
    have := decidableAlong (step p name) rest
    inferInstanceAs (Decidable (condition (s.find? p) ∧ Fits name ∧ _))

instance (p : Place) (names : List String) : Decidable (s.Leads condition p names) :=
  decidable_of_iff (s.Along condition p names ∧ condition (s.find? (names.foldl step p)))
    ⟨fun ⟨along, ends⟩ => ⟨along, ends⟩, fun ⟨along, ends⟩ => ⟨along, ends⟩⟩

instance (p : Place) (names : List String) : Decidable (s.Opens p names) :=
  inferInstanceAs (Decidable (s.Leads IsDirectory p names))

instance (p : Place) (names : List String) : Decidable (s.Openable p names) :=
  inferInstanceAs (Decidable (s.Leads IsFree p names))

end

@[simp]
theorem step_empty (p : Place) : step p "" = p := by
  simp [step]

theorem fits_empty : Fits "" :=
  .inl rfl

theorem Extends.refl (s : Store) : s.Extends s :=
  fun _ => .inl rfl

theorem Extends.trans {s t u : Store} (first : s.Extends t) (second : t.Extends u) :
    s.Extends u := by
  intro p
  rcases second p with same | ⟨missing, made⟩
  · rw [same]
    exact first p
  · rcases first p with same | ⟨-, there⟩
    · exact .inr ⟨by rw [← same, missing], made⟩
    · rw [there] at missing
      cases missing

theorem Extends.keeps {s t : Store} (extension : s.Extends t) {p : Place} {e : Entry}
    (found : s.find? p = some e) : t.find? p = some e := by
  rcases extension p with same | ⟨missing, -⟩
  · rw [same, found]
  · rw [found] at missing
    cases missing

theorem Extends.file_iff {s t : Store} (extension : s.Extends t) {p : Place} {content : List UInt8} :
    t.find? p = some (.file content) ↔ s.find? p = some (.file content) := by
  rcases extension p with same | ⟨missing, made⟩
  · rw [same]
  · simp [missing, made]

/-- In a tree a name that stands for a directory leads from a directory to a directory. -/
theorem IsTree.step {s : Store} (tree : s.IsTree) {p : Place} {name : String}
    (found : s.find? p = some .directory) (standing : Workspace.isStanding name) :
    s.find? (Store.step p name) = some .directory := by
  by_cases still : name = "" ∨ name = "."
  · rw [Store.step, if_pos still, found]
  · have back : name = ".." := by
      simp only [Workspace.isStanding, Bool.or_eq_true, decide_eq_true_eq] at standing
      exact standing.resolve_left still
    rw [Store.step, if_neg still, if_pos back]
    by_cases root : p = []
    · rw [root]
      rfl
    · exact tree p .directory root found

/-- In a tree a name other than two points leads to something only from a directory. -/
theorem IsTree.of_step {s : Store} (tree : s.IsTree) {p : Place} {name : String} {e : Entry}
    (notBack : name ≠ "..") (found : s.find? (Store.step p name) = some e)
    (named : ¬ Workspace.isStanding name ∨ e = .directory) :
    s.find? p = some .directory := by
  by_cases still : name = "" ∨ name = "."
  · have standing : Workspace.isStanding name := by
      rcases still with rfl | rfl <;> rfl
    rw [Store.step, if_pos still] at found
    rw [found, named.resolve_left (not_not_intro standing)]
  · rw [Store.step, if_neg still, if_neg notBack] at found
    have above := tree (p ++ [name]) e (by simp) found
    rwa [List.dropLast_concat] at above

theorem isTree_of_forall_mem {s : Store}
    (above : ∀ entry ∈ s.entries, s.find? entry.1.dropLast = some .directory) : s.IsTree := by
  intro p e notRoot found
  rw [find?, if_neg notRoot] at found
  obtain ⟨before, rest, whole, -⟩ := List.lookup_eq_some_iff.mp found
  exact above (p, e) (by simp [whole])

variable {s t : Store} {condition : Option Entry → Prop}

theorem along_append {p : Place} {front back : List String} :
    s.Along condition p (front ++ back) ↔
      s.Along condition p front ∧ s.Along condition (front.foldl step p) back := by
  induction front generalizing p with
  | nil => simp [Along]
  | cons name front ih => simp [Along, ih, and_assoc]

theorem leads_nil {p : Place} : s.Leads condition p [] ↔ condition (s.find? p) :=
  ⟨fun leads => leads.ends, fun holds => ⟨trivial, holds⟩⟩

theorem leads_cons {p : Place} {name : String} {rest : List String} :
    s.Leads condition p (name :: rest) ↔
      condition (s.find? p) ∧ Fits name ∧ s.Leads condition (step p name) rest :=
  ⟨fun ⟨⟨holds, fits, along⟩, ends⟩ => ⟨holds, fits, along, ends⟩,
    fun ⟨holds, fits, along, ends⟩ => ⟨⟨holds, fits, along⟩, ends⟩⟩

theorem leads_append_singleton {p : Place} {front : List String} {name : String} :
    s.Leads condition p (front ++ [name]) ↔ s.Leads condition p front ∧ Fits name ∧
      condition (s.find? (step (front.foldl step p) name)) := by
  constructor
  · rintro ⟨along, ends⟩
    obtain ⟨along, holds, fits, -⟩ := along_append.mp along
    rw [List.foldl_append] at ends
    exact ⟨⟨along, holds⟩, fits, ends⟩
  · rintro ⟨⟨along, holds⟩, fits, ends⟩
    refine ⟨along_append.mpr ⟨along, holds, fits, trivial⟩, ?_⟩
    rw [List.foldl_append]
    exact ends

theorem Leads.start {p : Place} {names : List String} (leads : s.Leads condition p names) :
    condition (s.find? p) := by
  cases names with
  | nil => exact leads_nil.mp leads
  | cons name rest => exact leads.along.1

theorem leads_filter {p : Place} {names : List String} :
    s.Leads condition p (names.filter (· ≠ "")) ↔ s.Leads condition p names := by
  induction names generalizing p with
  | nil => rfl
  | cons name names ih =>
    by_cases empty : name = ""
    · subst empty
      rw [List.filter_cons_of_neg (by simp), ih, leads_cons, step_empty]
      exact ⟨fun leads => ⟨leads.start, fits_empty, leads⟩, fun leads => leads.2.2⟩
    · rw [List.filter_cons_of_pos (by simpa using empty), leads_cons, leads_cons, ih]

theorem Along.fits {p : Place} {names : List String} (along : s.Along condition p names) :
    ∀ name ∈ names, Fits name := by
  induction names generalizing p with
  | nil => nofun
  | cons name rest ih =>
    intro n hn
    rcases List.mem_cons.mp hn with rfl | hn
    · exact along.2.1
    · exact ih along.2.2 n hn

theorem Along.mono {other : Option Entry → Prop} {p : Place} {names : List String}
    (weaker : ∀ q, condition (s.find? q) → other (t.find? q))
    (along : s.Along condition p names) : t.Along other p names := by
  induction names generalizing p with
  | nil => trivial
  | cons name names ih => exact ⟨weaker p along.1, along.2.1, ih along.2.2⟩

/-- A way stays open when the store grows. -/
theorem Opens.extends (extension : s.Extends t) {p : Place} {names : List String}
    (opens : s.Opens p names) : t.Opens p names :=
  ⟨opens.along.mono fun _ found => extension.keeps found, extension.keeps opens.ends⟩

/-- Where a larger store has a directory, the smaller one has no file. -/
theorem Extends.isFree (extension : s.Extends t) {p : Place} (found : IsDirectory (t.find? p)) :
    IsFree (s.find? p) := by
  intro content file
  have kept := extension.keeps file
  rw [found] at kept
  cases kept

/-- Nothing on a way that is open in a larger store is a file in the smaller one. -/
theorem Opens.openable_of_extends (extension : s.Extends t) {p : Place} {names : List String}
    (opens : t.Opens p names) : s.Openable p names :=
  ⟨opens.along.mono fun _ => extension.isFree, extension.isFree opens.ends⟩

/-- In a tree a way without two points is open if it ends in a directory. -/
theorem IsTree.opens_of_ends (tree : s.IsTree) {p : Place} {names : List String}
    (fits : ∀ name ∈ names, Fits name) (forward : ".." ∉ names)
    (ends : s.find? (names.foldl Store.step p) = some .directory) : s.Opens p names := by
  induction names using List.reverseRecOn with
  | nil => exact leads_nil.mpr ends
  | append_singleton front name ih =>
    have notBack : name ≠ ".." := by
      rintro rfl
      exact forward (by simp)
    rw [List.foldl_append] at ends
    have before : s.find? (front.foldl Store.step p) = some .directory :=
      tree.of_step notBack ends (.inr rfl)
    have opens := ih (fun n hn => fits n (by simp [hn])) (fun back => forward (by simp [back])) before
    exact leads_append_singleton.mpr ⟨opens, fits name (by simp), ends⟩

theorem enter_of_directory {p : Place} {name : String} (found : s.find? p = some .directory) :
    s.enter p name =
      if name = "" ∨ name = "." then .ok p else if name = ".." then .ok p.dropLast
      else if name.utf8ByteSize > nameLimit then .error .nameTooLong else .ok (p ++ [name]) := by
  simp only [enter, directory, found]
  rfl

theorem enter_eq_ok_iff {p q : Place} {name : String} :
    s.enter p name = .ok q ↔ s.find? p = some .directory ∧ Fits name ∧ q = step p name := by
  by_cases found : s.find? p = some .directory
  · rw [enter_of_directory found]
    by_cases still : name = "" ∨ name = "."
    · have fits : Fits name := still.elim .inl fun point => .inr (.inl point)
      simp [step, still, found, fits, eq_comm]
    · by_cases back : name = ".."
      · have fits : Fits name := .inr (.inr (.inl back))
        simp only [step, if_neg still, if_pos back, found, fits, Except.ok.injEq, true_and]
        exact eq_comm
      · have fits : Fits name ↔ name.utf8ByteSize ≤ nameLimit := by
          simp only [not_or] at still
          simp [Fits, still, back]
        simp only [step, if_neg still, if_neg back, found, fits, true_and, ← Nat.not_lt]
        split
        next long => simp [long]
        next short => simp [short, eq_comm]
  · have stuck : ∀ q, s.enter p name ≠ .ok q := by
      intro q entered
      unfold enter directory at entered
      split at entered
      next => cases entered
      next => cases entered
      next there => exact found there
    simp [found, stuck]

theorem walk_cons {p : Place} {name : String} {rest : List String} :
    s.walk p (name :: rest) = s.enter p name >>= fun q => s.walk q rest := rfl

/-- A walk succeeds along directories, and leads where the names lead. -/
theorem walk_eq_ok_iff {p q : Place} {names : List String} :
    s.walk p names = .ok q ↔ s.Along IsDirectory p names ∧ q = names.foldl step p := by
  induction names generalizing p with
  | nil => simp [walk, Along, eq_comm, pure, Except.pure]
  | cons name rest ih =>
    rw [walk_cons, bind_eq_ok_iff]
    constructor
    · rintro ⟨r, entered, walked⟩
      obtain ⟨there, fits, rfl⟩ := enter_eq_ok_iff.mp entered
      obtain ⟨along, rfl⟩ := ih.mp walked
      exact ⟨⟨there, fits, along⟩, rfl⟩
    · rintro ⟨⟨there, fits, along⟩, rfl⟩
      exact ⟨_, enter_eq_ok_iff.mpr ⟨there, fits, rfl⟩, ih.mpr ⟨along, rfl⟩⟩

/-- Making a directory in a directory keeps everything, and keeps a tree. -/
theorem makeDirectory_eq_ok {p : Place} {name : String} (named : ¬ Workspace.isStanding name)
    (parent : s.find? p = some .directory) (missing : s.find? (step p name) = none) :
    ∃ t, s.makeDirectory (step p name) = .ok t ∧ s.Extends t ∧ (s.IsTree → t.IsTree) ∧
      t.find? (step p name) = some .directory := by
  have place : step p name = p ++ [name] := by
    simp only [Workspace.isStanding, Bool.or_eq_true, decide_eq_true_eq, not_or] at named
    simp [step, named]
  rw [place] at missing ⊢
  have nonempty : p ++ [name] ≠ [] := by simp
  have found := fun q => find?_put (s := s) nonempty q .directory
  have grows : s.Extends (s.put (p ++ [name]) .directory) := by
    intro q
    rw [found]
    split
    next same => exact .inr ⟨same ▸ missing, rfl⟩
    next => exact .inl rfl
  refine ⟨_, by simp [makeDirectory, missing], grows, ?_, by simp [found]⟩
  intro tree q e notRoot there
  rw [found] at there
  split at there
  next same =>
    subst same
    rw [List.dropLast_concat]
    exact grows.keeps parent
  next => exact grows.keeps (tree q e notRoot there)

end Store

end EnvDoctor
