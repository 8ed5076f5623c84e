import EnvDoctor.Proofs.Files.Making
import Mathlib.Data.String.Basic

/-!
# Normal forms of paths

The normal form of a path leaves out the names that do not count and all slashes that only separate
them. So it is no longer than the path and starts where the path starts, and whatever the path leads
to is found under the normal form as well.
-/

namespace EnvDoctor

namespace Path

def counts (name : List Char) : Bool :=
  !name.isEmpty && name != ['.']

/-- The names of a path that count. -/
def keptFields (s : List Char) : List (List Char) :=
  (Text.splitOn '/' s).filter counts

/-- The normal form of a path in which a name counts. -/
def normal (s : List Char) : List Char :=
  (rootOf s).toList ++ Text.joinWith ['/'] (keptFields s)

theorem counts_iff {name : String} : counts name.toList = true ↔ name ≠ "" ∧ name ≠ "." := by
  have point : name.toList = ['.'] ↔ name = "." :=
    ⟨fun same => String.toList_injective same, fun same => same ▸ rfl⟩
  simp [counts, point]

theorem names_ofText_eq_filter (path : String) :
    (ofText path).names = (pathNames path).filter fun name => counts name.toList := by
  refine List.filter_congr fun name _ => ?_
  rw [Bool.eq_iff_iff, counts_iff]
  simp

theorem names_ofText (path : String) :
    (ofText path).names = (keptFields path.toList).map String.ofList := by
  rw [names_ofText_eq_filter, pathNames, keptFields, List.filter_map]
  simp only [Function.comp_def, String.toList_ofList]

theorem keptFields_cons_slash (s : List Char) : keptFields ('/' :: s) = keptFields s := by
  rw [keptFields, Text.splitOn_cons_self]
  rfl

theorem rootOf_cases (s : List Char) : (rootOf s).toList = [] ∧ s.head? ≠ some '/' ∨
    (∃ t, s = '/' :: t ∧ (rootOf s).toList = ['/']) ∨
      ∃ t, s = '/' :: '/' :: t ∧ (rootOf s).toList = ['/', '/'] := by
  unfold rootOf
  cases s with
  | nil => exact .inl ⟨rfl, nofun⟩
  | cons c s =>
    by_cases first : c = '/'
    · subst first
      right
      cases s with
      | nil => exact .inl ⟨[], rfl, rfl⟩
      | cons d t =>
        by_cases second : d = '/'
        · subst second
          cases t with
          | nil => exact .inr ⟨[], rfl, rfl⟩
          | cons e t =>
            by_cases third : e = '/'
            · exact .inl ⟨_, rfl, by simp [third]⟩
            · exact .inr ⟨_, rfl, by simp [third]⟩
        · exact .inl ⟨_, rfl, by simp [second]⟩
    · exact .inl ⟨by simp [first], by simpa using first⟩

/-- The normal form comes from the path by leaving out characters. -/
theorem normal_sublist (s : List Char) : (normal s).Sublist s := by
  have kept (s : List Char) : (Text.joinWith ['/'] (keptFields s)).Sublist s := by
    have shorter := Text.joinWith_filter_sublist '/' counts (Text.splitOn '/' s)
    rwa [Text.joinWith_splitOn] at shorter
  unfold normal
  rcases rootOf_cases s with ⟨root, -⟩ | ⟨t, rfl, root⟩ | ⟨t, rfl, root⟩
  · rw [root]
    exact kept s
  · rw [root, keptFields_cons_slash]
    exact (kept t).cons_cons '/'
  · rw [root, keptFields_cons_slash, keptFields_cons_slash]
    exact ((kept t).cons_cons '/').cons_cons '/'

theorem slash_notMem_keptFields {s : List Char} : ∀ name ∈ keptFields s, '/' ∉ name :=
  fun _ among => Text.notMem_of_mem_splitOn (List.mem_filter.mp among).1

/-- The normal form has the names that count, after empty ones for the slashes of the root. -/
theorem splitOn_normal {s : List Char} (named : keptFields s ≠ []) :
    ∃ slashes, (∀ name ∈ slashes, name = []) ∧
      Text.splitOn '/' (normal s) = slashes ++ keptFields s := by
  have joined := Text.splitOn_joinWith named slash_notMem_keptFields
  unfold normal
  rcases rootOf_cases s with ⟨root, -⟩ | ⟨_, -, root⟩ | ⟨_, -, root⟩
  · rw [root]
    exact ⟨[], by simp, joined⟩
  · refine ⟨[[]], by simp, ?_⟩
    rw [root, List.singleton_append, Text.splitOn_cons_self, joined]
    rfl
  · refine ⟨[[], []], by simp, ?_⟩
    rw [root, List.cons_append, List.singleton_append, Text.splitOn_cons_self,
      Text.splitOn_cons_self, joined]
    rfl

theorem exists_head?_joinWith_keptFields {s : List Char} (named : keptFields s ≠ []) :
    ∃ c, (Text.joinWith ['/'] (keptFields s)).head? = some c ∧ c ≠ '/' := by
  obtain ⟨first, more, kept⟩ := List.exists_cons_of_ne_nil named
  have among : first ∈ keptFields s := kept ▸ List.mem_cons_self
  have whole := slash_notMem_keptFields first among
  have counted : counts first = true := (List.mem_filter.mp among).2
  rw [kept]
  cases first with
  | nil => cases counted
  | cons c first =>
    refine ⟨c, by cases more <;> rfl, ?_⟩
    rintro rfl
    exact whole List.mem_cons_self

theorem head?_normal {s : List Char} (named : keptFields s ≠ []) :
    (normal s).head? = some '/' ↔ s.head? = some '/' := by
  unfold normal
  rcases rootOf_cases s with ⟨root, relative⟩ | ⟨_, rfl, root⟩ | ⟨_, rfl, root⟩
  · refine iff_of_false ?_ relative
    obtain ⟨c, first, other⟩ := exists_head?_joinWith_keptFields named
    rw [root, List.nil_append, first, Option.some_inj]
    exact other
  · simp [root]
  · simp [root]

theorem toList_toText {path : String} (named : keptFields path.toList ≠ []) :
    (ofText path).toText.toList = normal path.toList := by
  have spelled : ((ofText path).root ++ "/".intercalate (ofText path).names).toList =
      normal path.toList := by
    rw [String.toList_append, String.toList_intercalate, names_ofText, List.map_map,
      ← Text.joinWith_eq_intercalate]
    simp [normal, ofText, Function.comp_def]
  have nonempty : normal path.toList ≠ [] := by
    obtain ⟨c, first, -⟩ := exists_head?_joinWith_keptFields named
    intro empty
    rw [(List.append_eq_nil_iff.mp empty).2] at first
    cases first
  unfold toText
  dsimp only
  rw [if_neg, spelled]
  rw [String.isEmpty_iff, ← String.toList_eq_nil_iff, spelled]
  exact nonempty

end Path

namespace Store

variable {s : Store} {condition : Option Entry → Prop}

theorem Along.start {p : Place} {names : List String} (along : s.Along condition p names)
    (nonempty : names ≠ []) : condition (s.find? p) := by
  cases names with
  | nil => exact absurd rfl nonempty
  | cons name rest => exact along.1

theorem step_of_not_counts {name : String} (still : Path.counts name.toList = false) (p : Place) :
    step p name = p := by
  rw [step, if_pos]
  rw [← Bool.not_eq_true, Path.counts_iff, not_and_or, not_not, not_not] at still
  exact still

/-- Names that do not count lead nowhere, so that they can be left out. -/
theorem along_filter_counts {p : Place} {names : List String} (along : s.Along condition p names) :
    s.Along condition p (names.filter fun name => Path.counts name.toList) := by
  induction names generalizing p with
  | nil => trivial
  | cons name rest ih =>
    obtain ⟨there, fits, along⟩ := along
    cases counted : Path.counts name.toList with
    | true =>
      rw [List.filter_cons, if_pos counted]
      exact ⟨there, fits, ih along⟩
    | false =>
      rw [List.filter_cons, if_neg (by simp [counted])]
      rw [step_of_not_counts counted] at along
      exact ih along

theorem foldl_step_filter_counts (p : Place) (names : List String) :
    (names.filter fun name => Path.counts name.toList).foldl step p = names.foldl step p := by
  induction names generalizing p with
  | nil => rfl
  | cons name rest ih =>
    cases counted : Path.counts name.toList with
    | true => rw [List.filter_cons, if_pos counted, List.foldl_cons, List.foldl_cons, ih]
    | false =>
      rw [List.filter_cons, if_neg (by simp [counted]), List.foldl_cons,
        step_of_not_counts counted, ih]

/-- Empty names in front of a way lead nowhere either. -/
theorem along_append_of_forall_empty {p : Place} {slashes names : List String}
    (empty : ∀ name ∈ slashes, name = "") (start : condition (s.find? p))
    (along : s.Along condition p names) : s.Along condition p (slashes ++ names) := by
  induction slashes with
  | nil => exact along
  | cons slash rest ih =>
    obtain rfl := empty slash List.mem_cons_self
    refine ⟨start, fits_empty, ?_⟩
    rw [step_empty]
    exact ih fun name among => empty name (List.mem_cons_of_mem _ among)

theorem foldl_step_of_forall_empty {p : Place} {slashes : List String}
    (empty : ∀ name ∈ slashes, name = "") : slashes.foldl step p = p := by
  induction slashes with
  | nil => rfl
  | cons slash rest ih =>
    rw [List.foldl_cons, empty slash List.mem_cons_self, step_empty]
    exact ih fun name among => empty name (List.mem_cons_of_mem _ among)

end Store

namespace Workspace

variable {w : Workspace} {path : String}

theorem pathNames_toText (named : Path.keptFields path.toList ≠ []) :
    ∃ slashes, (∀ name ∈ slashes, name = "") ∧ pathNames (Path.ofText path).toText =
      slashes ++ (pathNames path).filter fun name => Path.counts name.toList := by
  obtain ⟨slashes, empty, pieces⟩ := Path.splitOn_normal named
  refine ⟨slashes.map String.ofList, ?_, ?_⟩
  · intro name among
    obtain ⟨piece, inside, rfl⟩ := List.mem_map.mp among
    rw [empty piece inside]
  · rw [pathNames, Path.toList_toText named, pieces, List.map_append, pathNames, List.filter_map,
      Path.keptFields]
    simp only [Function.comp_def, String.toList_ofList]

theorem startOf_toText (named : Path.keptFields path.toList ≠ []) :
    w.startOf (Path.ofText path).toText = w.startOf path := by
  have same : (Path.ofText path).toText.startsWith "/" = path.startsWith "/" := by
    rw [Bool.eq_iff_iff, startsWith_slash_iff, startsWith_slash_iff, Path.toList_toText named,
      Path.head?_normal named]
  rw [startOf, startOf, same]

theorem checkPath_toText (named : Path.keptFields path.toList ≠ [])
    (checked : checkPath path = .ok ()) : checkPath (Path.ofText path).toText = .ok () := by
  obtain ⟨clean, -, short⟩ := checkPath_eq_ok_iff.mp checked
  have spelled := Path.toList_toText named
  have shorter := Path.normal_sublist path.toList
  rw [← spelled] at shorter
  refine checkPath_eq_ok_iff.mpr ⟨fun null => clean (shorter.subset null), ?_, ?_⟩
  · intro empty
    obtain ⟨c, first, -⟩ := Path.exists_head?_joinWith_keptFields named
    rw [empty] at spelled
    rw [(List.append_eq_nil_iff.mp spelled.symm).2] at first
    cases first
  · have size := String.utf8Len_le_of_sublist shorter
    rw [← String.utf8ByteSize_ofList, ← String.utf8ByteSize_ofList, String.ofList_toList,
      String.ofList_toList] at size
    exact size.trans short

/-- A place that a path leads to is where its normal form leads to. -/
theorem place_toText {p : Place} (named : Path.keptFields path.toList ≠ [])
    (placed : w.place path = .ok p) : w.place (Path.ofText path).toText = .ok p := by
  obtain ⟨checked, along, rfl⟩ := place_eq_ok_iff.mp placed
  obtain ⟨slashes, empty, names⟩ := pathNames_toText named
  refine place_eq_ok_iff.mpr ⟨checkPath_toText named checked, ?_, ?_⟩
  · rw [startOf_toText named, names]
    have start := along.start (by rw [pathNames_eq]; simp)
    exact Store.along_append_of_forall_empty empty start (Store.along_filter_counts along)
  · rw [landing, landing, startOf_toText named, names, List.foldl_append,
      Store.foldl_step_of_forall_empty empty, Store.foldl_step_filter_counts]

/-- What a path leads to is found under its normal form. -/
theorem entry_toText {e : Entry} (named : Path.keptFields path.toList ≠ [])
    (there : w.entry path = .ok e) : w.entry (Path.ofText path).toText = .ok e := by
  obtain ⟨p, placed, found⟩ := bind_eq_ok_iff.mp there
  exact bind_eq_ok_iff.mpr ⟨p, place_toText named placed, found⟩

theorem keptFields_ne_nil_of_named (named : ¬ isStanding (lastName path)) :
    Path.keptFields path.toList ≠ [] := by
  intro none
  have among : lastName path ∈ (Path.ofText path).names := by
    rw [Path.ofText]
    refine List.mem_filter.mpr ⟨?_, ?_⟩
    · rw [pathNames_eq]
      simp
    · simp only [isStanding, Bool.or_eq_true, decide_eq_true_eq, not_or] at named
      simp [named]
  rw [Path.names_ofText, none] at among
  cases among

theorem read_eq_ok_iff {content : List UInt8} :
    w.read path = .ok content ↔ w.entry path = .ok (.file content) := by
  unfold read entry
  simp only [bind_eq_ok_iff]
  refine exists_congr fun p => and_congr_right fun _ => ?_
  unfold Store.read
  cases w.store.find? p with
  | none => simp
  | some e => cases e <;> simp [pure, Except.pure]

end Workspace

end EnvDoctor
