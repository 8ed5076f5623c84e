import EnvDoctor.Proofs.Files.Normal

/-!
# Paths in normal form

A path whose names all count is written in one way, and reading what was written gives the path
back. All paths that are read are such paths; some of them start at the root.
-/

namespace EnvDoctor.Path

/-- Each name of the path is one that counts. -/
structure IsNormal (p : Path) : Prop where
  root : p.root = "" ∨ p.root = "/" ∨ p.root = "//"
  names : ∀ name ∈ p.names, counts name.toList = true ∧ '/' ∉ name.toList

structure IsAbsolute (p : Path) : Prop extends p.IsNormal where
  anchored : p.root ≠ ""

theorem isNormal_ofText (s : String) : (ofText s).IsNormal where
  root := by
    rcases rootOf_cases s.toList with ⟨root, -⟩ | ⟨_, -, root⟩ | ⟨_, -, root⟩
    · exact .inl (String.toList_injective root)
    · exact .inr (.inl (String.toList_injective root))
    · exact .inr (.inr (String.toList_injective root))
  names := by
    intro name among
    rw [names_ofText] at among
    obtain ⟨field, kept, rfl⟩ := List.mem_map.mp among
    rw [String.toList_ofList]
    exact ⟨(List.mem_filter.mp kept).2, slash_notMem_keptFields field kept⟩

theorem isAbsolute_ofText {s : String} (absolute : s.toList.head? = some '/') :
    (ofText s).IsAbsolute where
  toIsNormal := isNormal_ofText s
  anchored := by
    intro none
    have root : (rootOf s.toList).toList = [] := congrArg String.toList none
    rcases rootOf_cases s.toList with ⟨-, relative⟩ | ⟨_, -, slash⟩ | ⟨_, -, slashes⟩
    · exact relative absolute
    · rw [root] at slash
      cases slash
    · rw [root] at slashes
      cases slashes

theorem IsAbsolute.child {p : Path} (absolute : p.IsAbsolute) {name : String}
    (counted : counts name.toList = true) (whole : '/' ∉ name.toList) :
    (p.child name).IsAbsolute where
  root := absolute.root
  names := by
    intro other among
    rcases List.mem_append.mp among with among | last
    · exact absolute.names other among
    · rw [List.mem_singleton.mp last]
      exact ⟨counted, whole⟩
  anchored := absolute.anchored

section Writing

variable {fields : List (List Char)}
  (counted : ∀ field ∈ fields, counts field = true) (whole : ∀ field ∈ fields, '/' ∉ field)

include counted whole

theorem head?_joinWith_ne_slash : (Text.joinWith ['/'] fields).head? ≠ some '/' := by
  cases fields with
  | nil => nofun
  | cons first more =>
    have nonempty := counted first List.mem_cons_self
    have noSlash := whole first List.mem_cons_self
    cases first with
    | nil => cases nonempty
    | cons c first =>
      have head : (Text.joinWith ['/'] ((c :: first) :: more)).head? = some c := by
        cases more <;> rfl
      rw [head, Ne, Option.some_inj]
      rintro rfl
      exact noSlash List.mem_cons_self

theorem keptFields_joinWith : keptFields (Text.joinWith ['/'] fields) = fields := by
  by_cases empty : fields = []
  · subst empty
    rfl
  · rw [keptFields, Text.splitOn_joinWith empty whole, List.filter_eq_self]
    exact counted

end Writing

/-- The written form of a path with names. -/
theorem toList_toText_of_named {p : Path} (normal : p.IsNormal) (named : p.names ≠ []) :
    p.toText.toList = p.root.toList ++ Text.joinWith ['/'] (p.names.map String.toList) := by
  obtain ⟨root, names⟩ := p
  have spelled : (root ++ "/".intercalate names).toList =
      root.toList ++ Text.joinWith ['/'] (names.map String.toList) := by
    rw [String.toList_append, String.toList_intercalate, ← Text.joinWith_eq_intercalate]
    rfl
  unfold toText
  dsimp only
  rw [if_neg, spelled]
  rw [String.isEmpty_iff, ← String.toList_eq_nil_iff, spelled]
  obtain ⟨first, more, rfl⟩ := List.exists_cons_of_ne_nil named
  obtain ⟨c, rest, letters⟩ : ∃ c rest, first.toList = c :: rest := by
    apply List.exists_cons_of_ne_nil
    intro empty
    have counted := (normal.names first List.mem_cons_self).1
    rw [empty] at counted
    cases counted
  cases more <;> simp [Text.joinWith, letters]

theorem IsNormal.ofText_toText {p : Path} (normal : p.IsNormal) : ofText p.toText = p := by
  by_cases named : p.names = []
  · obtain ⟨root, names⟩ := p
    obtain rfl : names = [] := named
    rcases normal.root with rfl | rfl | rfl <;> decide
  · have written := toList_toText_of_named normal named
    have counted : ∀ field ∈ p.names.map String.toList, counts field = true :=
      List.forall_mem_map.mpr fun name among => (normal.names name among).1
    have whole : ∀ field ∈ p.names.map String.toList, '/' ∉ field :=
      List.forall_mem_map.mpr fun name among => (normal.names name among).2
    have relative := head?_joinWith_ne_slash counted whole
    have kept := keptFields_joinWith counted whole
    have fields : keptFields p.toText.toList = p.names.map String.toList := by
      rw [written]
      rcases normal.root with root | root | root <;> rw [root]
      · exact kept
      · exact (keptFields_cons_slash _).trans kept
      · exact (keptFields_cons_slash _).trans ((keptFields_cons_slash _).trans kept)
    have start : rootOf p.toText.toList = p.root := by
      rw [written, rootOf]
      generalize Text.joinWith ['/'] (p.names.map String.toList) = rest at relative
      have stops : rest.takeWhile (· == '/') = [] := by
        cases rest with
        | nil => rfl
        | cons c rest => simpa using relative
      rcases normal.root with root | root | root <;> simp [root, stops]
    have same : (ofText p.toText).names = p.names := by
      rw [names_ofText, fields, List.map_map]
      simp [Function.comp_def]
    exact congrArg₂ Path.mk start same

theorem IsAbsolute.head?_toText {p : Path} (absolute : p.IsAbsolute) :
    p.toText.toList.head? = some '/' := by
  have root : (ofText p.toText).root.toList = p.root.toList := by
    rw [absolute.ofText_toText]
  change (rootOf p.toText.toList).toList = _ at root
  rcases rootOf_cases p.toText.toList with ⟨relative, -⟩ | ⟨_, same, -⟩ | ⟨_, same, -⟩
  · rw [relative] at root
    exact absurd (String.toList_injective root.symm) absolute.anchored
  · simp [same]
  · simp [same]

/-- A path with more than its last name has a slash. -/
theorem slash_mem_toText {p : Path} (normal : p.IsNormal) {name : String} (last : name ∈ p.names)
    (more : p ≠ ⟨"", [name]⟩) : '/' ∈ p.toText.toList := by
  rw [toList_toText_of_named normal (List.ne_nil_of_mem last)]
  obtain ⟨root, names⟩ := p
  cases names with
  | nil => cases last
  | cons first rest =>
    cases rest with
    | nil =>
      obtain rfl : name = first := List.mem_singleton.mp last
      rcases normal.root with rfl | rfl | rfl
      · exact absurd rfl more
      · simp
      · simp
    | cons second rest => simp [Text.joinWith]

end EnvDoctor.Path
