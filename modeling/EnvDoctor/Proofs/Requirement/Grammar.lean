import EnvDoctor.Proofs.Requirement.Split
import EnvDoctor.Proofs.Text.Pieces
import EnvDoctor.Requirement.Parser

/-!
# The grammar of requirement texts

A fragment states an operator and a version text: the operator is the longest one that the fragment
begins with, and the version text is what stands behind it, on one line. A requirement text is read
as what its fragments state, in order, unless one of them is `>=` or `<=` and nothing more: such a
fragment states nothing and is read as a shorter operator with an equals sign behind it.
-/

namespace EnvDoctor

theorem Text.trim_eq_trimLeft {s : List Char} (last : ∀ c ∈ s.getLast?, isBlank c = false) :
    trim s = trimLeft s := by
  have stops : ∀ c ∈ (trimLeft s).reverse.head?, isBlank c = false := by
    intro c hc
    rw [List.head?_reverse] at hc
    obtain ⟨front, whole⟩ := List.dropWhile_suffix (l := s) isBlank
    apply last c
    rw [← whole, List.getLast?_append, ← trimLeft, hc]
    rfl
  have kept := (Text.takeWhile_append_of_stops (s := []) (by simp) stops).2
  rw [List.nil_append] at kept
  rw [trim, trimRight, kept, List.reverse_reverse]

theorem Text.mem_of_mem_trim {s : List Char} {c : Char} (among : c ∈ trim s) : c ∈ s := by
  obtain ⟨before, after, -, -, whole⟩ := exists_blanks_trim s
  rw [whole, List.mem_append, List.mem_append]
  exact .inl (.inr among)

namespace Operator

/-- The longest operator that a text begins with. -/
structure IsLongest (op : Operator) (s : List Char) : Prop where
  begins : op.symbol.toList <+: s
  longest : ∀ other : Operator, other.symbol.toList <+: s → other.symbol.length ≤ op.symbol.length

/-- The operator that is left of one without the equals sign at its end. -/
def shorter? : Operator → Option Operator
  | atLeast => some above
  | atMost => some below
  | _ => none

variable {op : Operator} {s rest : List Char}

/-- An operator is the longest one unless an equals sign follows that makes it a longer one. -/
theorem isLongest_iff : op.IsLongest (op.symbol.toList ++ rest) ↔
    (op = above ∨ op = below → rest.head? ≠ some '=') := by
  constructor
  · rintro ⟨-, longest⟩ short equals
    obtain ⟨more, rfl⟩ := List.head?_eq_some_iff.mp equals
    rcases short with rfl | rfl
    · exact absurd (longest atLeast (List.prefix_append ['>', '='] more)) (by decide)
    · exact absurd (longest atMost (List.prefix_append ['<', '='] more)) (by decide)
  · intro stops
    refine ⟨List.prefix_append _ _, ?_⟩
    rintro other ⟨tail, same⟩
    cases op with
    | above | below =>
      have next := stops (by simp)
      cases other <;> simp [symbol] at same ⊢
      simp [← same] at next
    | atLeast | atMost => cases other <;> decide
    | equal | caret | tilde => cases other <;> simp [symbol] at same ⊢

/-- A text that begins with an operator begins with a longest one. -/
theorem exists_isLongest (begins : op.symbol.toList <+: s) :
    ∃ longest : Operator, longest.IsLongest s := by
  obtain ⟨rest, rfl⟩ := begins
  by_cases stops : op = above ∨ op = below → rest.head? ≠ some '='
  · exact ⟨op, isLongest_iff.mpr stops⟩
  · push Not at stops
    obtain ⟨short, equals⟩ := stops
    obtain ⟨more, rfl⟩ := List.head?_eq_some_iff.mp equals
    rcases short with rfl | rfl
    · refine ⟨atLeast, ?_⟩
      change atLeast.IsLongest (atLeast.symbol.toList ++ more)
      exact isLongest_iff.mpr (by simp)
    · refine ⟨atMost, ?_⟩
      change atMost.IsLongest (atMost.symbol.toList ++ more)
      exact isLongest_iff.mpr (by simp)

end Operator

namespace Constraint

/-- A fragment states an operator, the longest one that it begins with, and a version text, which is
all that follows: not nothing, and on one line. -/
structure States (fragment : List Char) (op : Operator) (version : List Char) : Prop where
  longest : op.IsLongest (Text.trim fragment)
  follows : ∃ rest, Text.trim fragment = op.symbol.toList ++ rest ∧ version = Text.trim rest
  nonempty : version ≠ []
  oneLine : '\n' ∉ version

/-- What fragments state, in order. -/
inductive StatedInOrder : List (List Char) → List (Operator × String) → Prop where
  | nil : StatedInOrder [] []
  | states {fragment version : List Char} {op : Operator} {fragments : List (List Char)}
      {cs : List (Operator × String)} (first : States fragment op version)
      (rest : StatedInOrder fragments cs) :
      StatedInOrder (fragment :: fragments) ((op, String.ofList version) :: cs)
  | silent {fragment : List Char} {fragments : List (List Char)} {cs : List (Operator × String)}
      (first : ∀ op version, ¬ States fragment op version) (rest : StatedInOrder fragments cs) :
      StatedInOrder (fragment :: fragments) cs

/-- A fragment is an operator of two signs and nothing more. -/
def Dangles (fragment : List Char) : Prop :=
  Text.trim fragment = Operator.atLeast.symbol.toList ∨
    Text.trim fragment = Operator.atMost.symbol.toList

instance (fragment : List Char) : Decidable (Dangles fragment) :=
  inferInstanceAs (Decidable (_ ∨ _))

def behind? (op : Operator) (rest : List Char) : Option Constraint :=
  (versionText? rest).map fun version => ofPair (op, String.ofList version)

theorem versionText?_eq_some_iff {s version : List Char} :
    versionText? s = some version ↔
      version = Text.trimLeft s ∧ version ≠ [] ∧ '\n' ∉ version := by
  unfold versionText?
  by_cases empty : Text.trimLeft s = []
  · simp +contextual [empty]
  · by_cases feed : '\n' ∈ Text.trimLeft s
    · simp +contextual [empty, feed]
    · simp [empty, feed]
      constructor
      · rintro rfl
        exact ⟨rfl, empty, feed⟩
      · rintro ⟨rfl, -⟩
        rfl

variable {fragment : List Char} {op : Operator} {rest : List Char}

theorem ofFragment?_eq_none
    (unmarked : ∀ op : Operator, ¬ op.symbol.toList <+: Text.trim fragment) :
    ofFragment? fragment = none := by
  rw [ofFragment?, List.findSome?_eq_none_iff]
  intro op _
  cases cut : op.symbol.toList.isPrefixOf? (Text.trim fragment) with
  | none => simp [withOperator?, cut]
  | some rest =>
    exact absurd ⟨rest, List.append_eq_of_isPrefixOf?_eq_some cut⟩ (unmarked op)

theorem withOperator?_eq (s : List Char) (op : Operator) :
    withOperator? s op = (op.symbol.toList.isPrefixOf? s).bind (behind? op) := by
  cases cut : op.symbol.toList.isPrefixOf? s with
  | none => simp [withOperator?, cut]
  | some rest => cases read : versionText? rest <;> simp [withOperator?, behind?, ofPair, cut, read]

theorem findSome?_withOperator?_cons (s : List Char) (op : Operator) (ops : List Operator) :
    (op :: ops).findSome? (withOperator? s) =
      ((op.symbol.toList.isPrefixOf? s).bind (behind? op)).or
        (ops.findSome? (withOperator? s)) := by
  rw [List.findSome?_cons, withOperator?_eq]
  cases (op.symbol.toList.isPrefixOf? s).bind (behind? op) <;> rfl

/-- A fragment is read with the longest operator that it begins with. If that leaves no version
text, the operator without its equals sign is tried. -/
theorem ofFragment?_of_isLongest (whole : Text.trim fragment = op.symbol.toList ++ rest)
    (longest : op.IsLongest (Text.trim fragment)) :
    ofFragment? fragment =
      (behind? op rest).or (op.shorter?.bind fun short => behind? short ('=' :: rest)) := by
  rw [whole, Operator.isLongest_iff] at longest
  rw [ofFragment?, whole]
  cases op with
  | above | below =>
    have next : ['='].isPrefixOf? rest = none := by
      cases rest with
      | nil => rfl
      | cons c tail =>
        have differs : '=' ≠ c := by
          rintro rfl
          exact longest (by simp) rfl
        simp [List.isPrefixOf?, differs]
    simp [Operator.longestFirst, findSome?_withOperator?_cons, withOperator?_eq, Operator.symbol,
      List.isPrefixOf?, Operator.shorter?, next]
  | _ =>
    simp [Operator.longestFirst, findSome?_withOperator?_cons, withOperator?_eq, Operator.symbol,
      List.isPrefixOf?, Operator.shorter?]

theorem versionText?_cons_equals {tail version : List Char} :
    versionText? ('=' :: tail) = some version ↔ version = '=' :: tail ∧ '\n' ∉ tail := by
  have visible : Text.trimLeft ('=' :: tail) = '=' :: tail :=
    Text.trimLeft_cons_of_not_blank (by decide) tail
  rw [versionText?_eq_some_iff, visible]
  constructor
  · rintro ⟨rfl, -, oneLine⟩
    exact ⟨rfl, fun feed => oneLine (List.mem_cons_of_mem _ feed)⟩
  · rintro ⟨rfl, oneLine⟩
    exact ⟨rfl, by simp, by simpa using oneLine⟩

section Behind

variable (whole : Text.trim fragment = op.symbol.toList ++ rest)

include whole

/-- What stands behind an operator of a trimmed fragment does not end in a blank. -/
theorem not_blank_of_getLast?_behind : ∀ c ∈ rest.getLast?, Text.isBlank c = false := by
  intro c last
  apply Text.not_blank_of_getLast?_trim (s := fragment)
  rw [whole, List.getLast?_append, last]
  rfl

theorem versionText?_behind {version : List Char} : versionText? rest = some version ↔
    version = Text.trim rest ∧ version ≠ [] ∧ '\n' ∉ version := by
  rw [versionText?_eq_some_iff, Text.trim_eq_trimLeft (not_blank_of_getLast?_behind whole)]

/-- Blanks alone do not stand behind an operator. -/
theorem eq_nil_of_trim_behind (blank : Text.trim rest = []) : rest = [] := by
  have last := not_blank_of_getLast?_behind whole
  rw [Text.trim_eq_trimLeft last, Text.trimLeft, List.dropWhile_eq_nil_iff] at blank
  cases ends : rest.getLast? with
  | none => exact List.getLast?_eq_none_iff.mp ends
  | some c =>
    have visible := last c ends
    rw [blank c (List.mem_of_getLast? ends)] at visible
    cases visible

end Behind

theorem behind?_eq_some_iff {c : Constraint} : behind? op rest = some c ↔
    ∃ version, versionText? rest = some version ∧ ofPair (op, String.ofList version) = c :=
  Option.map_eq_some_iff

/-- A fragment is read as what it states; an operator of two signs alone states nothing, but is read
as the operator without its equals sign, with that sign for its version. -/
theorem ofFragment?_eq_some_iff {c : Constraint} : ofFragment? fragment = some c ↔
    (∃ op version, States fragment op version ∧ ofPair (op, String.ofList version) = c) ∨
      ∃ op short : Operator, op.shorter? = some short ∧ Text.trim fragment = op.symbol.toList ∧
        ofPair (short, "=") = c := by
  constructor
  · intro read
    by_cases begins : ∃ op : Operator, op.symbol.toList <+: Text.trim fragment
    · obtain ⟨any, begins⟩ := begins
      obtain ⟨op, longest⟩ := Operator.exists_isLongest begins
      obtain ⟨rest, whole⟩ := longest.begins
      rw [ofFragment?_of_isLongest whole.symm longest, Option.or_eq_some_iff] at read
      rcases read with read | ⟨unread, read⟩
      · obtain ⟨version, text, rfl⟩ := behind?_eq_some_iff.mp read
        obtain ⟨version, nonempty, oneLine⟩ := (versionText?_behind whole.symm).mp text
        exact .inl ⟨op, _, ⟨longest, ⟨rest, whole.symm, version⟩, nonempty, oneLine⟩, rfl⟩
      · obtain ⟨short, shorter, read⟩ := Option.bind_eq_some_iff.mp read
        obtain ⟨version, text, rfl⟩ := behind?_eq_some_iff.mp read
        obtain ⟨rfl, oneLine⟩ := versionText?_cons_equals.mp text
        obtain rfl : rest = [] := by
          by_contra some
          have nonempty := mt (eq_nil_of_trim_behind whole.symm) some
          have inside : '\n' ∉ Text.trim rest := fun feed => oneLine (Text.mem_of_mem_trim feed)
          have text := (versionText?_behind whole.symm).mpr ⟨rfl, nonempty, inside⟩
          rw [behind?, text] at unread
          cases unread
        exact .inr ⟨op, short, shorter, by rw [← whole, List.append_nil], rfl⟩
    · rw [ofFragment?_eq_none (not_exists.mp begins)] at read
      cases read
  · rintro (⟨op, version, states, rfl⟩ | ⟨op, short, shorter, whole, rfl⟩)
    · obtain ⟨rest, whole, text⟩ := states.follows
      have read := (versionText?_behind whole).mpr ⟨text, states.nonempty, states.oneLine⟩
      rw [ofFragment?_of_isLongest whole states.longest, behind?, read]
      rfl
    · have alone : Text.trim fragment = op.symbol.toList ++ [] := by rw [whole, List.append_nil]
      have longest : op.IsLongest (Text.trim fragment) := by
        rw [alone, Operator.isLongest_iff]
        simp
      rw [ofFragment?_of_isLongest alone longest, shorter]
      rfl

theorem dangles_iff : Dangles fragment ↔
    ∃ op short : Operator, op.shorter? = some short ∧ Text.trim fragment = op.symbol.toList := by
  constructor
  · rintro (whole | whole)
    · exact ⟨_, _, rfl, whole⟩
    · exact ⟨_, _, rfl, whole⟩
  · rintro ⟨op, short, shorter, whole⟩
    cases op with
    | atLeast => exact .inl whole
    | atMost => exact .inr whole
    | _ => cases shorter

theorem States.not_dangles {version : List Char} (states : States fragment op version) :
    ¬ Dangles fragment := by
  intro dangles
  obtain ⟨other, short, shorter, alone⟩ := dangles_iff.mp dangles
  obtain ⟨rest, whole, text⟩ := states.follows
  have longest := states.longest.longest other (by simp [alone])
  have length := congrArg List.length (alone.symm.trans whole)
  rw [List.length_append, String.length_toList, String.length_toList] at length
  obtain rfl : rest = [] := List.eq_nil_of_length_eq_zero (by omega)
  exact states.nonempty text

theorem States.ofFragment?_eq {version : List Char} (states : States fragment op version) :
    ofFragment? fragment = some (ofPair (op, String.ofList version)) :=
  ofFragment?_eq_some_iff.mpr (.inl ⟨op, version, states, rfl⟩)

theorem Dangles.exists_ofFragment?_eq (dangles : Dangles fragment) :
    ∃ c, ofFragment? fragment = some c := by
  obtain ⟨op, short, shorter, whole⟩ := dangles_iff.mp dangles
  exact ⟨_, ofFragment?_eq_some_iff.mpr (.inr ⟨op, short, shorter, whole, rfl⟩)⟩

/-- A fragment that states nothing is skipped unless it is an operator of two signs alone. -/
theorem ofFragment?_of_silent (silent : ∀ op version, ¬ States fragment op version)
    (complete : ¬ Dangles fragment) : ofFragment? fragment = none := by
  rw [Option.eq_none_iff_forall_ne_some]
  intro c read
  rcases ofFragment?_eq_some_iff.mp read with ⟨op, version, states, -⟩ | ⟨op, short, h, whole, -⟩
  · exact silent op version states
  · exact complete (dangles_iff.mpr ⟨op, short, h, whole⟩)

namespace StatedInOrder

variable {fragments : List (List Char)} {cs : List (Operator × String)}

theorem exists_of_fragments (fragments : List (List Char)) : ∃ cs, StatedInOrder fragments cs := by
  induction fragments with
  | nil => exact ⟨[], .nil⟩
  | cons fragment fragments ih =>
    obtain ⟨cs, rest⟩ := ih
    by_cases any : ∃ op version, States fragment op version
    · obtain ⟨op, version, first⟩ := any
      exact ⟨_, .states first rest⟩
    · refine ⟨cs, .silent ?_ rest⟩
      intro op version states
      exact any ⟨op, version, states⟩

/-- Beyond what fragments state, one constraint is read for each operator of two signs alone. -/
theorem length_filterMap (stated : StatedInOrder fragments cs) :
    (fragments.filterMap ofFragment?).length = cs.length + fragments.countP (Dangles ·) := by
  induction stated with
  | nil => rfl
  | states first rest ih =>
    rw [List.filterMap_cons_some first.ofFragment?_eq,
      List.countP_cons_of_neg (by simpa using first.not_dangles), List.length_cons,
      List.length_cons, ih, Nat.add_right_comm]
  | @silent fragment _ _ first rest ih =>
    by_cases dangles : Dangles fragment
    · obtain ⟨c, read⟩ := dangles.exists_ofFragment?_eq
      rw [List.filterMap_cons_some read, List.countP_cons_of_pos (by simpa using dangles),
        List.length_cons, ih, Nat.add_assoc]
    · rw [List.filterMap_cons_none (ofFragment?_of_silent first dangles),
        List.countP_cons_of_neg (by simpa using dangles), ih]

/-- If no operator of two signs stands alone, what fragments state is what is read. -/
theorem filterMap_eq (stated : StatedInOrder fragments cs)
    (complete : ∀ fragment ∈ fragments, ¬ Dangles fragment) :
    fragments.filterMap ofFragment? = cs.map ofPair := by
  induction stated with
  | nil => rfl
  | states first rest ih =>
    rw [List.filterMap_cons_some first.ofFragment?_eq,
      ih fun g hg => complete g (List.mem_cons_of_mem _ hg), List.map_cons]
  | silent first rest ih =>
    rw [List.filterMap_cons_none (ofFragment?_of_silent first (complete _ List.mem_cons_self)),
      ih fun g hg => complete g (List.mem_cons_of_mem _ hg)]

end StatedInOrder

/-- A requirement text is read as what its fragments state, in order and nothing else, exactly if
none of them is an operator of two signs alone. -/
theorem ofText_stated_iff (text : String) :
    (∃ cs, StatedInOrder (Text.splitOn ',' text.toList) cs ∧ ofText text = cs.map ofPair) ↔
      ∀ fragment ∈ Text.splitOn ',' text.toList, ¬ Dangles fragment := by
  constructor
  · rintro ⟨cs, stated, read⟩
    have length := stated.length_filterMap
    rw [← ofChars, ← ofText, read, List.length_map] at length
    have complete : (Text.splitOn ',' text.toList).countP (Dangles ·) = 0 := by omega
    simpa [List.countP_eq_zero] using complete
  · intro complete
    obtain ⟨cs, stated⟩ := StatedInOrder.exists_of_fragments (Text.splitOn ',' text.toList)
    exact ⟨cs, stated, stated.filterMap_eq complete⟩

/-- An operator of two signs alone states nothing, but it is read. -/
theorem not_stated_of_operator_alone :
    ¬ ∃ cs, StatedInOrder (Text.splitOn ',' ">=".toList) cs ∧ ofText ">=" = cs.map ofPair := by
  rintro ⟨cs, stated, read⟩
  have length := stated.length_filterMap
  have dangling : (Text.splitOn ',' ">=".toList).countP (Dangles ·) = 1 := by decide +kernel
  rw [← ofChars, ← ofText, read, List.length_map, dangling] at length
  omega

end Constraint

end EnvDoctor
