import EnvDoctor.Proofs.Numeral.Canonical
import EnvDoctor.Proofs.Version.Written
import EnvDoctor.Range.Basic

/-!
# The bounds of plain comparators

What an operator stands for beside a version is told with bounds that are near that version: their
numbers are given, one more than a given one, or zero, and their prerelease is the given one, the
lowest one or none.
-/

namespace EnvDoctor.PartialVersion

def given : PartialVersion → List ℕ
  | major a => [a]
  | minor a b => [a, b]
  | full v => v.numbers

/-- A number that is given, the next one, or zero. -/
def Reaches (p : PartialVersion) (n : ℕ) : Prop :=
  n = 0 ∨ ∃ g ∈ p.given, n = g ∨ n = g + 1

/-- A version of numbers that are reached, with the given prerelease, the lowest one or none. -/
structure Near (p : PartialVersion) (v : Version) : Prop where
  numbers : ∀ n ∈ v.numbers, p.Reaches n
  pre : v.pre = p.lower.pre ∨ v.pre = [] ∨ v.pre = [['0']]

section Near

variable (p : PartialVersion)

theorem near_lower : p.Near p.lower := by
  refine ⟨?_, .inl rfl⟩
  cases p <;> simp [Reaches, given, lower, Version.release, Version.numbers]

theorem near_floor {a b c : ℕ} (reached : ∀ n ∈ [a, b, c], p.Reaches n) :
    p.Near (.floor a b c) :=
  ⟨reached, .inr (.inr rfl)⟩

theorem near_next : p.Near p.next := by
  cases p <;> exact near_floor _ (by simp [Reaches, given, Version.numbers])

theorem near_caretTop : p.Near p.caretTop := by
  cases p with
  | major a => exact near_next (major a)
  | minor a b =>
    rw [caretTop]
    split
    next => exact near_floor _ (by simp [Reaches, given])
    next => exact near_floor _ (by simp [Reaches, given])
  | full v =>
    rw [caretTop]
    split
    next => exact near_floor _ (by simp [Reaches, given, Version.numbers])
    next =>
      split
      next => exact near_floor _ (by simp [Reaches, given, Version.numbers])
      next => exact near_floor _ (by simp [Reaches, given, Version.numbers])

variable {p} {v : Version}

theorem Near.core (near : p.Near v) : p.Near v.core :=
  ⟨near.numbers, .inr (.inl rfl)⟩

theorem Near.lowest (near : p.Near v) : p.Near ⟨v.major, v.minor, v.patch, [['0']]⟩ :=
  ⟨near.numbers, .inr (.inr rfl)⟩

theorem near_of_mem_singleton {relation : Relation} {c : Comparator} (near : p.Near v)
    (among : c ∈ [⟨relation, v⟩]) : p.Near c.bound := by
  obtain rfl := List.mem_singleton.mp among
  exact near

theorem near_of_mem_series {c : Comparator} (near : p.Near v) (among : c ∈ series p.lower v) :
    p.Near c.bound := by
  rw [series, List.mem_pair] at among
  rcases among with rfl | rfl
  · exact near_lower p
  · exact near

/-- The bounds of the plain comparators of an operator and an incomplete version. -/
theorem near_of_mem_expand {op : Operator} {c : Comparator} (among : c ∈ p.expand op) :
    p.Near c.bound := by
  cases op with
  | equal =>
    cases p with
    | full v => exact near_of_mem_singleton (near_lower (full v)) among
    | major a | minor a b => exact near_of_mem_series (near_next _) among
  | atLeast => exact near_of_mem_singleton (near_lower p) among
  | above =>
    cases p with
    | full v => exact near_of_mem_singleton (near_lower (full v)) among
    | major a | minor a b => exact near_of_mem_singleton (near_next _).core among
  | below =>
    cases p with
    | full v => exact near_of_mem_singleton (near_lower (full v)) among
    | major a | minor a b => exact near_of_mem_singleton (near_lower _).lowest among
  | atMost =>
    cases p with
    | full v => exact near_of_mem_singleton (near_lower (full v)) among
    | major a | minor a b => exact near_of_mem_singleton (near_next _) among
  | tilde => exact near_of_mem_series (near_next p) among
  | caret => exact near_of_mem_series (near_caretTop p) among

namespace Near

theorem forall_pre (near : p.Near v) {P : List Char → Prop} (lowest : P ['0'])
    (given : ∀ id ∈ p.lower.pre, P id) : ∀ id ∈ v.pre, P id := by
  rcases near.pre with same | same | same
  · rwa [same]
  · rw [same]
    exact List.forall_mem_nil _
  · rw [same]
    exact List.forall_mem_singleton.mpr lowest

theorem short (near : p.Near v)
    (fits : ∀ g ∈ p.given, (Text.decimalDigits g).length < Numeral.digitLimit) :
    ∀ n ∈ v.numbers, (Text.decimalDigits n).length ≤ Numeral.digitLimit := by
  intro n hn
  rcases near.numbers n hn with rfl | ⟨g, hg, rfl | rfl⟩
  · decide
  · exact (fits n hg).le
  · exact (Text.length_decimalDigits_succ_le g).trans (fits g hg)

end Near

end Near

/-- The identifiers of the bounds are those that are given, or zero. -/
theorem forall_pre_of_mem_expand {p : PartialVersion} {P : List Char → Prop} (lowest : P ['0'])
    (given : ∀ id ∈ p.lower.pre, P id) {op : Operator} :
    ∀ c ∈ p.expand op, ∀ id ∈ c.bound.pre, P id :=
  fun _ among => (near_of_mem_expand among).forall_pre lowest given

end EnvDoctor.PartialVersion
