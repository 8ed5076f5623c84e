import EnvDoctor.Proofs.Range.Composition
import EnvDoctor.Proofs.Range.Meaning
import Mathlib.Order.Interval.Set.OrdConnected

/-!
# Comparator sets as intervals

Each relation to a bound is met by an interval of ranks, and so are any number of them together. If
the library compares valid versions by precedence, a range of a single alternative with valid bounds
therefore admits every version between two that it admits, and does not tell versions of one rank
apart.
-/

namespace EnvDoctor

theorem Version.isLE_precedence_iff (v w : Version) :
    (v.precedence w).isLE = true ↔ v.rank ≤ w.rank :=
  Relation.allows_iff (v.compares_rank w) .atMost

theorem Version.isEq_precedence_iff (v w : Version) :
    v.precedence w = .eq ↔ v.rank = w.rank :=
  (v.compares_rank w).eq_eq

/-- The members of an order that are in a relation to a bound form an interval. -/
theorem Relation.ordConnected {α : Type*} [LinearOrder α] (r : Relation) (bound : α) :
    {a | r.Holds a bound}.OrdConnected := by
  cases r with
  | equal => exact Set.ordConnected_singleton
  | atLeast => exact Set.ordConnected_Ici
  | above => exact Set.ordConnected_Ioi
  | atMost => exact Set.ordConnected_Iic
  | below => exact Set.ordConnected_Iio

/-- The ranks that all comparators admit. -/
def Comparator.ranks (cs : List Comparator) : Set VersionRank :=
  ⋂ c ∈ cs, {a | c.relation.Holds a c.bound.rank}

theorem Comparator.ordConnected_ranks (cs : List Comparator) : (ranks cs).OrdConnected :=
  Set.ordConnected_biInter fun c _ => c.relation.ordConnected c.bound.rank

theorem Comparator.forall_metBy_iff (cs : List Comparator) (v : Version) :
    (∀ c ∈ cs, c.MetBy v) ↔ v.rank ∈ ranks cs := by
  simp [ranks, Comparator.MetBy]

namespace Range

/-- The bounds of a range are versions with valid identifiers. -/
def HasStrictBounds (isDigit : Char → Bool) (r : Range) : Prop :=
  ∀ alternative ∈ r, ∀ c ∈ alternative, Version.AllStrict isDigit c.bound.pre

section Library

variable [VersionLibrary] {isDigit : Char → Bool} [LawfulVersionLibrary isDigit] {range : String}
  {r : Range} (accepted : parse range = .ok r) (single : ¬ ['|', '|'] <:+: range.toList)
  (bounds : r.HasStrictBounds isDigit)
  (byPrecedence : ∀ v w : Version, Version.AllStrict isDigit v.pre →
    Version.AllStrict isDigit w.pre → VersionLibrary.compare v w = .ok (v.precedence w))

include accepted single bounds byPrecedence

theorem exists_check_eq : ∃ cs : List Comparator, ∀ (text : String) (v : Version),
    Version.parse? text = some v →
      ∃ b, check (.text text) (.text range) = .ok b ∧ (b = true ↔ v.rank ∈ Comparator.ranks cs) := by
  have read : ofChars range.toList = .ok r := accepted
  rw [ofChars_of_single (alternatives_of_apart single)] at read
  obtain ⟨cs, -, rfl⟩ := map_eq_ok_iff.mp read
  have strictBounds := bounds cs List.mem_cons_self
  refine ⟨cs, fun text v version => ?_⟩
  have strict := (Version.wellFormed_of_parse? version).strict
  obtain ⟨b, tested⟩ : ∃ b, cs.allM (·.test v) = .ok b :=
    exists_allM_eq fun c hc =>
      ⟨_, by rw [Comparator.test, byPrecedence v c.bound strict (strictBounds c hc)]; rfl⟩
  have answer : admits [cs] v = .ok b := by
    rw [admits, test_singleton, tested]
    rfl
  refine ⟨b, ?_, ?_⟩
  · rw [check_text_of_parse accepted version, answer]
  · rw [Comparator.forall_metBy_of_admits strict strictBounds answer, Comparator.forall_metBy_iff]

/-- A range of one alternative admits what lies between two versions that it admits, and gives one
verdict on versions of equal precedence. -/
theorem check_interval :
    (∀ (low mid high : String) (a b c : Version), Version.parse? low = some a →
      Version.parse? mid = some b → Version.parse? high = some c →
      (a.precedence b).isLE = true → (b.precedence c).isLE = true →
      check (.text low) (.text range) = .ok true → check (.text high) (.text range) = .ok true →
      check (.text mid) (.text range) = .ok true) ∧
    ∀ (first second : String) (a b : Version), Version.parse? first = some a →
      Version.parse? second = some b → a.precedence b = .eq →
      ∃ verdict, check (.text first) (.text range) = .ok verdict ∧
        check (.text second) (.text range) = .ok verdict := by
  obtain ⟨cs, verdict⟩ := exists_check_eq accepted single bounds byPrecedence
  constructor
  · intro low mid high a b c readLow readMid readHigh below above admitsLow admitsHigh
    rw [Version.isLE_precedence_iff] at below above
    obtain ⟨x, checked, inLow⟩ := verdict low a readLow
    obtain rfl := Except.ok.inj (checked.symm.trans admitsLow)
    obtain ⟨z, checked, inHigh⟩ := verdict high c readHigh
    obtain rfl := Except.ok.inj (checked.symm.trans admitsHigh)
    obtain ⟨y, checked, inMid⟩ := verdict mid b readMid
    rw [checked, Except.ok.injEq, inMid]
    exact (Comparator.ordConnected_ranks cs).out (inLow.mp rfl) (inHigh.mp rfl) ⟨below, above⟩
  · intro first second a b readFirst readSecond equal
    have same : a.rank = b.rank := (Version.isEq_precedence_iff a b).mp equal
    obtain ⟨x, checkedFirst, inFirst⟩ := verdict first a readFirst
    obtain ⟨y, checkedSecond, inSecond⟩ := verdict second b readSecond
    have agree : x = y := by rw [Bool.eq_iff_iff, inFirst, inSecond, same]
    exact ⟨x, checkedFirst, agree ▸ checkedSecond⟩

end Library

section Exact

/-- A library that compares by precedence whatever the length of the identifiers. -/
local instance exactLibrary : VersionLibrary where
  read? := Version.ofChars? Char.isDigit
  compare v w := .ok (v.precedence w)

local instance : LawfulVersionLibrary Char.isDigit where
  digits := Version.isDigitClass_ascii
  read?_eq _ := rfl
  eq_precedence _ _ compared := (Except.ok.inj compared).symm
  exists_compare_eq _ _ _ _ := ⟨_, rfl⟩

theorem check_interval_prereleases :
    parse "^1.2.3-rc.1 <=1.9" = .ok [[⟨.atLeast, ⟨1, 2, 3, [['r', 'c'], ['1']]⟩⟩,
      ⟨.below, .floor 2 0 0⟩, ⟨.below, .floor 1 10 0⟩]] ∧
    ¬ ['|', '|'] <:+: "^1.2.3-rc.1 <=1.9".toList ∧
    check (.text "1.2.3-rc.9") (.text "^1.2.3-rc.1 <=1.9") = .ok true ∧
    check (.text "1.9.4") (.text "^1.2.3-rc.1 <=1.9") = .ok true ∧
    check (.text "1.2.3-rc.10.x") (.text "^1.2.3-rc.1 <=1.9") = .ok true ∧
    ∃ verdict, check (.text "1.2.3+linux") (.text "^1.2.3-rc.1 <=1.9") = .ok verdict ∧
      check (.text "v1.2.3") (.text "^1.2.3-rc.1 <=1.9") = .ok verdict := by
  have accepted : parse "^1.2.3-rc.1 <=1.9" =
      .ok [[⟨.atLeast, ⟨1, 2, 3, [['r', 'c'], ['1']]⟩⟩, ⟨.below, .floor 2 0 0⟩,
        ⟨.below, .floor 1 10 0⟩]] := by decide +kernel
  have single : ¬ ['|', '|'] <:+: "^1.2.3-rc.1 <=1.9".toList := by decide +kernel
  have bounds : HasStrictBounds Char.isDigit [[⟨.atLeast, ⟨1, 2, 3, [['r', 'c'], ['1']]⟩⟩,
      ⟨.below, .floor 2 0 0⟩, ⟨.below, .floor 1 10 0⟩]] := by
    unfold HasStrictBounds Version.AllStrict
    decide
  have low : check (.text "1.2.3-rc.9") (.text "^1.2.3-rc.1 <=1.9") = .ok true := by
    decide +kernel
  have high : check (.text "1.9.4") (.text "^1.2.3-rc.1 <=1.9") = .ok true := by decide +kernel
  obtain ⟨between, equal⟩ := check_interval accepted single bounds fun _ _ _ _ => rfl
  refine ⟨accepted, single, low, high, ?_, ?_⟩
  · exact between "1.2.3-rc.9" "1.2.3-rc.10.x" "1.9.4" ⟨1, 2, 3, [['r', 'c'], ['9']]⟩
      ⟨1, 2, 3, [['r', 'c'], ['1', '0'], ['x']]⟩ ⟨1, 9, 4, []⟩ (by decide +kernel)
      (by decide +kernel) (by decide +kernel) (by decide +kernel) (by decide +kernel) low high
  · exact equal "1.2.3+linux" "v1.2.3" ⟨1, 2, 3, []⟩ ⟨1, 2, 3, []⟩ (by decide +kernel)
      (by decide +kernel) (by decide +kernel)

end Exact

end Range

end EnvDoctor
