import EnvDoctor.Proofs.Version.Rank
import EnvDoctor.Range.Basic

/-!
# What operators mean

The meaning of an operator beside a complete version, told by ranks and numbers alone. The plain
comparators that the operator stands for are met by exactly the versions that it means: the end of a
caret or tilde series, which excludes the prereleases of the version beyond it, keeps the numbers
that the operator keeps.
-/

namespace EnvDoctor

namespace Version

/-- How many numbers a caret keeps: those up to the leftmost one that is not zero, and all three
if the first two are zero. -/
def caretSpan (c : Version) : ℕ :=
  (c.numbers.takeWhile (· == 0)).length + 1

/-- Two versions agree on the first numbers. -/
def AgreeOn (span : ℕ) (v w : Version) : Prop :=
  v.numbers.take span = w.numbers.take span

instance (span : ℕ) (v w : Version) : Decidable (v.AgreeOn span w) :=
  inferInstanceAs (Decidable (_ = _))

end Version

/-- The version `v` is one that the operator means beside the version `c`. -/
def Operator.Means : Operator → (c v : Version) → Prop
  | .equal, c, v => v.rank = c.rank
  | .atLeast, c, v => c.rank ≤ v.rank
  | .atMost, c, v => v.rank ≤ c.rank
  | .above, c, v => c.rank < v.rank
  | .below, c, v => v.rank < c.rank
  | .caret, c, v => c.rank ≤ v.rank ∧ v.AgreeOn c.caretSpan c
  | .tilde, c, v => c.rank ≤ v.rank ∧ v.AgreeOn 2 c

instance (op : Operator) (c v : Version) : Decidable (op.Means c v) :=
  match op with
  | .equal => inferInstanceAs (Decidable (_ = _))
  | .atLeast | .atMost => inferInstanceAs (Decidable (_ ≤ _))
  | .above | .below => inferInstanceAs (Decidable (_ < _))
  | .caret | .tilde => inferInstanceAs (Decidable (_ ∧ _))

/-- A relation between the members of an order. -/
def Relation.Holds {α : Type*} [LinearOrder α] : Relation → α → α → Prop
  | .equal, a, b => a = b
  | .atLeast, a, b => b ≤ a
  | .above, a, b => b < a
  | .atMost, a, b => a ≤ b
  | .below, a, b => a < b

theorem Relation.allows_iff {α : Type*} [LinearOrder α] {o : Ordering} {a b : α}
    (compares : o.Compares a b) (r : Relation) : r.allows o = true ↔ r.Holds a b := by
  cases r with
  | equal => rw [Holds, ← compares.eq_eq]; cases o <;> simp [allows]
  | atLeast => rw [Holds, ← compares.ne_lt]; cases o <;> simp [allows]
  | above => rw [Holds, ← compares.eq_gt]; cases o <;> simp [allows]
  | atMost => rw [Holds, ← compares.ne_gt]; cases o <;> simp [allows]
  | below => rw [Holds, ← compares.eq_lt]; cases o <;> simp [allows]

/-- The version `v` is in the relation of the comparator to its bound. -/
def Comparator.MetBy (v : Version) (c : Comparator) : Prop :=
  c.relation.Holds v.rank c.bound.rank

namespace PartialVersion

theorem forall_metBy_series (low high v : Version) :
    (∀ c ∈ series low high, c.MetBy v) ↔ low.rank ≤ v.rank ∧ v.rank < high.rank := by
  simp [series, Comparator.MetBy, Relation.Holds]

theorem tilde_series_iff (c v : Version) :
    c.rank ≤ v.rank ∧ v.rank < (next (.full c)).rank ↔ c.rank ≤ v.rank ∧ v.AgreeOn 2 c := by
  refine and_congr_right fun low => ?_
  have numbers := Version.numbers_le_of_rank_le low
  rw [next, Version.rank_lt_floor_iff]
  simp only [Version.AgreeOn, Version.numbers, List.take_succ_cons, List.take_zero,
    List.cons.injEq, and_true]
  omega

/-- The caret series keeps the numbers up to the leftmost one that is not zero. -/
theorem caret_series_iff (c v : Version) :
    c.rank ≤ v.rank ∧ v.rank < (caretTop (.full c)).rank ↔
      c.rank ≤ v.rank ∧ v.AgreeOn c.caretSpan c := by
  refine and_congr_right fun low => ?_
  have numbers := Version.numbers_le_of_rank_le low
  by_cases major : c.major = 0
  · by_cases minor : c.minor = 0
    · have span : v.AgreeOn c.caretSpan c ↔ v.major = 0 ∧ v.minor = 0 ∧ v.patch = c.patch := by
        by_cases patch : c.patch = 0 <;>
          simp [Version.AgreeOn, Version.caretSpan, Version.numbers, major, minor, patch]
      rw [span, caretTop, if_neg (by simp [major]), if_neg (by simp [minor]),
        Version.rank_lt_floor_iff]
      omega
    · have span : v.AgreeOn c.caretSpan c ↔ v.major = 0 ∧ v.minor = c.minor := by
        simp [Version.AgreeOn, Version.caretSpan, Version.numbers, major, minor]
      rw [span, caretTop, if_neg (by simp [major]), if_pos minor, Version.rank_lt_floor_iff]
      omega
  · have span : v.AgreeOn c.caretSpan c ↔ v.major = c.major := by
      simp [Version.AgreeOn, Version.caretSpan, Version.numbers, major]
    rw [span, caretTop, if_pos major, Version.rank_lt_floor_iff]
    omega

/-- The first plain comparator of an operator and a complete version has that version for its
bound. -/
theorem expand_full_eq_cons (op : Operator) (v : Version) :
    ∃ first more, (full v).expand op = first :: more ∧ first.bound = v := by
  cases op <;> exact ⟨_, _, rfl, rfl⟩

/-- The plain comparators of an operator and a complete version are met by the versions that the
operator means. -/
theorem forall_metBy_expand_full (op : Operator) (c v : Version) :
    (∀ d ∈ (full c).expand op, d.MetBy v) ↔ op.Means c v := by
  cases op with
  | equal | atLeast | atMost | above | below =>
    simp [expand, lower, Comparator.MetBy, Relation.Holds, Operator.Means]
  | caret => exact (forall_metBy_series _ _ _).trans (caret_series_iff c v)
  | tilde => exact (forall_metBy_series _ _ _).trans (tilde_series_iff c v)

end PartialVersion

end EnvDoctor
