import EnvDoctor.Version.Precedence
import Mathlib.Data.List.Lex
import Mathlib.Data.Prod.Lex
import Mathlib.Data.Sum.Order
import Mathlib.Order.Compare
import Mathlib.Order.WithBot

/-!
# Ranks of versions

The precedence of versions is the comparison of their ranks in a linear order: the three numbers
from left to right, then the prerelease, a release standing above all its prereleases. So precedence
is total and transitive, and two versions are equal in precedence if they have one rank.
-/

namespace EnvDoctor

/-- The rank of an identifier: numbers come before texts. -/
abbrev IdentifierRank := ℕ ⊕ₗ List ℕ

/-- The rank of a version. A release has the highest prerelease rank. -/
abbrev VersionRank := ℕ ×ₗ ℕ ×ₗ ℕ ×ₗ WithTop (List IdentifierRank)

def identifierRank (id : List Char) : IdentifierRank :=
  match identifierNumber? id with
  | some n => Sum.inlₗ n
  | none => Sum.inrₗ (id.map Char.toNat)

/-- The rank of a prerelease; of a release, whose list is empty, it is the top. -/
def tailRank (pre : List (List Char)) : WithTop (List IdentifierRank) :=
  if pre.isEmpty then ⊤ else ↑(pre.map identifierRank)

def Version.rank (v : Version) : VersionRank :=
  toLex (v.major, toLex (v.minor, toLex (v.patch, tailRank v.pre)))

section Comparisons

variable {α β : Type*} [LinearOrder α] [LinearOrder β]

theorem compares_nat (m n : ℕ) : (compare m n).Compares m n := by
  rw [← cmp_eq_compare]
  exact cmp_compares m n

theorem compares_toLex {o₁ o₂ : Ordering} {a b : α} {c d : β} (first : o₁.Compares a b)
    (second : o₂.Compares c d) : (o₁.then o₂).Compares (toLex (a, c)) (toLex (b, d)) := by
  cases o₁ with
  | lt => exact Prod.Lex.toLex_lt_toLex.mpr (.inl first)
  | gt => exact Prod.Lex.toLex_lt_toLex.mpr (.inl first)
  | eq =>
    obtain rfl : a = b := first
    cases o₂ with
    | lt => exact Prod.Lex.toLex_lt_toLex.mpr (.inr ⟨rfl, second⟩)
    | gt => exact Prod.Lex.toLex_lt_toLex.mpr (.inr ⟨rfl, second⟩)
    | eq =>
      obtain rfl : c = d := second
      exact rfl

theorem compares_cons {o₁ o₂ : Ordering} {a b : α} {s t : List α} (first : o₁.Compares a b)
    (rest : o₂.Compares s t) : (o₁.then o₂).Compares (a :: s) (b :: t) := by
  cases o₁ with
  | lt => exact List.cons_lt_cons_iff.mpr (.inl first)
  | gt => exact List.cons_lt_cons_iff.mpr (.inl first)
  | eq =>
    obtain rfl : a = b := first
    cases o₂ with
    | lt => exact List.cons_lt_cons_iff.mpr (.inr ⟨rfl, rest⟩)
    | gt => exact List.cons_lt_cons_iff.mpr (.inr ⟨rfl, rest⟩)
    | eq =>
      obtain rfl : s = t := rest
      exact rfl

end Comparisons

theorem compares_chars (s t : List Char) :
    (compareChars s t).Compares (s.map Char.toNat) (t.map Char.toNat) := by
  fun_induction compareChars s t with
  | case1 => exact rfl
  | case2 => exact List.nil_lt_cons _ _
  | case3 => exact List.nil_lt_cons _ _
  | case4 c s d t ih => exact compares_cons (compares_nat c.toNat d.toNat) ih

theorem compares_identifiers (a b : List Char) :
    (compareIdentifiers a b).Compares (identifierRank a) (identifierRank b) := by
  unfold compareIdentifiers identifierRank
  cases identifierNumber? a with
  | some m =>
    cases identifierNumber? b with
    | some n =>
      have order := compares_nat m n
      cases h : compare m n <;> simp_all [Ordering.Compares]
    | none => exact Sum.Lex.inl_lt_inr _ _
  | none =>
    cases identifierNumber? b with
    | some n => exact Sum.Lex.inl_lt_inr _ _
    | none =>
      have order := compares_chars a b
      cases h : compareChars a b <;> simp_all [Ordering.Compares]

theorem compares_prereleases (a b : List (List Char)) :
    (comparePrereleases a b).Compares (a.map identifierRank) (b.map identifierRank) := by
  fun_induction comparePrereleases a b with
  | case1 => exact rfl
  | case2 => exact List.nil_lt_cons _ _
  | case3 => exact List.nil_lt_cons _ _
  | case4 a s b t ih => exact compares_cons (compares_identifiers a b) ih

theorem compares_tails (a b : List (List Char)) :
    (compareTails a b).Compares (tailRank a) (tailRank b) := by
  unfold compareTails tailRank
  cases a.isEmpty with
  | true =>
    cases b.isEmpty with
    | true => exact rfl
    | false => exact WithTop.coe_lt_top _
  | false =>
    cases b.isEmpty with
    | true => exact WithTop.coe_lt_top _
    | false =>
      have order := compares_prereleases a b
      cases h : comparePrereleases a b <;> simp_all [Ordering.Compares]

namespace Version

/-- Precedence is the comparison of ranks. -/
theorem compares_rank (v w : Version) : (v.precedence w).Compares v.rank w.rank := by
  have numbers := compares_toLex (compares_nat v.major w.major)
    (compares_toLex (compares_nat v.minor w.minor)
      (compares_toLex (compares_nat v.patch w.patch) (compares_tails v.pre w.pre)))
  simpa only [precedence, compareNumbers, rank, Ordering.then_assoc] using numbers

theorem not_tailRank_lt_zero (pre : List (List Char)) : ¬ tailRank pre < tailRank [['0']] := by
  have zero : tailRank [['0']] = ↑[(Sum.inlₗ 0 : IdentifierRank)] := by decide
  rw [zero, not_lt]
  unfold tailRank
  split
  · exact le_top
  · rw [WithTop.coe_le_coe]
    cases pre with
    | nil => contradiction
    | cons id rest =>
      have least : (Sum.inlₗ 0 : IdentifierRank) ≤ identifierRank id := by
        unfold identifierRank
        split
        · exact Sum.Lex.inl_le_inl_iff.mpr (Nat.zero_le _)
        · exact Sum.Lex.inl_le_inr _ _
      rw [List.map_cons, ← not_lt, List.cons_lt_cons_iff]
      rintro (below | ⟨-, below⟩)
      · exact not_lt_of_ge least below
      · exact List.not_lt_nil _ below

/-- The lowest version with some numbers is above exactly the versions with lower numbers. -/
theorem rank_lt_floor_iff (v : Version) (a b c : ℕ) :
    v.rank < (floor a b c).rank ↔
      v.major < a ∨ v.major = a ∧ (v.minor < b ∨ v.minor = b ∧ v.patch < c) := by
  simp [rank, floor, Prod.Lex.toLex_lt_toLex, not_tailRank_lt_zero]

/-- A version has at least the numbers of a version of lower rank. -/
theorem numbers_le_of_rank_le {v w : Version} (h : w.rank ≤ v.rank) :
    w.major < v.major ∨
      w.major = v.major ∧ (w.minor < v.minor ∨ w.minor = v.minor ∧ w.patch ≤ v.patch) := by
  simp only [rank, Prod.Lex.toLex_le_toLex] at h
  rcases h with h | ⟨major, h | ⟨minor, h | ⟨patch, -⟩⟩⟩
  · exact .inl h
  · exact .inr ⟨major, .inl h⟩
  · exact .inr ⟨major, .inr ⟨minor, h.le⟩⟩
  · exact .inr ⟨major, .inr ⟨minor, patch.le⟩⟩

end Version

end EnvDoctor
