import EnvDoctor.Proofs.Outcome
import EnvDoctor.Proofs.Range.Expanded
import EnvDoctor.Proofs.Range.Meaning
import EnvDoctor.Proofs.Version.Library
import EnvDoctor.Range.Parser

/-!
# What tests answer

A test of a version against a comparator asks the library for versions. As far as it answers, it
tells whether the version meets the comparator; it does answer if neither of the two versions has a
numeric identifier that is too long. The same holds of the comparators that an operator stands for.
-/

namespace EnvDoctor

namespace PartialVersion

theorem strict_of_mem_expand {isDigit : Char → Bool} (digits : Version.IsDigitClass isDigit)
    {p : PartialVersion} (strict : Version.AllStrict isDigit p.lower.pre) {op : Operator} :
    ∀ c ∈ p.expand op, Version.AllStrict isDigit c.bound.pre := by
  refine forall_pre_of_mem_expand ?_ strict
  simp [Version.isStrictIdentifier, digits.ascii (c := '0') (by decide)]

theorem short_of_mem_expand {p : PartialVersion} (short : p.lower.HasShortIdentifiers)
    {op : Operator} : ∀ c ∈ p.expand op, c.bound.HasShortIdentifiers :=
  forall_pre_of_mem_expand (fun _ => by decide) short

end PartialVersion

theorem Range.test_singleton [VersionLibrary] (cs : List Comparator) (v : Version) :
    Range.test [cs] v = cs.allM (·.test v) := by
  rw [Range.test, List.anyM]
  cases cs.allM (·.test v) with
  | error complaint => rfl
  | ok b => cases b <;> rfl

/-- A range that begins with a comparison which breaks off does so itself. -/
theorem Range.admits_eq_error [VersionLibrary] {c : Comparator} {cs : List Comparator} {v : Version}
    {complaint : String} (broken : VersionLibrary.compare v c.bound = .error complaint) :
    Range.admits [c :: cs] v = .error (.incomparable complaint) := by
  rw [Range.admits, Range.test_singleton, List.allM, Comparator.test, broken]
  rfl

section Library

variable [VersionLibrary] {isDigit : Char → Bool} [LawfulVersionLibrary isDigit] {v : Version}

namespace Comparator

theorem metBy_of_test {c : Comparator} (strict : Version.AllStrict isDigit v.pre)
    (bound : Version.AllStrict isDigit c.bound.pre) {b : Bool} (tested : c.test v = .ok b) :
    b = true ↔ c.MetBy v := by
  obtain ⟨o, compared, same⟩ := bind_eq_ok_iff.mp tested
  obtain rfl := LawfulVersionLibrary.eq_precedence strict bound compared
  cases same
  exact Relation.allows_iff (v.compares_rank c.bound) c.relation

theorem exists_test_eq {c : Comparator} (strict : Version.AllStrict isDigit v.pre)
    (bound : Version.AllStrict isDigit c.bound.pre) (short : v.HasShortIdentifiers)
    (shortBound : c.bound.HasShortIdentifiers) : ∃ b, c.test v = .ok b := by
  obtain ⟨o, compared⟩ := LawfulVersionLibrary.exists_compare_eq strict bound short shortBound
  exact ⟨c.relation.allows o, by rw [test, compared]; rfl⟩

variable {cs : List Comparator} (strict : Version.AllStrict isDigit v.pre)
  (bounds : ∀ c ∈ cs, Version.AllStrict isDigit c.bound.pre)

include strict bounds

theorem forall_metBy_of_admits {b : Bool} (answer : Range.admits [cs] v = .ok b) :
    b = true ↔ ∀ c ∈ cs, c.MetBy v := by
  have tested : cs.allM (·.test v) = .ok b := by
    rw [← Range.test_singleton]
    exact mapError_eq_ok_iff.mp answer
  exact forall_iff_of_allM (fun c hc b => metBy_of_test strict (bounds c hc)) tested

theorem exists_admits_eq (short : v.HasShortIdentifiers)
    (shortBounds : ∀ c ∈ cs, c.bound.HasShortIdentifiers) : ∃ b, Range.admits [cs] v = .ok b := by
  obtain ⟨b, tested⟩ := exists_allM_eq fun c hc =>
    exists_test_eq strict (bounds c hc) short (shortBounds c hc)
  exact ⟨b, by rw [Range.admits, Range.test_singleton, tested]; rfl⟩

end Comparator

end Library

end EnvDoctor
