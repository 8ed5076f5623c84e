import EnvDoctor.Checker.Builtin
import EnvDoctor.Proofs.Numeral.Canonical
import EnvDoctor.Proofs.Pattern.Search
import Mathlib.Data.Nat.Find

/-!
# Three numbers with points between them

What a triple is and which one in a text comes first. A triple is cut from a text in one way only,
but for the digits of its last number; the group that the built-in rules look for takes all of them.
-/

namespace EnvDoctor

namespace Builtin

open Pattern (Node Cont CharClass run)

def IsNumber (s : List Char) : Prop :=
  s ≠ [] ∧ ∀ c ∈ s, Text.isDigit c = true

def IsTriple (s : List Char) : Prop :=
  ∃ a b c, IsNumber a ∧ IsNumber b ∧ IsNumber c ∧ s = a ++ '.' :: (b ++ '.' :: c)

/-- A text has three numbers right behind `start`. -/
def HasTriple (start text : List Char) : Prop :=
  ∃ before found after, IsTriple found ∧ text = before ++ (start ++ (found ++ after))

/-- The first triple in a text that stands right behind `start`, and of those that begin there the
longest. -/
structure IsFirstTriple (start text before found after : List Char) : Prop where
  whole : text = before ++ (start ++ (found ++ after))
  triple : IsTriple found
  first : ∀ b t a, IsTriple t → text = b ++ (start ++ (t ++ a)) → before.length ≤ b.length
  longest : ∀ t a, IsTriple t → text = before ++ (start ++ (t ++ a)) → t.length ≤ found.length

variable {start text before found after s t rest : List Char}

theorem holds_digit {c : Char} :
    ({ items := [.digit false] } : CharClass).holds c = Text.isDigit c := by
  simp [CharClass.holds, CharClass.includes, Pattern.ClassItem.holds, Pattern.isDigitIn]

section Triples

theorem IsTriple.cons {d : Char} (digit : Text.isDigit d = true) (isTriple : IsTriple t) :
    IsTriple (d :: t) := by
  obtain ⟨a, b, c, ⟨-, digits⟩, second, third, rfl⟩ := isTriple
  exact ⟨d :: a, b, c, ⟨nofun, List.forall_mem_cons.mpr ⟨digit, digits⟩⟩, second, third, rfl⟩

theorem IsTriple.append {more : List Char} (digits : ∀ c ∈ more, Text.isDigit c = true)
    (isTriple : IsTriple t) : IsTriple (t ++ more) := by
  obtain ⟨a, b, c, first, second, ⟨nonempty, third⟩, rfl⟩ := isTriple
  refine ⟨a, b, c ++ more, first, second, ⟨by simp [nonempty], ?_⟩, by simp⟩
  exact List.forall_mem_append.mpr ⟨third, digits⟩

theorem IsNumber.eq_of_append_point {a b x y : List Char} (number : IsNumber a)
    (other : IsNumber b) (same : a ++ '.' :: x = b ++ '.' :: y) : a = b ∧ x = y := by
  have stops (z : List Char) : ∀ c ∈ ('.' :: z).head?, Text.isDigit c = false := by
    rintro c ⟨⟩
    decide
  have taken := Text.takeWhile_append_of_stops number.2 (stops x)
  have taken' := Text.takeWhile_append_of_stops other.2 (stops y)
  rw [same] at taken
  exact ⟨taken.1.symm.trans taken'.1, (List.cons.inj (taken.2.symm.trans taken'.2)).2⟩

/-- A triple takes no more characters than one behind which no digit stands. -/
theorem IsTriple.length_le (isTriple : IsTriple t) (other : IsTriple s) {rest' : List Char}
    (same : t ++ rest = s ++ rest') (stops : ∀ c ∈ rest'.head?, Text.isDigit c = false) :
    t.length ≤ s.length := by
  obtain ⟨a, b, c, numberA, numberB, ⟨-, digits⟩, rfl⟩ := isTriple
  obtain ⟨a', b', c', numberA', numberB', -, rfl⟩ := other
  simp only [List.append_assoc, List.cons_append] at same
  obtain ⟨rfl, sameB⟩ := numberA.eq_of_append_point numberA' same
  obtain ⟨rfl, sameC⟩ := numberB.eq_of_append_point numberB' sameB
  suffices c.length ≤ c'.length by simpa using this
  rcases List.append_eq_append_iff.mp sameC with ⟨more, rfl, -⟩ | ⟨more, rfl, rfl⟩
  · simp
  · cases more with
    | nil => simp
    | cons d more => cases (stops d rfl).symm.trans (digits d (by simp))

theorem IsTriple.not_blank (isTriple : IsTriple t) : ∀ c ∈ t, Text.isBlank c = false := by
  obtain ⟨a, b, c, ⟨-, first⟩, ⟨-, second⟩, ⟨-, third⟩, rfl⟩ := isTriple
  have point : Text.isBlank '.' = false := by decide
  simp only [List.forall_mem_append, List.forall_mem_cons]
  exact ⟨fun d among => Text.not_blank_of_isDigit (first d among), point,
    fun d among => Text.not_blank_of_isDigit (second d among), point,
    fun d among => Text.not_blank_of_isDigit (third d among)⟩

theorem IsTriple.eq_digit_cons (isTriple : IsTriple t) :
    ∃ d s, Text.isDigit d = true ∧ t = d :: s := by
  obtain ⟨a, b, c, ⟨nonempty, digits⟩, -, -, rfl⟩ := isTriple
  obtain ⟨d, a, rfl⟩ := List.exists_cons_of_ne_nil nonempty
  exact ⟨d, _, digits d List.mem_cons_self, rfl⟩

end Triples

section Running

variable {p r : Pattern.Place} {k : Cont} {n : Node}

theorem run_number_point {a : List Char} (number : IsNumber a)
    (follows : p.after = a ++ '.' :: rest) :
    run (.seq digits (.seq (.literal '.') n)) p k = run n (p.skip (a ++ ['.'])) k := by
  have point : CharClass.holds { items := [.digit false] } '.' = false := by decide
  apply Pattern.run_many_literal point number.1 _ follows
  exact fun c among => holds_digit.trans (number.2 c among)

theorem exists_of_run_number_point
    (through : run (.seq digits (.seq (.literal '.') n)) p k = some r) :
    ∃ a rest, IsNumber a ∧ p.after = a ++ '.' :: rest ∧ run n (p.skip (a ++ ['.'])) k = some r := by
  obtain ⟨a, rest, nonempty, all, follows, behind⟩ := Pattern.exists_of_run_many_literal through
  exact ⟨a, rest, ⟨nonempty, fun c among => holds_digit.symm.trans (all c among)⟩, follows, behind⟩

theorem run_number {a : List Char} (number : IsNumber a) (follows : p.after = a ++ rest)
    (stops : ∀ c ∈ rest.head?, Text.isDigit c = false) (through : k (p.skip a) = some r) :
    run digits p k = some r := by
  simp only [IsNumber, ← holds_digit] at number stops
  rw [digits, Pattern.run_many follows number.2 stops]
  exact Pattern.farthest_eq_some number.1 through

theorem exists_of_run_number (through : run digits p k = some r) :
    ∃ a rest, IsNumber a ∧ p.after = a ++ rest := by
  obtain ⟨a, rest, nonempty, all, follows, -⟩ := Pattern.exists_of_run_many through
  exact ⟨a, rest, ⟨nonempty, fun c among => holds_digit.symm.trans (all c among)⟩, follows⟩

/-- A group of three numbers takes all digits of the last. -/
theorem run_triple (isTriple : IsTriple t) (follows : p.after = t ++ rest)
    (stops : ∀ c ∈ rest.head?, Text.isDigit c = false) :
    run triple p some = some (((p.reopen 1).skip t).capture 1 p.position) := by
  obtain ⟨a, b, c, numberA, numberB, numberC, rfl⟩ := isTriple
  simp only [List.append_assoc, List.cons_append] at follows
  have first : (p.reopen 1).after = a ++ '.' :: (b ++ '.' :: (c ++ rest)) := follows
  have second := Pattern.Place.after_skip (first.trans (List.append_cons ..))
  have third := Pattern.Place.after_skip (second.trans (List.append_cons ..))
  calc run triple p some
      = run (.seq digits (.seq (.literal '.') digits)) ((p.reopen 1).skip (a ++ ['.']))
          fun q => some (q.capture 1 p.position) := run_number_point numberA first
    _ = run digits (((p.reopen 1).skip (a ++ ['.'])).skip (b ++ ['.']))
          fun q => some (q.capture 1 p.position) := run_number_point numberB second
    _ = _ := run_number numberC third stops (by simp [Pattern.Place.skip_skip])

theorem exists_of_run_triple (through : run triple p k = some r) :
    ∃ t rest, IsTriple t ∧ p.after = t ++ rest := by
  obtain ⟨a, _, numberA, first, through⟩ := exists_of_run_number_point through
  obtain ⟨b, _, numberB, second, through⟩ := exists_of_run_number_point through
  obtain ⟨c, rest, numberC, third⟩ := exists_of_run_number through
  have afterA := Pattern.Place.after_skip (first.trans (List.append_cons ..))
  have afterB := Pattern.Place.after_skip (second.trans (List.append_cons ..))
  refine ⟨a ++ '.' :: (b ++ '.' :: c), rest, ⟨a, b, c, numberA, numberB, numberC, rfl⟩, ?_⟩
  calc p.after
      = _ := first
    _ = a ++ '.' :: (b ++ '.' :: (c ++ rest)) := by rw [← afterA, second, ← afterB, third]
    _ = _ := by simp

end Running

section First

theorem exists_first {P : List Char → Prop} (somewhere : ∃ b a, text = b ++ a ∧ P a) :
    ∃ b a, text = b ++ a ∧ P a ∧ ∀ b' a', text = b' ++ a' → P a' → b.length ≤ b'.length := by
  classical
  obtain ⟨b, a, whole, holds⟩ := somewhere
  have lengths : ∃ n b a, text = b ++ a ∧ P a ∧ b.length = n := ⟨_, b, a, whole, holds, rfl⟩
  obtain ⟨b, a, whole, holds, least⟩ := Nat.find_spec lengths
  exact ⟨b, a, whole, holds, fun b' a' whole' holds' =>
    least.trans_le (Nat.find_min' lengths ⟨b', a', whole', holds', rfl⟩)⟩

theorem exists_isFirstTriple (has : HasTriple start text) :
    ∃ before found after, IsFirstTriple start text before found after := by
  obtain ⟨b, t, a, isTriple, whole⟩ := has
  obtain ⟨before, _, whole, ⟨t, a, isTriple, rfl⟩, first⟩ :=
    exists_first (P := fun s => ∃ t a, IsTriple t ∧ s = start ++ (t ++ a))
      ⟨b, _, whole, t, a, isTriple, rfl⟩
  -- The triple that stands there may have been cut short; the digits behind it belong to it.
  obtain ⟨more, after, rfl, digits, stops⟩ := Text.exists_run Text.isDigit a
  refine ⟨before, t ++ more, after, ?_, isTriple.append digits, ?_, ?_⟩
  · rw [whole, List.append_assoc]
  · exact fun b t a isTriple whole => first b _ whole ⟨t, a, isTriple, rfl⟩
  · intro t' a' isTriple' whole'
    have same := List.append_cancel_left (List.append_cancel_left (whole'.symm.trans whole))
    rw [← List.append_assoc] at same
    exact isTriple'.length_le (isTriple.append digits) same stops

theorem IsFirstTriple.stops (isFirst : IsFirstTriple start text before found after) :
    ∀ c ∈ after.head?, Text.isDigit c = false := by
  intro c isHead
  obtain ⟨after, rfl⟩ := List.head?_eq_some_iff.mp isHead
  by_contra digit
  have longer := isFirst.longest (found ++ [c]) after
    (isFirst.triple.append (by simpa using digit)) (by simp [isFirst.whole])
  rw [List.length_append] at longer
  exact Nat.not_succ_le_self _ longer

theorem IsFirstTriple.starts (isFirst : IsFirstTriple [] text before found after) :
    ∀ c ∈ before.getLast?, Text.isDigit c = false := by
  intro c isLast
  obtain ⟨before, rfl⟩ := List.getLast?_eq_some_iff.mp isLast
  by_contra digit
  have earlier := isFirst.first before (c :: found) after
    (isFirst.triple.cons (by simpa using digit)) (by simp [isFirst.whole])
  rw [List.length_append] at earlier
  exact Nat.not_succ_le_self _ earlier

end First

end Builtin

end EnvDoctor
