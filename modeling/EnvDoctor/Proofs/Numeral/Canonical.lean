import EnvDoctor.Numeral
import EnvDoctor.Text.Blank
import Mathlib.Algebra.Group.Nat.Defs
import Mathlib.Data.List.Basic
import Mathlib.Data.List.Induction

/-!
# Canonical numerals

A run of ASCII digits without a leading zero is the decimal form of its value, and the decimal form
of a number has that number for its value. So reading and writing undo each other.
-/

namespace EnvDoctor.Text

/-- ASCII digits, at least one of them, and no zero in front of others. -/
structure IsCanonical (ds : List Char) : Prop where
  nonempty : ds ≠ []
  digits : ∀ d ∈ ds, d.isDigit = true
  noLeadingZero : 1 < ds.length → ds.head? ≠ some '0'

theorem toNat_bounds_of_isDigit {d : Char} (h : d.isDigit = true) : 48 ≤ d.toNat ∧ d.toNat ≤ 57 := by
  exact Char.isDigit_iff_toNat.mp h

theorem digitChar_of_isDigit {d : Char} (h : d.isDigit = true) :
    (d.toNat - 48).digitChar = d := by
  have bounds := toNat_bounds_of_isDigit h
  have value := Nat.toNat_digitChar_of_lt_ten (n := d.toNat - 48) (by omega)
  exact Char.toNat_inj.mp (by omega)

theorem digitValue?_of_isDigit {d : Char} (h : d.isDigit = true) :
    digitValue? d = some (d.toNat - 48) := by
  obtain ⟨low, high⟩ := toNat_bounds_of_isDigit h
  have inFirst : 48 ≤ d.toNat ∧ d.toNat < 48 + 10 := by omega
  simp [digitValue?, digitZeros, inFirst]

theorem isDigit_of_isDigit {d : Char} (h : d.isDigit = true) : isDigit d = true := by
  simp [isDigit, digitValue?_of_isDigit h]

/-- In the ASCII range there are the digits of one script. -/
theorem isDigit_eq_of_ascii {c : Char} (ascii : c.toNat < 128) : isDigit c = c.isDigit := by
  cases digit : c.isDigit with
  | true => exact isDigit_of_isDigit digit
  | false =>
    rw [Bool.eq_false_iff, isDigit, ne_eq, Option.isSome_iff_exists]
    rintro ⟨k, value⟩
    obtain ⟨first, among, found⟩ := List.exists_of_findSome?_eq_some value
    split at found
    next between =>
      have others : ∀ start ∈ digitZeros, start < 128 → start = 48 := by decide
      have only := others first among (by omega)
      have low : 48 ≤ c.toNat := by omega
      have high : c.toNat ≤ 57 := by omega
      rw [Char.isDigit_iff_toNat.mpr ⟨low, high⟩] at digit
      cases digit
    next => cases found

theorem not_blank_of_isDigit {c : Char} (digit : isDigit c = true) : isBlank c = false := by
  obtain ⟨v, value⟩ := Option.isSome_iff_exists.mp digit
  obtain ⟨first, among, within⟩ := List.exists_of_findSome?_eq_some value
  split at within
  next range =>
    have outside : ∀ z ∈ digitZeros, z = 0x30 ∨ 0x660 ≤ z ∧ z < 0x1670 ∨ 0x17E0 ≤ z ∧ z < 0x1FF0 ∨
        0x3010 ≤ z := by decide
    have := outside first among
    simp only [isBlank, Bool.or_eq_false_iff, Bool.and_eq_false_iff, beq_eq_false_iff_ne,
      decide_eq_false_iff_not]
    omega
  next => cases within

theorem digitsValue_append_singleton (ds : List Char) (d : Char) :
    digitsValue (ds ++ [d]) = 10 * digitsValue ds + (digitValue? d).getD 0 := by
  simp [digitsValue]

theorem isDigit_of_mem_decimalDigits {n : Nat} {d : Char} (h : d ∈ decimalDigits n) :
    d.isDigit = true :=
  Nat.isDigit_of_mem_toDigits (by decide) (by decide) h

theorem decimalDigits_ne_nil (n : Nat) : decimalDigits n ≠ [] :=
  Nat.toDigits_ne_nil

theorem exists_decimalDigits_eq_cons (n : Nat) :
    ∃ d more, decimalDigits n = d :: more ∧ d.isDigit = true := by
  obtain ⟨d, more, digits⟩ := List.exists_cons_of_ne_nil (decimalDigits_ne_nil n)
  refine ⟨d, more, digits, isDigit_of_mem_decimalDigits (n := n) ?_⟩
  rw [digits]
  exact List.mem_cons_self

theorem decimalDigits_of_lt {n : Nat} (h : n < 10) : decimalDigits n = [n.digitChar] :=
  Nat.toDigits_of_lt_base h

theorem decimalDigits_mul_add {m k : Nat} (positive : 0 < m) (h : k < 10) :
    decimalDigits (10 * m + k) = decimalDigits m ++ [k.digitChar] := by
  rw [← decimalDigits_of_lt h]
  exact (Nat.toDigits_append_toDigits (by decide) positive h).symm

theorem digitsValue_digitChar {n : Nat} (h : n < 10) : digitsValue [n.digitChar] = n := by
  have digit : n.digitChar.isDigit = true := by simp [h]
  simp [digitsValue, digitValue?_of_isDigit digit, Nat.toNat_digitChar_of_lt_ten h]

theorem digitValue?_lt {c : Char} {k : Nat} (digit : digitValue? c = some k) : k < 10 := by
  obtain ⟨first, -, found⟩ := List.exists_of_findSome?_eq_some digit
  split at found
  next between =>
    cases found
    omega
  next => cases found

theorem digitsValue_lt_pow (ds : List Char) : digitsValue ds < 10 ^ ds.length := by
  induction ds using List.reverseRecOn with
  | nil => decide
  | append_singleton front d ih =>
    have last : (digitValue? d).getD 0 < 10 := by
      cases value : digitValue? d with
      | none => decide
      | some k => exact digitValue?_lt value
    rw [digitsValue_append_singleton, List.length_append, List.length_singleton, Nat.pow_succ]
    omega

/-- A numeral is at least as long as the decimal form of its value. -/
theorem length_decimalDigits_digitsValue_le {ds : List Char} (nonempty : ds ≠ []) :
    (decimalDigits (digitsValue ds)).length ≤ ds.length :=
  (Nat.length_toDigits_le_iff (by decide) (List.length_pos_iff.mpr nonempty)).mpr
    (digitsValue_lt_pow ds)

theorem length_decimalDigits_succ_le (n : Nat) :
    (decimalDigits (n + 1)).length ≤ (decimalDigits n).length + 1 := by
  have positive : 0 < (decimalDigits n).length := List.length_pos_iff.mpr (decimalDigits_ne_nil n)
  have below := (Nat.length_toDigits_le_iff (by decide) positive).mp (Nat.le_refl _)
  apply (Nat.length_toDigits_le_iff (by decide) (Nat.succ_pos _)).mpr
  calc n + 1 ≤ 10 ^ (decimalDigits n).length := below
    _ < 10 ^ ((decimalDigits n).length + 1) := Nat.pow_lt_pow_succ (by decide)

theorem head?_decimalDigits_ne_zero {n : Nat} (positive : 0 < n) :
    (decimalDigits n).head? ≠ some '0' := by
  induction n using Nat.strongRecOn with
  | ind n ih =>
    by_cases small : n < 10
    · rw [decimalDigits_of_lt small, List.head?_cons]
      intro zero
      have value := Nat.toNat_digitChar_of_lt_ten small
      rw [Option.some.inj zero] at value
      simp at value
      omega
    · have split : n = 10 * (n / 10) + n % 10 := by omega
      have rest : 0 < n / 10 := by omega
      rw [split, decimalDigits_mul_add rest (Nat.mod_lt n (by decide)),
        List.head?_append_of_ne_nil _ (decimalDigits_ne_nil _)]
      exact ih (n / 10) (by omega) rest

theorem isCanonical_decimalDigits (n : Nat) : IsCanonical (decimalDigits n) where
  nonempty := decimalDigits_ne_nil n
  digits := fun _ => isDigit_of_mem_decimalDigits
  noLeadingZero := by
    intro long
    apply head?_decimalDigits_ne_zero
    apply Nat.pos_of_ne_zero
    rintro rfl
    simp [decimalDigits] at long

@[simp]
theorem digitsValue_decimalDigits (n : Nat) : digitsValue (decimalDigits n) = n := by
  induction n using Nat.strongRecOn with
  | ind n ih =>
    by_cases small : n < 10
    · rw [decimalDigits_of_lt small, digitsValue_digitChar small]
    · have split : n = 10 * (n / 10) + n % 10 := by omega
      have digit : (n % 10).digitChar.isDigit = true := by
        simp [Nat.mod_lt n (by decide : 0 < 10)]
      rw [split, decimalDigits_mul_add (by omega) (Nat.mod_lt n (by decide)),
        digitsValue_append_singleton, ih (n / 10) (by omega), digitValue?_of_isDigit digit,
        Option.getD_some, Nat.toNat_digitChar_sub_48_of_lt_ten (Nat.mod_lt n (by decide))]

/-- There is one canonical numeral for each value. -/
theorem IsCanonical.decimalDigits_digitsValue {ds : List Char} (canonical : IsCanonical ds) :
    decimalDigits (digitsValue ds) = ds := by
  induction ds using List.reverseRecOn with
  | nil => exact absurd rfl canonical.nonempty
  | append_singleton front d ih =>
    have digit : d.isDigit = true := canonical.digits d (by simp)
    have bounds := toNat_bounds_of_isDigit digit
    rw [digitsValue_append_singleton, digitValue?_of_isDigit digit, Option.getD_some]
    by_cases single : front = []
    · subst single
      rw [show digitsValue [] = 0 from rfl, Nat.mul_zero, Nat.zero_add,
        decimalDigits_of_lt (by omega), digitChar_of_isDigit digit, List.nil_append]
    · have head : front.head? ≠ some '0' := by
        have whole := canonical.noLeadingZero (by
          have := List.length_pos_iff.mpr single
          simp
          omega)
        rwa [List.head?_append_of_ne_nil _ single] at whole
      have front_eq := ih ⟨single, fun c hc => canonical.digits c (by simp [hc]), fun _ => head⟩
      have positive : 0 < digitsValue front := by
        apply Nat.pos_of_ne_zero
        intro zero
        rw [zero] at front_eq
        rw [← front_eq] at head
        exact head (by simp [decimalDigits])
      rw [decimalDigits_mul_add positive (by omega), front_eq, digitChar_of_isDigit digit]

end EnvDoctor.Text

namespace EnvDoctor.Numeral

theorem length_le_of_read {ds : List Char} {n : Nat} (h : read ds = .ok n) :
    ds.length ≤ digitLimit ∧ n = Text.digitsValue ds := by
  unfold read at h
  split at h
  · cases h
  · cases h
    exact ⟨by omega, rfl⟩

/-- A number of which the decimal form is short enough is read back from it. -/
theorem read_decimalDigits {n : Nat} (h : (Text.decimalDigits n).length ≤ digitLimit) :
    read (Text.decimalDigits n) = .ok n := by
  rw [read_of_length_le h, Text.digitsValue_decimalDigits]

end EnvDoctor.Numeral
