import EnvDoctor.Text.Digit

/-!
# Numerals

Whole numbers as text. A number of more than 4300 decimal digits is neither read nor written.
-/

namespace EnvDoctor.Numeral

/-- The longest numeral that is read or written. -/
def digitLimit : Nat := 4300

/-- A numeral is too long. Its length is known where a numeral is read. -/
structure TooLong where
  digits : Option Nat
  deriving DecidableEq, Repr

def TooLong.message (fault : TooLong) : String :=
  let value := match fault.digits with
    | some n => ": value has " ++ toString n ++ " digits"
    | none => ""
  "Exceeds the limit (" ++ toString digitLimit ++ " digits) for integer string conversion" ++
    value ++ "; use sys.set_int_max_str_digits() to increase the limit"

def read (ds : List Char) : Except TooLong Nat :=
  if ds.length > digitLimit then .error ⟨some ds.length⟩ else .ok (Text.digitsValue ds)

def write (n : Nat) : Except TooLong (List Char) :=
  let ds := Text.decimalDigits n
  if ds.length > digitLimit then .error ⟨none⟩ else .ok ds

theorem read_of_length_le {ds : List Char} (h : ds.length ≤ digitLimit) :
    read ds = .ok (Text.digitsValue ds) := by
  simp [read, Nat.not_lt.mpr h]

end EnvDoctor.Numeral
