import EnvDoctor.Decimal.Shortest
import EnvDoctor.Text.Ascii
import EnvDoctor.Text.CaseFold
import EnvDoctor.Text.Quoted

/-!
# Decimals as texts

A text spells a double if it has digits, perhaps with a point and an exponent, or is a word for
infinity or for a value that is no number; blanks may stand around it and a sign in front.
-/

namespace EnvDoctor.Decimal

structure Misspelt where
  text : List Char
  deriving DecidableEq, Repr

/-- A number without the blanks around it, written in the ASCII range. -/
def core (text : List Char) : List Char :=
  let s := (Text.asciiForm text).dropWhile Text.isAsciiBlank
  (s.reverse.dropWhile Text.isAsciiBlank).reverse

/-- The message shows the text, but no blanks if it has nothing else. -/
def Misspelt.message (fault : Misspelt) : String :=
  let shown := if (core fault.text).isEmpty then [] else fault.text
  "could not convert string to float: " ++ String.ofList (Text.quoted shown)

/-- An exponent: a letter, perhaps a sign, and digits. Without any characters it is zero. -/
def exponentOf? : List Char → Option Int
  | [] => some 0
  | e :: rest =>
    let (negative, ds) := Text.splitSign rest
    if (e = 'e' ∨ e = 'E') ∧ !ds.isEmpty ∧ ds.all Char.isDigit then
      let n : Int := Text.digitsValue ds
      some (if negative then -n else n)
    else none

/-- Digits with a point at most and perhaps an exponent. -/
def unsigned? (s : List Char) : Option Float := do
  let whole := s.takeWhile Char.isDigit
  let (fraction, rest) := match s.dropWhile Char.isDigit with
    | '.' :: more => (more.takeWhile Char.isDigit, more.dropWhile Char.isDigit)
    | rest => ([], rest)
  if whole.isEmpty && fraction.isEmpty then none
  else
    let exponent ← exponentOf? rest
    some (toFloat false (Text.digitsValue (whole ++ fraction)) (exponent - fraction.length))

def ofText (text : List Char) : Except Misspelt Float :=
  let (negative, s) := Text.splitSign (core text)
  let x? := match String.ofList (s.map Text.asciiLower) with
    | "inf" | "infinity" => some (1 / 0)
    | "nan" => some (0 / 0)
    | _ => unsigned? s
  match x? with
  | some x => .ok (if negative then -x else x)
  | none => .error ⟨text⟩

/-- The double nearest to a whole number, unless that is beyond all doubles. -/
def ofNat? (n : Nat) : Option Float :=
  let x := toFloat false n 0
  if x.isInf then none else some x

def wholeOf? (x : Float) : Option Int :=
  match Binary.ofFloat x with
  | .finite negative m q =>
    let n? :=
      if 0 ≤ q then some (m * twoTo q.toNat)
      else if m % twoTo (-q).toNat = 0 then some (m / twoTo (-q).toNat)
      else none
    n?.map fun n => if negative then -(n : Int) else n
  | _ => none

end EnvDoctor.Decimal
