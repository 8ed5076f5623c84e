import EnvDoctor.Decimal.Shortest

/-!
# Number styles

How a double is written: which numbers are written with an exponent, what the exponent looks
like, and the words for the values that have no digits.
-/

namespace EnvDoctor.Decimal

/-- The choices of a style. A number whose point follows its digit number `p` is written with
an exponent unless `least < p ≤ most`. -/
structure Style where
  least : Int
  most : Int
  wholePart : String
  exponentMark : Char
  exponentWidth : Nat
  nan : String
  infinite : String

/-- Positional from 0.0001 up to sixteen digits before the point, whole numbers with `.0`, and
exponents with a sign and two digits or more. -/
def Style.plain : Style where
  least := -4
  most := 16
  wholePart := ".0"
  exponentMark := 'e'
  exponentWidth := 2
  nan := "nan"
  infinite := "inf"

def Style.positional (style : Style) (ds : List Char) (point : Int) : List Char :=
  if point ≤ 0 then '0' :: '.' :: List.replicate (-point).toNat '0' ++ ds
  else if point.toNat < ds.length then ds.take point.toNat ++ '.' :: ds.drop point.toNat
  else ds ++ List.replicate (point.toNat - ds.length) '0' ++ style.wholePart.toList

def Style.scientific (style : Style) (ds : List Char) (exponent : Int) : List Char :=
  let e := Nat.toDigits 10 exponent.natAbs
  let head := match ds with
    | [] => []
    | [d] => [d]
    | d :: more => d :: '.' :: more
  head ++ style.exponentMark :: (if exponent < 0 then '-' else '+') ::
    (List.replicate (style.exponentWidth - e.length) '0' ++ e)

def Style.write (style : Style) (s : Scaled) : List Char :=
  let ds := Nat.toDigits 10 s.digits
  let point : Int := ds.length + s.exponent
  if style.least < point ∧ point ≤ style.most then style.positional ds point
  else style.scientific ds (point - 1)

def Style.ofFloat (style : Style) (x : Float) : String :=
  let sign (negative : Bool) := if negative then "-" else ""
  match Binary.ofFloat x with
  | .nan => style.nan
  | .infinite negative => sign negative ++ style.infinite
  | .finite negative 0 _ => sign negative ++ "0" ++ style.wholePart
  | .finite negative m q => sign negative ++ String.ofList (style.write (shortest m q))

end EnvDoctor.Decimal
