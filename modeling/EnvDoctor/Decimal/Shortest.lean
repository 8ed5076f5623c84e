/-!
# Shortest decimals

The shortest decimal that reads back as a given binary number, and the nearest of those. A binary
number `m · 2 ^ q` stands for all reals that round to it. For one digit, two digits and so on the
two neighbours of the number on the grid of decimals with that many digits are tried; the first
grid that has a neighbour in the interval gives the answer.
-/

namespace EnvDoctor.Decimal

def twoTo (n : Nat) : Nat :=
  Nat.pow 2 n

def tenTo (n : Nat) : Nat :=
  Nat.pow 10 n

/-- The number `digits · 10 ^ exponent`. -/
structure Scaled where
  digits : Nat
  exponent : Int
  deriving DecidableEq, Repr

/-- A positive binary number `num / den`, and the ends `low / den` and `high / den` of the
interval of reals that round to it. The ends round to it exactly if `closed`. -/
structure Interval where
  num : Nat
  den : Nat
  low : Nat
  high : Nat
  closed : Bool
  deriving DecidableEq, Repr

/-- The interval of `m · 2 ^ q`; below a power of two the gap is half as wide. -/
def Interval.ofBinary (m : Nat) (q : Int) (narrowBelow : Bool) : Interval :=
  let up := q.toNat
  let down := (-q).toNat
  let below := if narrowBelow then 1 else 2
  { num := 4 * m * twoTo up
    den := 4 * twoTo down
    low := (4 * m - below) * twoTo up
    high := (4 * m + 2) * twoTo up
    closed := m % 2 = 0 }

/-- `x / den` compared with a scaled decimal, both multiplied out. -/
def Scaled.crossed (s : Scaled) (x den : Nat) : Nat × Nat :=
  (s.digits * tenTo s.exponent.toNat * den, x * tenTo (-s.exponent).toNat)

def Interval.holds (i : Interval) (s : Scaled) : Bool :=
  let (a, low) := s.crossed i.low i.den
  let (b, high) := s.crossed i.high i.den
  if i.closed then low ≤ a && b ≤ high else low < a && b < high

/-- How many digits the whole part of `num / den` has, or minus the number of zeros that follow
the point if the whole part is zero. -/
def magnitude (num den : Nat) : Int :=
  if num ≥ den then (Nat.toDigits 10 (num / den)).length
  else
    let zeros : Nat := ((List.range 400).find? fun k => num * tenTo (k + 1) ≥ den).getD 400
    Int.negOfNat zeros

def Interval.neighbours (i : Interval) (exponent : Int) : Scaled × Scaled :=
  let num := i.num * tenTo (-exponent).toNat
  let den := i.den * tenTo exponent.toNat
  (⟨num / den, exponent⟩, ⟨num / den + 1, exponent⟩)

/-- The number is nearer to the lower neighbour, or midway and the lower one is even. -/
def Interval.prefersLower (i : Interval) (lower : Scaled) : Bool :=
  let num := 2 * i.num * tenTo (-lower.exponent).toNat
  let den := i.den * tenTo lower.exponent.toNat
  let middle := (2 * lower.digits + 1) * den
  num < middle || (num == middle && lower.digits % 2 == 0)

def Interval.onGrid? (i : Interval) (exponent : Int) : Option Scaled :=
  let (lower, upper) := i.neighbours exponent
  match lower.digits != 0 && i.holds lower, i.holds upper with
  | true, true => some (if i.prefersLower lower then lower else upper)
  | true, false => some lower
  | false, true => some upper
  | false, false => none

/-- Moves trailing zeros of the digits into the exponent. -/
def Scaled.normalize (s : Scaled) : Scaled :=
  let ds := Nat.toDigits 10 s.digits
  let zeros := (ds.reverse.takeWhile (· == '0')).length
  ⟨s.digits / tenTo zeros, s.exponent + zeros⟩

/-- The shortest decimal of the interval, seventeen digits at most. -/
def Interval.shortest (i : Interval) : Scaled :=
  let top := magnitude i.num i.den
  let grids : List Int := (List.range 17).map fun (k : Nat) => top - 1 - k
  match grids.findSome? i.onGrid? with
  | some s => s.normalize
  | none => (i.neighbours (top - 17)).1

inductive Binary where
  | nan
  | infinite (negative : Bool)
  | finite (negative : Bool) (m : Nat) (q : Int)
  deriving DecidableEq, Repr

/-- Takes a double apart: a sign bit, eleven bits of exponent and fifty-two of fraction. -/
def Binary.ofFloat (x : Float) : Binary :=
  let bits : Nat := x.toBits.toNat
  let negative := bits / twoTo 63 = 1
  let exponent : Nat := bits / twoTo 52 % twoTo 11
  let fraction : Nat := bits % twoTo 52
  if exponent = 2047 then
    if fraction = 0 then .infinite negative else .nan
  else if exponent = 0 then .finite negative fraction (-1074)
  else .finite negative (twoTo 52 + fraction) ((exponent : Int) - 1075)

def shortest (m : Nat) (q : Int) : Scaled :=
  (Interval.ofBinary m q (m = twoTo 52 && q > -1074)).shortest

/-- The double nearest to `digits · 10 ^ exponent`. Numbers out of all range are cut off first, so
that no power has to be computed for them. -/
def toFloat (negative : Bool) (digits : Nat) (exponent : Int) : Float :=
  let size : Int := (Nat.toDigits 10 digits).length + exponent
  let x : Float :=
    if digits = 0 then 0
    else if size > 400 then 1 / 0
    else if size < -400 then 0
    else Float.ofScientific digits (exponent < 0) exponent.natAbs
  if negative then -x else x

end EnvDoctor.Decimal
