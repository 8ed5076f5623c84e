import EnvDoctor.Value.Basic

/-!
# The order of sets

A set of numbers lists them by their places. It has room for more than twice as many members, at
least eight, in a number that is a power of two. A number asks for the place that its residue
names, then for a few places after it, and then for a place further off.
-/

namespace EnvDoctor.Value

/-- Residues are taken by this prime, so that equal numbers of all kinds have one residue. -/
def residuePrime : Nat := 2305843009213693951

/-- The residue of a number, with its sign. The residue of a double `m · 2 ^ q` uses that the
prime is one less than the power of two with exponent 61. -/
def residue? : Value → Option Int
  | bool b => some (if b then 1 else 0)
  | int n => some (signed (n < 0) (n.natAbs % residuePrime))
  | real x =>
    match Decimal.Binary.ofFloat x with
    | .finite negative m q =>
      some (signed negative (m * Decimal.twoTo (q % 61).toNat % residuePrime))
    | .infinite negative => some (signed negative 314159)
    | .nan => none
  | _ => none
where
  /-- Minus one is no residue. -/
  signed (negative : Bool) (n : Nat) : Int :=
    if !negative then n else if n = 1 then -2 else -n

def roomAbove (bound : Nat) : (fuel room : Nat) → Nat
  | 0, room => room
  | fuel + 1, room => if room ≤ bound then roomAbove bound fuel (2 * room) else room

def roomFor (members : Nat) : Nat :=
  if members < 5 then 8 else roomAbove (2 * members) members 8

def freePlace (room : Nat) (taken : List Nat) : (fuel place rest : Nat) → Nat
  | 0, place, _ => place
  | fuel + 1, place, rest =>
    let stretch := if place + 9 < room then 10 else 1
    match (List.range stretch).find? fun d => !taken.contains (place + d) with
    | some d => place + d
    | none =>
      let rest := rest / 32
      freePlace room taken fuel ((5 * place + 1 + rest) % room) rest

def places (room : Nat) (residues : List Int) : List Nat :=
  residues.foldl (fun taken r =>
    let word := (r % (Decimal.twoTo 64 : Int)).toNat
    taken ++ [freePlace room taken (room + 16) (word % room) word]) []

/-- The members of a set in the order in which it lists them. The order of sets of other values is
that in which they have come. -/
def listed (members : List Value) : List Value :=
  match members.mapM residue? with
  | none => members
  | some residues =>
    let room := roomFor members.length
    let placed := (places room residues).zip members
    (List.range room).filterMap fun place => List.lookup place placed

end EnvDoctor.Value
