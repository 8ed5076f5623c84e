/-!
# Base 64

Bytes written with sixty-four characters, each of which stands for six bits. Characters of no
meaning are passed over. Signs of equality fill up the last group of four; once a group is filled
up, nothing after it counts.
-/

namespace EnvDoctor.Text.Base64

def sixBits? (c : Char) : Option Nat :=
  if 'A' ≤ c ∧ c ≤ 'Z' then some (c.toNat - 'A'.toNat)
  else if 'a' ≤ c ∧ c ≤ 'z' then some (c.toNat - 'a'.toNat + 26)
  else if '0' ≤ c ∧ c ≤ '9' then some (c.toNat - '0'.toNat + 52)
  else if c = '+' then some 62
  else if c = '/' then some 63
  else none

/-- How far a group has come: how many of its characters have been taken, the bits that make no
byte yet, and the signs of equality since the last of them. -/
structure Group where
  taken : Nat
  bits : Nat
  filled : Nat
  deriving DecidableEq, Repr

def Group.start : Group :=
  ⟨0, 0, 0⟩

/-- Takes a sign of equality. In front of the third character of a group it has no meaning. -/
def Group.fill (g : Group) : Group :=
  if 2 ≤ g.taken then { g with filled := g.filled + 1 } else g

def Group.isFull (g : Group) : Bool :=
  2 ≤ g.taken && 4 ≤ g.taken + g.filled

/-- Takes six bits; from the second character of a group on they complete a byte. -/
def Group.take (g : Group) (six : Nat) : List UInt8 × Group :=
  match g.taken with
  | 0 => ([], ⟨1, six, 0⟩)
  | 1 => ([UInt8.ofNat (g.bits * 4 + six / 16)], ⟨2, six % 16, 0⟩)
  | 2 => ([UInt8.ofNat (g.bits * 16 + six / 4)], ⟨3, six % 4, 0⟩)
  | _ => ([UInt8.ofNat (g.bits * 64 + six)], .start)

def decodeFrom? (g : Group) : List Char → Option (List UInt8)
  | [] => if g.taken = 0 then some [] else none
  | c :: rest =>
    if c = '=' then
      if g.fill.isFull then some [] else decodeFrom? g.fill rest
    else
      match sixBits? c with
      | none => decodeFrom? g rest
      | some six =>
        let (bytes, g) := g.take six
        (decodeFrom? g rest).map (bytes ++ ·)

def decode? (s : List Char) : Option (List UInt8) :=
  decodeFrom? .start s

end EnvDoctor.Text.Base64
