/-!
# Lone surrogates

An escape can name one half of a surrogate pair, which is no character. Inside a text a private
character stands for it: the 2048 halves have their stand-ins from U+10E000 on, in order.
-/

namespace EnvDoctor.Text

def isSurrogate (n : Nat) : Bool :=
  0xD800 ≤ n && n ≤ 0xDFFF

/-- How far a stand-in lies from its half. -/
def surrogateShift : Nat := 0x100800

/-- The character of a code point, for half a pair its stand-in. -/
def charOf (n : Nat) : Char :=
  if isSurrogate n then Char.ofNat (n + surrogateShift) else Char.ofNat n

def codePoint (c : Char) : Nat :=
  let half := c.toNat - surrogateShift
  if isSurrogate half then half else c.toNat

end EnvDoctor.Text
