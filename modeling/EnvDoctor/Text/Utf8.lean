import EnvDoctor.Text.Digit

/-!
# UTF-8

Reading bytes as text. The first byte that cannot be read is reported together with the reason;
the bytes that were read as the start of the same character belong to the report.
-/

namespace EnvDoctor.Text.Utf8

inductive Cause where
  | startByte
  | continuationByte
  | endOfData
  deriving DecidableEq, Repr

/-- The bytes from `position` on, `length` of them and the first being `byte`, cannot be read. -/
structure Fault where
  cause : Cause
  byte : UInt8
  position : Nat
  length : Nat
  deriving DecidableEq, Repr

def Cause.message : Cause → String
  | .startByte => "invalid start byte"
  | .continuationByte => "invalid continuation byte"
  | .endOfData => "unexpected end of data"

def Fault.message (f : Fault) : String :=
  let bytes :=
    if f.length = 1 then
      "byte 0x" ++ String.ofList (hexPadded 2 f.byte.toNat) ++ " in position " ++ toString f.position
    else
      "bytes in position " ++ toString f.position ++ "-" ++ toString (f.position + f.length - 1)
  "'utf-8' codec can't decode " ++ bytes ++ ": " ++ f.cause.message

/-- A byte that continues a character. -/
def isTail (b : UInt8) : Bool :=
  0x80 ≤ b && b ≤ 0xBF

/-- How many bytes a character has by its first byte, and the range of its second byte. No long
form of a short character, no surrogate and nothing beyond U+10FFFF is admitted. -/
def leadOf? (b : UInt8) : Option (Nat × UInt8 × UInt8) :=
  if 0xC2 ≤ b && b ≤ 0xDF then some (2, 0x80, 0xBF)
  else if b == 0xE0 then some (3, 0xA0, 0xBF)
  else if b == 0xED then some (3, 0x80, 0x9F)
  else if 0xE1 ≤ b && b ≤ 0xEF then some (3, 0x80, 0xBF)
  else if b == 0xF0 then some (4, 0x90, 0xBF)
  else if 0xF1 ≤ b && b ≤ 0xF3 then some (4, 0x80, 0xBF)
  else if b == 0xF4 then some (4, 0x80, 0x8F)
  else none

def scalar (bytes : List UInt8) : Char :=
  match bytes.map UInt8.toNat with
  | [a, b] => Char.ofNat ((a % 0x20) * 0x40 + b % 0x40)
  | [a, b, c] => Char.ofNat ((a % 0x10) * 0x1000 + (b % 0x40) * 0x40 + c % 0x40)
  | [a, b, c, d] =>
    Char.ofNat ((a % 0x08) * 0x40000 + (b % 0x40) * 0x1000 + (c % 0x40) * 0x40 + d % 0x40)
  | _ => Char.ofNat 0

def decodeFrom (position : Nat) : List UInt8 → Except Fault (List Char)
  | [] => .ok []
  | a :: rest =>
    if a < 0x80 then
      (Char.ofNat a.toNat :: ·) <$> decodeFrom (position + 1) rest
    else
      match leadOf? a with
      | none => .error ⟨.startByte, a, position, 1⟩
      | some (size, low, high) =>
        match rest with
        | [] => .error ⟨.endOfData, a, position, 1⟩
        | b :: rest =>
          if !(low ≤ b && b ≤ high) then .error ⟨.continuationByte, a, position, 1⟩
          else if size = 2 then (scalar [a, b] :: ·) <$> decodeFrom (position + 2) rest
          else
            match rest with
            | [] => .error ⟨.endOfData, a, position, 2⟩
            | c :: rest =>
              if !isTail c then .error ⟨.continuationByte, a, position, 2⟩
              else if size = 3 then (scalar [a, b, c] :: ·) <$> decodeFrom (position + 3) rest
              else
                match rest with
                | [] => .error ⟨.endOfData, a, position, 3⟩
                | d :: rest =>
                  if !isTail d then .error ⟨.continuationByte, a, position, 3⟩
                  else (scalar [a, b, c, d] :: ·) <$> decodeFrom (position + 4) rest

def decode (bytes : List UInt8) : Except Fault (List Char) :=
  decodeFrom 0 bytes

def encode (s : List Char) : List UInt8 :=
  s.flatMap String.utf8EncodeChar

end EnvDoctor.Text.Utf8
