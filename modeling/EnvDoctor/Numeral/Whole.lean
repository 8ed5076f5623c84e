import EnvDoctor.Numeral
import EnvDoctor.Text.Ascii
import EnvDoctor.Text.Pieces
import EnvDoctor.Text.Quoted

/-!
# Whole numbers as texts

A text spells a whole number in a base if it has digits, with single underscores between them, and
nothing else but blanks around them, a sign and a mark for the base in front of them.
-/

namespace EnvDoctor.Numeral

/-- Why a text spells no whole number. The limit on digits holds in base ten only. -/
inductive Fault where
  | tooLong (numeral : TooLong)
  | invalid (base : Nat) (text : List Char)
  deriving DecidableEq, Repr

/-- The message shows two hundred characters of the text in quotes at most. -/
def Fault.message : Fault → String
  | tooLong numeral => numeral.message
  | invalid base text =>
    "invalid literal for int() with base " ++ toString base ++ ": " ++
      String.ofList ((Text.quoted text).take 200)

def isMark (base : Nat) (c : Char) : Bool :=
  match base with
  | 2 => c == 'b' || c == 'B'
  | 8 => c == 'o' || c == 'O'
  | 16 => c == 'x' || c == 'X'
  | _ => false

/-- Drops the mark of a base, with one underscore after it. -/
def dropMark (base : Nat) (s : List Char) : List Char :=
  match s with
  | '0' :: c :: rest =>
    if isMark base c then (if rest.head? = some '_' then rest.tail else rest) else s
  | _ => s

def isDigitIn (base : Nat) (c : Char) : Bool :=
  (Text.hexValue? c).any (· < base)

/-- The digits of a run of digits and underscores, which stand one by one between digits. -/
def digitsOf? (run : List Char) : Option (List Char) :=
  let pieces := Text.splitOn '_' run
  if pieces.any (·.isEmpty) then none else some pieces.flatten

def ofText (base : Nat) (text : List Char) : Except Fault Int :=
  let (negative, s) := Text.splitSign ((Text.asciiForm text).dropWhile Text.isAsciiBlank)
  let s := dropMark base s
  let run := s.takeWhile fun c => c == '_' || isDigitIn base c
  let rest := (s.drop run.length).dropWhile Text.isAsciiBlank
  match digitsOf? run with
  | none => .error (.invalid base text)
  | some ds =>
    if base = 10 ∧ ds.length > digitLimit then .error (.tooLong ⟨some ds.length⟩)
    else if !rest.isEmpty then .error (.invalid base text)
    else
      let n : Int := Text.valueInBase base ds
      .ok (if negative then -n else n)

def isLong (n : Int) : Bool :=
  Nat.pow 10 digitLimit ≤ n.natAbs

end EnvDoctor.Numeral
