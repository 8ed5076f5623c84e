/-!
# Lines

Line ends, and the place of a character as a line and a column, both counted from one.
-/

namespace EnvDoctor.Text

/-- Writes every line end, `\r\n` or `\r` or `\n`, as `\n`. -/
def normalizeNewlines : List Char → List Char
  | [] => []
  | '\r' :: '\n' :: rest => '\n' :: normalizeNewlines rest
  | '\r' :: rest => '\n' :: normalizeNewlines rest
  | c :: rest => c :: normalizeNewlines rest

structure Place where
  line : Nat
  column : Nat
  deriving DecidableEq, Repr

def Place.advance (p : Place) (c : Char) : Place :=
  if c = '\n' then ⟨p.line + 1, 1⟩ else ⟨p.line, p.column + 1⟩

def placeOf (text : List Char) (position : Nat) : Place :=
  (text.take position).foldl Place.advance ⟨1, 1⟩

end EnvDoctor.Text
