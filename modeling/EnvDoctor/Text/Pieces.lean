import EnvDoctor.Text.Blank

/-!
# Pieces of a text

Splitting at separators. `splitWhere` keeps empty pieces, `fields` drops them, so that a run of
separators counts as one.
-/

namespace EnvDoctor.Text

def consFirst (c : Char) : List (List Char) → List (List Char)
  | [] => [[c]]
  | piece :: more => (c :: piece) :: more

def splitWhere (isSeparator : Char → Bool) : List Char → List (List Char)
  | [] => [[]]
  | c :: rest =>
    if isSeparator c then [] :: splitWhere isSeparator rest
    else consFirst c (splitWhere isSeparator rest)

def splitOn (separator : Char) (s : List Char) : List (List Char) :=
  splitWhere (· == separator) s

/-- The maximal runs without separators. -/
def fields (isSeparator : Char → Bool) (s : List Char) : List (List Char) :=
  (splitWhere isSeparator s).filter (!·.isEmpty)

def words (s : List Char) : List (List Char) :=
  fields isBlank s

def joinWith (separator : List Char) : List (List Char) → List Char
  | [] => []
  | [piece] => piece
  | piece :: more => piece ++ separator ++ joinWith separator more

@[simp]
theorem splitWhere_nil (p : Char → Bool) : splitWhere p [] = [[]] := rfl

theorem splitWhere_ne_nil (p : Char → Bool) (s : List Char) : splitWhere p s ≠ [] := by
  cases s with
  | nil => simp
  | cons c rest =>
    unfold splitWhere
    split
    · simp
    · cases splitWhere p rest <;> simp [consFirst]

theorem splitWhere_cons_of_separator {p : Char → Bool} {c : Char} (h : p c = true)
    (s : List Char) : splitWhere p (c :: s) = [] :: splitWhere p s := by
  simp [splitWhere, h]

theorem splitWhere_cons_of_not_separator {p : Char → Bool} {c : Char} (h : p c = false)
    (s : List Char) : splitWhere p (c :: s) = consFirst c (splitWhere p s) := by
  simp [splitWhere, h]

end EnvDoctor.Text
