import EnvDoctor.Script.Literal
import EnvDoctor.Value.Written

/-!
# Scripts

A script is a list of lines that assign literals to names. A line may instead raise an error; then
the script fails with its text. All lines are read before the first of them is run.
-/

namespace EnvDoctor.Script

inductive Statement where
  | assign (name : String) (outcome : Outcome)
  | raise (details : List Outcome)

def atLineEnd (s : List Char) : Bool :=
  match s with
  | [] => true
  | c :: _ => c == '\n' || c == '#'

def moreItems : (fuel : Nat) → List Char → Except Fault (List Outcome × List Char)
  | 0, s => .error (.malformed s.length)
  | fuel + 1, s =>
    let s := skip false s
    if atLineEnd s then .ok ([], s)
    else do
      let (v, rest) ← literal false (fuelFor s) s
      let rest := skip false rest
      if rest.head? = some ',' then
        let (more, rest) ← moreItems fuel rest.tail
        .ok (v :: more, rest)
      else .ok ([v], rest)

/-- A literal to the end of its line. Literals with commas after them are a tuple. -/
def assigned (s : List Char) : Except Fault (Outcome × List Char) := do
  let (v, rest) ← literal false (fuelFor s) s
  let rest := skip false rest
  if rest.head? = some ',' then
    let (more, rest) ← moreItems rest.length rest.tail
    .ok (Value.tuple <$> (v :: more).mapM id, rest)
  else .ok (v, rest)

def raised (s : List Char) : Except Fault (List Outcome × List Char) := do
  match "ValueError".toList.isPrefixOf? s with
  | none => .error (.malformed s.length)
  | some rest =>
    let rest := skip false rest
    if rest.head? = some '(' then
      let (details, _, rest) ← items ')' (fuelFor rest) (skip true rest.tail)
      .ok (details, rest)
    else .ok ([], rest)

def statement (s : List Char) : Except Fault (Statement × List Char) := do
  let name := s.takeWhile Text.isIdentifierPart
  let rest := skip false (s.dropWhile Text.isIdentifierPart)
  if !Text.isIdentifier name then .error (.malformed s.length)
  else if String.ofList name = "raise" then
    let (details, rest) ← raised rest
    .ok (.raise details, rest)
  else if rest.head? = some '=' then
    let (v, rest) ← assigned (skip false rest.tail)
    .ok (.assign (String.ofList name) v, rest)
  else .error (.malformed rest.length)

/-- A line begins with blanks that count: a form feed takes away those before it. -/
def isIndented (s : List Char) : Bool :=
  (s.takeWhile isSpace).getLast?.any (· != '\x0c')

def statements : (fuel : Nat) → List Char → Except Fault (List Statement)
  | 0, s => .error (.malformed s.length)
  | fuel + 1, s =>
    let start := s.dropWhile isSpace
    match skipComment start with
    | [] => .ok []
    | '\n' :: rest => statements fuel rest
    | _ => do
      if isIndented s then .error (.indented s.length)
      let (first, rest) ← statement start
      match skipComment (skip false rest) with
      | [] => .ok [first]
      | '\n' :: rest => return first :: (← statements fuel rest)
      | rest => .error (.malformed rest.length)

def errorText : List Value → String
  | [] => ""
  | [v] => v.display
  | details => (Value.tuple details).literal

/-- Runs lines. The result lists the names in the order of assignment. -/
def run : List Statement → Except Fault (List (String × Value))
  | [] => .ok []
  | .assign name outcome :: rest => do
    let v ← outcome
    return (name, v) :: (← run rest)
  | .raise details :: _ => do
    let details ← details.mapM id
    .error (.raised (errorText details))

def read (s : List Char) : Except Fault (List (String × Value)) := do
  run (← statements (s.length + 1) s)

end EnvDoctor.Script
