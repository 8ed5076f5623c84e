import EnvDoctor.Pattern.Basic
import EnvDoctor.Pattern.Fault

/-!
# Tokens of patterns

A pattern is read as characters and escapes, an escape being a backslash and the character after
it. The reader looks one token ahead, so a backslash at the very end is reported as soon as it
comes next.
-/

namespace EnvDoctor.Pattern

inductive Token where
  | char (c : Char)
  | escape (c : Char)
  | dangling
  deriving DecidableEq, Repr

namespace Token

def text : Token → List Char
  | char c => [c]
  | escape c => ['\\', c]
  | dangling => ['\\']

def scan : List Char → List Token
  | [] => []
  | '\\' :: c :: rest => escape c :: scan rest
  | '\\' :: [] => [dangling]
  | c :: rest => char c :: scan rest

end Token

/-- The state of reading a pattern: the tokens to come and the position of the first of them, the
widths of the groups that have been opened (absent while a group is open), their names, and what
has been noted for the end. -/
structure Reader where
  tokens : List Token
  position : Nat
  widths : List (Option (Nat × Option Nat)) := []
  names : List (List Char × Nat) := []
  /-- Inside an assertion about what precedes: the number that the next group had at its start. -/
  lookbehindGroups : Option Nat := none
  conditions : List (Nat × Nat) := []
  mode : Mode := {}
  unicode : Bool := false
  /-- No repetition is admitted. -/
  template : Bool := false

abbrev Read := StateT Reader (Except Fault)

namespace Read

def failAt {α : Type} (position : Nat) (cause : Cause) : Read α :=
  throw (.malformed cause (some position))

/-- Fails with a cause, `back` characters before the next token. -/
def failBack {α : Type} (back : Nat) (cause : Cause) : Read α := do
  failAt ((← get).position - back) cause

def fail {α : Type} (cause : Cause) : Read α :=
  failBack 0 cause

def checkNext : Read Unit := do
  let r ← get
  match r.tokens with
  | .dangling :: _ => failAt r.position .escapeAtEnd
  | _ => pure ()

def peek : Read (Option Token) :=
  return (← get).tokens.head?

def next : Read (Option Token) := do
  let r ← get
  match r.tokens with
  | [] => return none
  | t :: rest =>
    set { r with tokens := rest, position := r.position + t.text.length }
    checkNext
    return some t

def accept (c : Char) : Read Bool := do
  if (← peek) = some (.char c) then
    let _ ← next
    return true
  else return false

def takeUpTo (test : Char → Bool) : Nat → Read (List Char)
  | 0 => return []
  | n + 1 => do
    match ← peek with
    | some (.char c) =>
      if test c then
        let _ ← next
        return c :: (← takeUpTo test n)
      else return []
    | _ => return []

def takeWhile (test : Char → Bool) : Read (List Char) := do
  takeUpTo test (← get).tokens.length

/-- Takes a name up to its terminator, of which there are `fuel` tokens at most. -/
def nameFrom (terminator : Char) (what : String) (taken : List Char) : Nat → Read (List Char)
  | 0 => fail .unexpectedEnd
  | fuel + 1 => do
    match ← next with
    | none =>
      if taken.isEmpty then fail (.missingName what)
      else failBack taken.length (.unterminatedName terminator)
    | some t =>
      if t = .char terminator then
        if taken.isEmpty then failBack 1 (.missingName what) else return taken
      else nameFrom terminator what (taken ++ t.text) fuel

def name (terminator : Char) (what : String) : Read (List Char) := do
  nameFrom terminator what [] ((← get).tokens.length + 1)

def groupCount : Read Nat :=
  return (← get).widths.length + 1

def closedWidth? (group : Nat) : Read (Option (Nat × Option Nat)) := do
  let widths := (← get).widths
  return if group = 0 then none else (widths[group - 1]?).join

/-- Complains about a reference to a group inside an assertion about what precedes. -/
def checkLookbehind (group : Nat) : Read Unit := do
  match (← get).lookbehindGroups with
  | none => pure ()
  | some limit =>
    if (← closedWidth? group).isNone then fail .openGroup
    if group ≥ limit then fail .groupOfLookbehind

def openGroup (name : Option (List Char)) : Read Nat := do
  let number ← groupCount
  modify fun r => { r with widths := r.widths ++ [none] }
  match name with
  | none => pure ()
  | some name =>
    match (← get).names.lookup name with
    | some earlier => failBack (name.length + 1) (.duplicateName name number earlier)
    | none => modify fun r => { r with names := r.names ++ [(name, number)] }
  return number

def closeGroup (group : Nat) (body : Node) : Read Unit :=
  modify fun r => { r with widths := r.widths.set (group - 1) (some body.width) }

end Read

end EnvDoctor.Pattern
