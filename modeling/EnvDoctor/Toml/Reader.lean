import EnvDoctor.Toml.Scalar
import EnvDoctor.Toml.Tree

/-!
# Reading TOML

A document is read statement by statement: headers of tables and of arrays of tables, and keys
with values. Reading fails on a text that breaks the grammar and on a statement that contradicts
an earlier one.
-/

namespace EnvDoctor.Toml

def isBareKeyChar (c : Char) : Bool :=
  c.isAlphanum || c == '-' || c == '_'

def skipSpace (s : List Char) : List Char :=
  s.dropWhile isSpace

def keyPart? (s : List Char) : Option (String × List Char) :=
  let bare := s.takeWhile isBareKeyChar
  if bare.isEmpty then lineString? s else some (String.ofList bare, s.dropWhile isBareKeyChar)

def key? : (fuel : Nat) → List Char → Option (List String × List Char)
  | 0, _ => none
  | fuel + 1, s => do
    let (part, rest) ← keyPart? s
    match skipSpace rest with
    | '.' :: rest =>
      let (parts, rest) ← key? fuel (skipSpace rest)
      some (part :: parts, rest)
    | rest => some ([part], rest)

/-- Drops a comment; control characters are not allowed in it. -/
def skipComment? (s : List Char) : Option (List Char) :=
  match s with
  | '#' :: rest =>
    if (rest.takeWhile (· != '\n')).any isControl then none else some (rest.dropWhile (· != '\n'))
  | _ => some s

def skipFiller? : (fuel : Nat) → List Char → Option (List Char)
  | 0, _ => none
  | fuel + 1, s =>
    match s.dropWhile isSpaceOrNewline with
    | '#' :: rest => do
      let rest ← skipComment? ('#' :: rest)
      skipFiller? fuel rest
    | rest => some rest

def skipAllFiller? (s : List Char) : Option (List Char) :=
  skipFiller? (s.length + 1) s

mutual

def value : (fuel : Nat) → List Char → Except Fault (Value × List Char)
  | 0, _ => .error .malformed
  | fuel + 1, s =>
    match s with
    | '"' :: _ | '\'' :: _ => do
      let (text, rest) ← orMalformed (string? s)
      return (.text text, rest)
    | '[' :: rest => do
      let rest ← orMalformed (skipAllFiller? rest)
      let (items, rest) ← items fuel rest
      return (.list items, rest)
    | '\x7b' :: rest =>
      match skipSpace rest with
      | '\x7d' :: rest => .ok (.table [], rest)
      | rest => do
        let (entries, rest) ← inlineMembers [] fuel rest
        return (.table (Tree.entryValues entries), rest)
    | _ =>
      match after? "true" s, after? "false" s with
      | some rest, _ => .ok (.bool true, rest)
      | none, some rest => .ok (.bool false, rest)
      | none, none => scalar s

def items : (fuel : Nat) → List Char → Except Fault (List Value × List Char)
  | 0, _ => .error .malformed
  | fuel + 1, s =>
    match s with
    | ']' :: rest => .ok ([], rest)
    | _ => do
      let (v, rest) ← value fuel s
      match ← orMalformed (skipAllFiller? rest) with
      | ']' :: rest => return ([v], rest)
      | ',' :: rest =>
        let rest ← orMalformed (skipAllFiller? rest)
        let (more, rest) ← items fuel rest
        return (v :: more, rest)
      | _ => throw .malformed

/-- Reads the entries of an inline table, of which there is at least one more, up to its closing
brace. -/
def inlineMembers (entries : Entries) : (fuel : Nat) → List Char →
    Except Fault (Entries × List Char)
  | 0, _ => .error .malformed
  | fuel + 1, s => do
    let (path, v, rest) ← pair fuel s
    let (way, last) ← orMalformed (splitLast? path)
    let entries ← orMalformed (addDotted? 0 v last way entries)
    match skipSpace rest with
    | '\x7d' :: rest => return (entries, rest)
    | ',' :: rest => inlineMembers entries fuel (skipSpace rest)
    | _ => throw .malformed

def pair : (fuel : Nat) → List Char → Except Fault (List String × Value × List Char)
  | 0, _ => .error .malformed
  | fuel + 1, s => do
    let (path, rest) ← orMalformed (key? (s.length + 1) s)
    let rest ← orMalformed (after? "=" rest)
    let (v, rest) ← value fuel (skipSpace rest)
    return (path, v, rest)

end

/-- A document that is being read: its entries, the table that keys go to, and how many headers
have come so far. -/
structure Draft where
  entries : Entries
  header : List String
  count : Nat

def Draft.start : Draft :=
  ⟨[], [], 0⟩

def Draft.add? (d : Draft) (path : List String) (v : Value) : Option Draft := do
  let (way, last) ← splitLast? path
  let entries ← within? (addDotted? d.count v last way) d.header d.entries
  some { d with entries }

def Draft.declare? (d : Draft) (path : List String) : Option Draft := do
  let (way, last) ← splitLast? path
  let entries ← within? (Toml.declare? (d.count + 1) last) way d.entries
  some ⟨entries, path, d.count + 1⟩

def Draft.append? (d : Draft) (path : List String) : Option Draft := do
  let (way, last) ← splitLast? path
  let entries ← within? (Toml.append? last) way d.entries
  some ⟨entries, path, d.count + 1⟩

def header? (closing : String) (change : List String → Option Draft) (s : List Char) :
    Option (Draft × List Char) := do
  let (path, rest) ← key? (s.length + 1) (skipSpace s)
  let d ← change path
  let rest ← after? closing rest
  some (d, rest)

def statement (d : Draft) (s : List Char) : Except Fault (Draft × List Char) :=
  match s with
  | '[' :: '[' :: rest => orMalformed (header? "]]" d.append? rest)
  | '[' :: rest => orMalformed (header? "]" d.declare? rest)
  | _ => do
    let (path, v, rest) ← pair (3 * s.length + 4) s
    let d ← orMalformed (d.add? path v)
    return (d, rest)

def statements (d : Draft) : (fuel : Nat) → List Char → Except Fault Draft
  | 0, _ => .error .malformed
  | fuel + 1, s => do
    let s := skipSpace s
    let (d, rest) ← match s with
      | [] | '\n' :: _ | '#' :: _ => pure (d, s)
      | _ => statement d s
    match ← orMalformed (skipComment? (skipSpace rest)) with
    | [] => return d
    | '\n' :: rest => statements d fuel rest
    | _ => throw .malformed

def joinNewlines : List Char → List Char
  | '\r' :: '\n' :: rest => '\n' :: joinNewlines rest
  | c :: rest => c :: joinNewlines rest
  | [] => []

def read (s : List Char) : Except Fault Value := do
  let s := joinNewlines s
  let d ← statements .start (s.length + 1) s
  return .table (Tree.entryValues d.entries)

end EnvDoctor.Toml
