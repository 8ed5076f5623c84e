/-!
# Cursors

A place in a YAML text: the characters to come, how many have been passed, and the line and the
column. Lines end with a line feed, a carriage return, both in this order, or one of three further
characters; columns count from zero.
-/

namespace EnvDoctor.Yaml

def isBreak (c : Char) : Bool :=
  c == '\r' || c == '\n' || c == '\x85' || c == '\u2028' || c == '\u2029'

def isSpaceOrTab (c : Char) : Bool :=
  c == ' ' || c == '\t'

def endsLine (c : Option Char) : Bool :=
  c.all isBreak

def endsLineOrSpace (c : Option Char) : Bool :=
  c.all fun c => isBreak c || c == ' '

/-- The end of the text or of a line, a space or a tab. -/
def endsWord (c : Option Char) : Bool :=
  c.all fun c => isBreak c || isSpaceOrTab c

structure Cursor where
  rest : List Char
  index : Nat
  line : Nat
  column : Nat

namespace Cursor

def start (text : List Char) : Cursor :=
  ⟨text, 0, 0, 0⟩

def peek (c : Cursor) (ahead : Nat) : Option Char :=
  c.rest[ahead]?

def head (c : Cursor) : Option Char :=
  c.rest.head?

def at_ (c : Cursor) (x : Char) : Bool :=
  c.head == some x

/-- Passes one character. The first half of a line end of two characters ends no line. -/
def step (c : Cursor) : Cursor :=
  match c.rest with
  | [] => c
  | x :: rest =>
    if isBreak x && !(x == '\r' && rest.head? == some '\n') then
      ⟨rest, c.index + 1, c.line + 1, 0⟩
    else ⟨rest, c.index + 1, c.line, if x = '\uFEFF' then c.column else c.column + 1⟩

def steps (c : Cursor) : Nat → Cursor
  | 0 => c
  | n + 1 => c.step.steps n

def skipWhile (c : Cursor) (test : Char → Bool) : Cursor :=
  c.steps (c.rest.takeWhile test).length

def takeWhile (c : Cursor) (test : Char → Bool) : List Char × Cursor :=
  (c.rest.takeWhile test, c.skipWhile test)

/-- Takes a line end if there is one: a line feed for the common ones, else the character. -/
def lineBreak (c : Cursor) : List Char × Cursor :=
  match c.rest with
  | '\r' :: '\n' :: _ => (['\n'], c.steps 2)
  | x :: _ =>
    if x = '\u2028' ∨ x = '\u2029' then ([x], c.step)
    else if isBreak x then (['\n'], c.step)
    else ([], c)
  | [] => ([], c)

def indentTo (c : Cursor) (column : Nat) : Cursor :=
  c.steps (min (column - c.column) (c.rest.takeWhile (· == ' ')).length)

/-- Three hyphens or three points stand here, followed by the end of a word. -/
def atDocumentMark (c : Cursor) : Bool :=
  let mark := c.rest.take 3
  (mark == ['-', '-', '-'] || mark == ['.', '.', '.']) && endsWord (c.peek 3)

end Cursor

end EnvDoctor.Yaml
