import EnvDoctor.Text.Ascii
import EnvDoctor.Text.Blank
import EnvDoctor.Text.CaseFold
import EnvDoctor.Text.Digit
import EnvDoctor.Text.Surrogate
import EnvDoctor.Text.Word

/-!
# Patterns

The syntax of regular expressions over Unicode text: character classes, anchors, groups,
alternation, repetition, references to groups and assertions. Characters are given by their code
points, since a pattern can name half of a surrogate pair.
-/

namespace EnvDoctor

namespace Pattern

structure Mode where
  ignoreCase : Bool := false
  multiline : Bool := false
  dotAll : Bool := false
  verbose : Bool := false
  ascii : Bool := false
  deriving DecidableEq, Repr

inductive ClassItem where
  | char (code : Nat)
  | range (low high : Nat)
  | digit (negated : Bool)
  | space (negated : Bool)
  | word (negated : Bool)
  deriving DecidableEq, Repr

/-- A digit, in the ASCII range only if `ascii`. -/
def isDigitIn (ascii : Bool) (c : Char) : Bool :=
  if ascii then c.isDigit else Text.isDigit c

def isSpaceIn (ascii : Bool) (c : Char) : Bool :=
  if ascii then Text.isAsciiBlank c else Text.isBlank c

def isWordIn (ascii : Bool) (c : Char) : Bool :=
  if ascii then c.isAlphanum || c == '_' else Text.isWord c

def loweredIn (ascii : Bool) (c : Char) : Char :=
  if ascii then Text.asciiLower c else Text.lower c

/-- The characters that count as the same when case is ignored, in the ASCII range only if
`ascii`. -/
def variantsIn (ascii : Bool) (c : Char) : List Char :=
  if ascii then Text.asciiCaseVariants c else Text.caseVariants c

def basicPlaneEnd : Nat := 0xFFFF

def inRange (low high code : Nat) : Bool :=
  low ≤ code && code ≤ high

def ClassItem.holds (ascii : Bool) (c : Char) : ClassItem → Bool
  | .char code => Text.codePoint c == code
  | .range low high => inRange low high (Text.codePoint c)
  | .digit negated => isDigitIn ascii c != negated
  | .space negated => isSpaceIn ascii c != negated
  | .word negated => isWordIn ascii c != negated

/-- A member of a class of several members holds a character, ignoring case. Within the basic
plane it holds the variants of its characters. Beyond that plane a single member holds the lower
case character only, and a range the lower and the upper case form. -/
def ClassItem.holdsFolded (ascii : Bool) (c : Char) : ClassItem → Bool
  | .char code =>
    if code ≤ basicPlaneEnd then (variantsIn ascii c).any (Text.codePoint · == code)
    else Text.codePoint (loweredIn ascii c) == code
  | .range low high =>
    ((variantsIn ascii c).any fun v =>
      Text.codePoint v ≤ basicPlaneEnd && inRange low high (Text.codePoint v)) ||
      (basicPlaneEnd < high &&
        (inRange low high (Text.codePoint (loweredIn ascii c)) ||
          inRange low high (Text.codePoint (Text.upper (loweredIn ascii c)))))
  | item => item.holds ascii (loweredIn ascii c)

structure CharClass where
  negated : Bool := false
  items : List ClassItem
  ignoreCase : Bool := false
  ascii : Bool := false
  deriving DecidableEq, Repr

/-- The members of a class hold a character. A member that stands alone holds all variants of its
character when case is ignored. -/
def CharClass.includes (s : CharClass) (c : Char) : Bool :=
  if s.ignoreCase then
    match s.items with
    | [.char code] => (variantsIn s.ascii c).any (Text.codePoint · == code)
    | items => items.any (·.holdsFolded s.ascii c)
  else s.items.any (·.holds s.ascii c)

def CharClass.holds (s : CharClass) (c : Char) : Bool :=
  s.includes c != s.negated

inductive Anchor where
  | textStart
  | lineStart
  | textEnd
  /-- The end of the text, or the place before a line feed that ends it. -/
  | lastLineEnd
  | lineEnd
  | wordEdge (negated ascii : Bool)
  deriving DecidableEq, Repr

/-- How a repetition prefers its number of rounds. A possessive one gives no round back. -/
inductive Preference where
  | greedy
  | lazy
  | possessive
  deriving DecidableEq, Repr

/-- Patterns. Groups are numbered from one, in the order of their opening. -/
inductive Node where
  | empty
  | one (s : CharClass)
  /-- Any character, a line feed only if it is admitted. -/
  | any (lineFeed : Bool)
  | anchor (a : Anchor)
  | seq (first second : Node)
  | alt (first second : Node)
  /-- A group with a number keeps what it matches; one without only sets modes for its body. -/
  | group (number : Option Nat) (body : Node)
  | atomic (body : Node)
  | rep (least : Nat) (most : Option Nat) (preference : Preference) (body : Node)
  | backref (number : Nat) (ignoreCase ascii : Bool) (least : Nat) (most : Option Nat)
  | ifGroup (number : Nat) (yes no : Node)
  /-- What follows the place, or what precedes it by `behind` characters. -/
  | look (negated : Bool) (behind : Option Nat) (body : Node)
  deriving DecidableEq, Repr

/-- The least and, if there is one, the greatest number of characters that a node takes. -/
def Node.width : Node → Nat × Option Nat
  | empty => (0, some 0)
  | one _ => (1, some 1)
  | any _ => (1, some 1)
  | anchor _ => (0, some 0)
  | seq a b =>
    let (l, h) := a.width
    let (l', h') := b.width
    (l + l', do return (← h) + (← h'))
  | alt a b =>
    let (l, h) := a.width
    let (l', h') := b.width
    (min l l', do return max (← h) (← h'))
  | group _ body => body.width
  | atomic body => body.width
  | rep least most _ body =>
    let (l, h) := body.width
    let high := match most, h with
      | some m, some h => some (m * h)
      | none, some 0 => some 0
      | _, _ => none
    (least * l, high)
  | backref _ _ _ least most => (least, most)
  | ifGroup _ yes no =>
    let (l, h) := yes.width
    let (l', h') := no.width
    (min l l', do return max (← h) (← h'))
  | look _ _ _ => (0, some 0)

def Node.literal (c : Char) : Node :=
  .one { items := [.char (Text.codePoint c)] }

def Node.sequence : List Node → Node
  | [] => .empty
  | [n] => n
  | n :: rest => .seq n (sequence rest)

/-- A node without parts. Only such nodes are compared with one another. -/
def Node.isLeaf : Node → Bool
  | one _ | any _ | anchor _ | backref .. => true
  | _ => false

/-- The leaves with which both a sequence and all other sequences begin, and what remains of them,
of the first sequence first. -/
def Node.splitCommon : List Node → List (List Node) → List Node × List (List Node)
  | [], others => ([], [] :: others)
  | n :: first, others =>
    if n.isLeaf && others.all (·.head? = some n) then
      let (common, rests) := splitCommon first (others.map (·.drop 1))
      (n :: common, rests)
    else ([], (n :: first) :: others)

/-- The members of a class that is not negated, as the only node of a sequence. -/
def Node.singleItems? : List Node → Option (List ClassItem)
  | [.one s] => if s.negated then none else some s.items
  | _ => none

def Node.firstOf : List (List Node) → Node
  | [] => .empty
  | [s] => .sequence s
  | s :: rest => .alt (.sequence s) (firstOf rest)

/-- Alternatives: what they begin with in common is taken first, and if single characters remain
they are one class. -/
def Node.choice (mode : Mode) : List (List Node) → List Node
  | [] => []
  | [only] => only
  | first :: others =>
    let (common, rests) := splitCommon first others
    match rests.mapM singleItems? with
    | some items => common ++ [.one ⟨false, items.flatten.eraseDups, mode.ignoreCase, mode.ascii⟩]
    | none => common ++ [firstOf rests]

end Pattern

structure Pattern where
  source : String
  groups : Nat
  body : Pattern.Node
  deriving DecidableEq, Repr

end EnvDoctor
