/-!
# Markup

The console reads texts with tags in brackets, and a text that is to be shown as it is has its tags
escaped by backslashes before it is read. What comes back is the text itself, with two exceptions:
a backslash before a bracket that opens no tag is lost, and a single backslash at the end is
doubled.
-/

namespace EnvDoctor.Markup

def startsTag (c : Char) : Bool :=
  c.isLower || c == '#' || c == '/' || c == '@'

/-- The length of the tag that begins a text, with its brackets. -/
def tagLength? (s : List Char) : Option Nat :=
  match s with
  | '[' :: c :: rest =>
    let inner := rest.takeWhile fun d => d != '[' && d != ']'
    if startsTag c && (rest.drop inner.length).head? == some ']' then some (inner.length + 3)
    else none
  | _ => none

/-- The length of the backslashes at the beginning of a text together with the tag after them. -/
def escapedLength? (s : List Char) : Option Nat :=
  let backslashes := (s.takeWhile (· == '\\')).length
  (tagLength? (s.drop backslashes)).map (backslashes + ·)

/-- A text without the backslashes that stand before brackets which open no tag. -/
def dropEscapes : (fuel : Nat) → List Char → List Char
  | 0, s => s
  | _ + 1, [] => []
  | fuel + 1, c :: rest =>
    match escapedLength? (c :: rest), c, rest with
    | some length, _, _ => (c :: rest).take length ++ dropEscapes fuel ((c :: rest).drop length)
    | none, '\\', '[' :: rest => '[' :: dropEscapes fuel rest
    | none, _, _ => c :: dropEscapes fuel rest

def endsWithBackslash (s : List Char) : Bool :=
  match s.reverse with
  | '\\' :: '\\' :: _ => false
  | '\\' :: _ => true
  | _ => false

def shown (s : String) : String :=
  let cs := s.toList
  String.ofList
    (dropEscapes (cs.length + 1) cs ++ if endsWithBackslash cs then ['\\'] else [])

end EnvDoctor.Markup
