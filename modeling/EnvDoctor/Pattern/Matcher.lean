import EnvDoctor.Pattern.Basic

/-!
# Matching

A pattern is matched from a place in a text by trying, in order of preference, every way in which
it can take the characters that follow. `run` hands each place that a node can reach to a
continuation and keeps the first way with which the continuation agrees; it recurses on the
pattern, and a repetition goes on only as long as its rounds make progress.
-/

namespace EnvDoctor.Pattern

/-- What a group has matched: the characters from `start` to `stop`. -/
structure Capture where
  group : Nat
  start : Nat
  stop : Nat
  deriving DecidableEq, Repr

/-- A place in a text, with the characters before it in reverse order, and the groups that have
matched so far, the latest first. -/
structure Place where
  before : List Char
  after : List Char
  position : Nat
  captures : List Capture
  deriving DecidableEq, Repr

namespace Place

def start (text : List Char) : Place :=
  ⟨[], text, 0, []⟩

def next? (p : Place) : Option Place :=
  match p.after with
  | [] => none
  | c :: rest => some { p with before := c :: p.before, after := rest, position := p.position + 1 }

def back? (p : Place) : Nat → Option Place
  | 0 => some p
  | n + 1 =>
    match p.before with
    | [] => none
    | c :: rest =>
      back? { p with before := rest, after := c :: p.after, position := p.position - 1 } n

def capture (p : Place) (group start : Nat) : Place :=
  { p with captures := ⟨group, start, p.position⟩ :: p.captures }

/-- The place with a group opened anew. What the group has matched before counts inside it only if
that ended here. -/
def reopen (p : Place) (group : Nat) : Place :=
  { p with captures := p.captures.filter fun c => c.group != group || c.stop == p.position }

def find? (p : Place) (group : Nat) : Option Capture :=
  p.captures.find? (·.group == group)

/-- The characters that a capture holds. A capture made while looking ahead may reach beyond the
place. -/
def textOf (p : Place) (c : Capture) : List Char :=
  ((p.before.reverse ++ p.after).drop c.start).take (c.stop - c.start)

def holds (p : Place) : Anchor → Bool
  | .textStart => p.before.isEmpty
  | .lineStart => p.before.isEmpty || p.before.head? == some '\n'
  | .textEnd => p.after.isEmpty
  | .lastLineEnd => p.after.isEmpty || p.after == ['\n']
  | .lineEnd => p.after.isEmpty || p.after.head? == some '\n'
  | .wordEdge negated ascii =>
    let isWord (s : List Char) := s.head?.any (isWordIn ascii)
    (isWord p.before != isWord p.after) != negated

end Place

def takeText (ignoreCase ascii : Bool) : List Char → Place → Option Place
  | [], p => some p
  | c :: rest, p =>
    match p.after with
    | [] => none
    | d :: _ =>
      let same := if ignoreCase then loweredIn ascii c == loweredIn ascii d else c == d
      if same then p.next?.bind (takeText ignoreCase ascii rest) else none

/-- A continuation: what has to match from a place on. -/
abbrev Cont := Place → Option Place

def times (step : Place → Cont → Option Place) : Nat → Place → Cont → Option Place
  | 0, p, k => k p
  | n + 1, p, k => step p fun q => times step n q k

/-- Makes as many further rounds of `step` as go, or as few as do. `most` is how many there may be
and `last` where the last round began; no round begins there again. Every round but one takes a
character, so that a fuel longer than the rest of the text is never used up. -/
def rounds (step : Place → Cont → Option Place) (fewest : Bool) (k : Cont) :
    (fuel : List Char) → (most last : Option Nat) → Place → Option Place
  | [], _, _, p => k p
  | _ :: fuel, most, last, p =>
    let again (_ : Unit) :=
      if most != some 0 && last != some p.position then
        step p (rounds step fewest k fuel (most.map (· - 1)) (some p.position))
      else none
    if fewest then (k p).or (again ()) else (again ()).or (k p)

def repeated (step : Place → Cont → Option Place) (least : Nat) (most : Option Nat)
    (fewest : Bool) (p : Place) (k : Cont) : Option Place :=
  times step least p fun q => rounds step fewest k (' ' :: ' ' :: q.after) most none q

/-- A step that keeps the first way in which it goes. -/
def settled (step : Place → Cont → Option Place) (p : Place) (k : Cont) : Option Place :=
  (step p some).bind k

def run : Node → Place → Cont → Option Place
  | .empty, p, k => k p
  | .one s, p, k =>
    match p.after with
    | [] => none
    | c :: _ => if s.holds c then p.next?.bind k else none
  | .any lineFeed, p, k =>
    match p.after with
    | [] => none
    | c :: _ => if lineFeed || c != '\n' then p.next?.bind k else none
  | .anchor a, p, k => if p.holds a then k p else none
  | .seq a b, p, k => run a p fun q => run b q k
  | .alt a b, p, k => (run a p k).or (run b p k)
  | .group none body, p, k => run body p k
  | .group (some number) body, p, k =>
    run body (p.reopen number) fun q => k (q.capture number p.position)
  | .atomic body, p, k => settled (run body) p k
  | .rep least most preference body, p, k =>
    let further := most.map (· - least)
    match preference with
    | .greedy => repeated (run body) least further false p k
    | .lazy => repeated (run body) least further true p k
    | .possessive =>
      settled (repeated (settled (run body)) least further false) p k
  | .backref number ignoreCase ascii _ _, p, k =>
    match p.find? number with
    | none => none
    | some c => (takeText ignoreCase ascii (p.textOf c) p).bind k
  | .ifGroup number yes no, p, k => if (p.find? number).isSome then run yes p k else run no p k
  | .look negated behind body, p, k =>
    let found := (p.back? (behind.getD 0)).bind fun q => run body q some
    match negated, found with
    | false, some q => k { p with captures := q.captures }
    | true, none => k p
    | _, _ => none

structure Match where
  whole : List Char
  groups : List (Option (List Char))
  deriving DecidableEq, Repr

def Match.between (groups : Nat) (p q : Place) : Match where
  whole := q.textOf ⟨0, p.position, q.position⟩
  groups := (List.range groups).map fun i => (q.find? (i + 1)).map q.textOf

/-- The first match from a place on, trying the further places one by one. -/
def searchFrom (groups : Nat) (body : Node) : (after before : List Char) → (position : Nat) →
    Option Match
  | [], before, position =>
    let p : Place := ⟨before, [], position, []⟩
    (run body p some).map (Match.between groups p)
  | c :: rest, before, position =>
    let p : Place := ⟨before, c :: rest, position, []⟩
    match run body p some with
    | some q => some (Match.between groups p q)
    | none => searchFrom groups body rest (c :: before) (position + 1)

def search (p : EnvDoctor.Pattern) (text : List Char) : Option Match :=
  searchFrom p.groups p.body text [] 0

/-- What a match yields: its first group if the pattern has groups, else the whole of it. -/
def Match.yield (m : Match) : Option (List Char) :=
  match m.groups with
  | [] => some m.whole
  | first :: _ => first

end EnvDoctor.Pattern
