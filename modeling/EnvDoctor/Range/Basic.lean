import EnvDoctor.Operator
import EnvDoctor.Version.Library

/-!
# Ranges

A range is a list of alternatives, each of them a list of comparators that must all hold. The
caret, the tilde and incomplete versions are shorthand: `expand` writes them with the five plain
relations. An upper end that stands for a whole series of versions excludes the prereleases of
the first version beyond the series.
-/

namespace EnvDoctor

inductive Relation where
  | equal
  | atLeast
  | above
  | atMost
  | below
  deriving DecidableEq, Repr

def Relation.symbol : Relation → String
  | .equal => "="
  | .atLeast => ">="
  | .above => ">"
  | .atMost => "<="
  | .below => "<"

def Relation.allows : Relation → Ordering → Bool
  | .equal, o => o.isEq
  | .atLeast, o => o.isGE
  | .above, o => o.isGT
  | .atMost, o => o.isLE
  | .below, o => o.isLT

structure Comparator where
  relation : Relation
  bound : Version
  deriving DecidableEq, Repr

def Comparator.test [VersionLibrary] (c : Comparator) (v : Version) : Except String Bool := do
  return c.relation.allows (← VersionLibrary.compare v c.bound)

/-- A version of which the last one or two numbers may be left out. -/
inductive PartialVersion where
  | major (a : Nat)
  | minor (a b : Nat)
  | full (v : Version)
  deriving DecidableEq, Repr

namespace PartialVersion

/-- The version with zeros for the numbers that are left out. -/
def lower : PartialVersion → Version
  | major a => .release a 0 0
  | minor a b => .release a b 0
  | full v => v

/-- The lowest version of the next series: of the next major number if that is all that is given,
and of the next minor number otherwise. -/
def next : PartialVersion → Version
  | major a => .floor (a + 1) 0 0
  | minor a b => .floor a (b + 1) 0
  | full v => .floor v.major (v.minor + 1) 0

/-- The lowest version in which the leftmost number that is not zero has changed; if all given
numbers are zero, the last of them. -/
def caretTop : PartialVersion → Version
  | major a => .floor (a + 1) 0 0
  | minor a b => if a ≠ 0 then .floor (a + 1) 0 0 else .floor 0 (b + 1) 0
  | full v =>
    if v.major ≠ 0 then .floor (v.major + 1) 0 0
    else if v.minor ≠ 0 then .floor 0 (v.minor + 1) 0
    else .floor 0 0 (v.patch + 1)

/-- The series between two versions, the lower one included. -/
def series (low high : Version) : List Comparator :=
  [⟨.atLeast, low⟩, ⟨.below, high⟩]

def expand (p : PartialVersion) : Operator → List Comparator
  | .equal => match p with
    | full v => [⟨.equal, v⟩]
    | _ => series p.lower p.next
  | .atLeast => [⟨.atLeast, p.lower⟩]
  | .above => match p with
    | full v => [⟨.above, v⟩]
    | _ => [⟨.atLeast, p.next.core⟩]
  | .below => match p with
    | full v => [⟨.below, v⟩]
    | _ => [⟨.below, ⟨p.lower.major, p.lower.minor, p.lower.patch, [['0']]⟩⟩]
  | .atMost => match p with
    | full v => [⟨.atMost, v⟩]
    | _ => [⟨.below, p.next⟩]
  | .tilde => series p.lower p.next
  | .caret => series p.lower p.caretTop

end PartialVersion

/-- Alternatives of comparators that must all hold. -/
abbrev Range := List (List Comparator)

/-- Whether a version satisfies all comparators of some alternative. No comparator is tested that
cannot matter any more. -/
def Range.test [VersionLibrary] (r : Range) (v : Version) : Except String Bool :=
  r.anyM fun alternative => alternative.allM (·.test v)

end EnvDoctor
