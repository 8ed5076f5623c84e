/-!
# Operators

The seven comparison operators of a requirement.
-/

namespace EnvDoctor

inductive Operator where
  | equal
  | atLeast
  | atMost
  | above
  | below
  | caret
  | tilde
  deriving DecidableEq, Repr

namespace Operator

def symbol : Operator → String
  | equal => "="
  | atLeast => ">="
  | atMost => "<="
  | above => ">"
  | below => "<"
  | caret => "^"
  | tilde => "~"

/-- All operators, in the order in which messages list them. -/
def all : List Operator :=
  [equal, atLeast, atMost, above, below, caret, tilde]

/-- All operators, an operator before every other one that it begins with. -/
def longestFirst : List Operator :=
  [atLeast, atMost, equal, above, below, caret, tilde]

def ofSymbol? (s : String) : Option Operator :=
  all.find? fun op => op.symbol == s

def listing : String :=
  ", ".intercalate (all.map symbol)

theorem toList_symbol_ne_nil (op : Operator) : op.symbol.toList ≠ [] := by
  cases op <;> decide

@[simp]
theorem ofSymbol?_symbol (op : Operator) : ofSymbol? op.symbol = some op := by
  cases op <;> decide

theorem eq_symbol_of_ofSymbol? {s : String} {op : Operator} (h : ofSymbol? s = some op) :
    s = op.symbol := by
  have found := List.find?_some (p := fun o : Operator => o.symbol == s) h
  simp only [beq_iff_eq] at found
  exact found.symm

end Operator

end EnvDoctor
