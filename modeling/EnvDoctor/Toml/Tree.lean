import EnvDoctor.Value.Basic

/-!
# TOML documents under construction

A document grows statement by statement. A table is open for further keys as long as nothing has
fixed it: a header declares a table once, and dotted keys open a table for their own section
only. A value that is written out, be it an array or an inline table, cannot be extended.
-/

namespace EnvDoctor.Toml

inductive Origin where
  /-- It stands on the way to another table. -/
  | implicit
  /-- Dotted keys of a section have opened it. -/
  | dotted (section_ : Nat)
  /-- A header has declared it. -/
  | declared
  deriving DecidableEq, Repr

inductive Tree where
  | leaf (v : Value)
  | table (origin : Origin) (entries : List (String × Tree))
  /-- An array of tables, the current one first. -/
  | tables (current : List (String × Tree)) (earlier : List (List (String × Tree)))

abbrev Entries := List (String × Tree)

namespace Tree

mutual

def toValue : Tree → Value
  | leaf v => v
  | table _ entries => .table (entryValues entries)
  | tables current earlier => .list ((tableValues earlier).reverse ++ [.table (entryValues current)])

def entryValues : List (String × Tree) → List (Value × Value)
  | [] => []
  | (key, tree) :: rest => (.text key, tree.toValue) :: entryValues rest

def tableValues : List (List (String × Tree)) → List Value
  | [] => []
  | entries :: rest => .table (entryValues entries) :: tableValues rest

end

/-- Nothing can be declared or opened here by the dotted keys of a section. -/
def isFixed (current : Nat) : Tree → Bool
  | leaf _ | tables _ _ => true
  | table .implicit _ => false
  | table (.dotted s) _ => s < current
  | table .declared _ => true

/-- Changes the entries of a table, or of the current table of an array. -/
def modify? (f : Entries → Option Entries) : Tree → Option Tree
  | leaf _ => none
  | table origin entries => (f entries).map (table origin)
  | tables current earlier => (f current).map fun entries => tables entries earlier

end Tree

def alter? (key : String) (f : Option Tree → Option Tree) : Entries → Option Entries
  | [] => (f none).map fun tree => [(key, tree)]
  | (k, tree) :: rest =>
    if k = key then (f (some tree)).map fun tree => (k, tree) :: rest
    else (alter? key f rest).map ((k, tree) :: ·)

/-- Changes the entries at the end of a path; tables that are missing on the way are implicit. -/
def within? (f : Entries → Option Entries) : List String → Entries → Option Entries
  | [], entries => f entries
  | key :: path, entries =>
    alter? key (fun
      | some tree => tree.modify? (within? f path)
      | none => (within? f path []).map (.table .implicit)) entries

def addNew? (key : String) (v : Value) (entries : Entries) : Option Entries :=
  if entries.any (·.1 == key) then none else some (entries ++ [(key, .leaf v)])

/-- Adds a value under a dotted key. The tables on its way are opened for the section; a table
that is fixed cannot be opened. -/
def addDotted? (current : Nat) (v : Value) (last : String) : List String → Entries → Option Entries
  | [], entries => addNew? last v entries
  | key :: path, entries =>
    alter? key (fun
      | some (.table origin inner) =>
        if (Tree.table origin inner).isFixed current then none
        else (addDotted? current v last path inner).map (.table (.dotted current))
      | some _ => none
      | none => (addDotted? current v last path []).map (.table (.dotted current))) entries

def declare? (current : Nat) (key : String) : Entries → Option Entries :=
  alter? key fun
    | none => some (.table .declared [])
    | some (.table origin inner) =>
      if (Tree.table origin inner).isFixed current then none else some (.table .declared inner)
    | some _ => none

def append? (key : String) : Entries → Option Entries :=
  alter? key fun
    | none => some (.tables [] [])
    | some (.tables latest earlier) => some (.tables [] (latest :: earlier))
    | some _ => none

def splitLast? : List String → Option (List String × String)
  | [] => none
  | [key] => some ([], key)
  | key :: rest => (splitLast? rest).map fun (way, last) => (key :: way, last)

end EnvDoctor.Toml
