/-!
# Tables of text

Rows of cells under a heavy head, each column as wide as its widest cell, with the title in the
middle above them.
-/

namespace EnvDoctor.TextTable

def widths (rows : List (List String)) : List Nat :=
  rows.foldr (fun row widths => zipMax (row.map String.length) widths) []
where
  zipMax : List Nat → List Nat → List Nat
    | [], widths => widths
    | widths, [] => widths
    | a :: as, b :: bs => max a b :: zipMax as bs

def repeated (count : Nat) (s : String) : String :=
  String.join (List.replicate count s)

def padded (width : Nat) (cell : String) : String :=
  cell ++ repeated (width - cell.length) " "

def rule (left fill joint right : String) (widths : List Nat) : String :=
  left ++ joint.intercalate (widths.map fun w => repeated (w + 2) fill) ++ right

def rowLine (bar : String) (widths : List Nat) (row : List String) : String :=
  let cells := (widths.zip row).map fun c => " " ++ padded c.1 c.2 ++ " "
  bar ++ bar.intercalate cells ++ bar

def centered (width : Nat) (s : String) : String :=
  let left := (width - s.length) / 2
  padded width (repeated left " " ++ s)

def lines (title : String) (head : List String) (rows : List (List String)) : List String :=
  let ws := widths (head :: rows)
  let top := rule "┏" "━" "┳" "┓" ws
  [centered top.length title, top, rowLine "┃" ws head, rule "┡" "━" "╇" "┩" ws] ++
    rows.map (rowLine "│" ws) ++ [rule "└" "─" "┴" "┘" ws]

end EnvDoctor.TextTable
