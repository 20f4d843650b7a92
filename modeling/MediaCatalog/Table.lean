import MediaCatalog.Text.Basic

/-!
# Tables

A table has a title, headers and rows of cells. Its plain layout gives each column the width of its
widest cell, the header included, counted in characters, and leaves one space between columns.

A row may have more cells than there are headers: the layout shows the first ones. A row with fewer
cells has no cell to measure in some column, and then there is no layout at all.
-/

namespace MediaCatalog

/-- A table of texts. -/
structure Table where
  /-- What stands above the table. -/
  title : Text
  /-- The headers of the columns. -/
  headers : List Text
  /-- The rows. -/
  rows : List (List Text)
deriving DecidableEq, Repr

namespace Table

/-- The widths of the columns with the given headers, unless a row is too short. -/
def columnWidths : List Text → List (List Text) → Option (List Nat)
  | [], _ => some []
  | header :: headers, rows => do
    let cells ← rows.mapM List.head?
    let widths ← columnWidths headers (rows.map List.tail)
    return cells.foldl (fun width cell => max width cell.length) header.length :: widths

/-- The widths of the columns of a table, unless a row is too short. -/
def widths (t : Table) : Option (List Nat) := columnWidths t.headers t.rows

/-- The width of a whole table: its columns and the spaces between them. -/
def totalWidth (widths : List Nat) : Nat := widths.foldl (· + ·) 0 + widths.length - 1

/-- A line of cells, each filled up to the width of its column. -/
def line (widths : List Nat) (cells : List Text) : Text :=
  Text.join [' '] (List.zipWith Text.padRight widths cells)

/-- A rule across the whole table. -/
def rule (widths : List Nat) (c : Char) : Text := List.replicate (totalWidth widths) c

/-- The lines of the plain layout, given the widths of the columns: a blank line, the title, the
header between two rules, the rows and a blank line. -/
def linesWith (t : Table) (widths : List Nat) : List Text :=
  [[], t.title, rule widths '=', line widths t.headers, rule widths '-']
    ++ t.rows.map (line widths) ++ [[]]

/-- The lines of the plain layout, unless a row is too short. -/
def lines (t : Table) : Option (List Text) := t.widths.map t.linesWith

end Table

end MediaCatalog
