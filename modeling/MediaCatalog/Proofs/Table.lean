import MediaCatalog.Table
import Mathlib.Algebra.GroupWithZero.Nat
import Mathlib.Data.List.Basic

/-!
# Tables that have a layout

A table is laid out plainly only where every row reaches to the last header: a width is taken over
the cells of a whole column (`MediaCatalog.Table.isSome_widths_iff`). The line of a row then shows
every cell that there is a header for (`MediaCatalog.Table.infix_line`).
-/

namespace MediaCatalog

namespace Table

/-- There is a first cell in every row if no row is empty. -/
theorem isSome_mapM_head?_iff {rows : List (List Text)} :
    (rows.mapM List.head?).isSome ↔ ∀ row ∈ rows, row ≠ [] := by
  induction rows with
  | nil => simp
  | cons row rows ih =>
    rw [List.mapM_cons, List.forall_mem_cons, ← ih]
    cases row with
    | nil => simp
    | cons cell row => cases rows.mapM List.head? <;> simp

/-- **The columns have widths if and only if no row is shorter than the headers.** -/
theorem isSome_columnWidths_iff {headers : List Text} {rows : List (List Text)} :
    (columnWidths headers rows).isSome ↔ ∀ row ∈ rows, headers.length ≤ row.length := by
  induction headers generalizing rows with
  | nil => simp [columnWidths]
  | cons header headers ih =>
    have hsplit : (columnWidths (header :: headers) rows).isSome ↔
        (rows.mapM List.head?).isSome ∧ (columnWidths headers (rows.map List.tail)).isSome := by
      rw [columnWidths]
      cases rows.mapM List.head? with
      | none => simp
      | some cells => cases columnWidths headers (rows.map List.tail) <;> simp
    rw [hsplit, isSome_mapM_head?_iff, ih, List.forall_mem_map, ← forall₂_and]
    refine forall₂_congr fun row _ => ?_
    cases row with
    | nil => simp
    | cons cell row => simp

theorem isSome_widths_iff {t : Table} :
    t.widths.isSome ↔ ∀ row ∈ t.rows, t.headers.length ≤ row.length := isSome_columnWidths_iff

/-! ### What a line shows -/

/-- A list is gone through if every element of it gives something. -/
theorem mapM_eq_some_iff {α β : Type} {f : α → Option β} {l : List α} {m : List β} :
    l.mapM f = some m ↔ l.map f = m.map some := by
  induction l generalizing m with
  | nil => cases m <;> simp
  | cons a l ih =>
    simp only [List.mapM_cons, Option.bind_eq_bind, Option.pure_def, Option.bind_eq_some_iff, ih]
    cases m <;> simp

/-- **A column is as wide as the longest cell in it**, if there is a cell in every row. The columns
after it are those of the rows without their first cells. -/
theorem columnWidths_cons_eq_some_iff {header : Text} {headers : List Text}
    {rows : List (List Text)} {widths : List Nat} :
    columnWidths (header :: headers) rows = some widths ↔
      ∃ (firsts : List Text) (rest : List Nat), rows.map List.head? = firsts.map some ∧
        columnWidths headers (rows.map List.tail) = some rest ∧
        firsts.foldl (fun width cell => max width cell.length) header.length :: rest = widths := by
  simp only [columnWidths, Option.bind_eq_bind, Option.bind_eq_some_iff, mapM_eq_some_iff,
    Option.pure_def, Option.some.injEq, exists_and_left]

theorem length_columnWidths {headers : List Text} {rows : List (List Text)} {widths : List Nat}
    (h : columnWidths headers rows = some widths) : widths.length = headers.length := by
  induction headers generalizing rows widths with
  | nil =>
    obtain rfl := Option.some.inj h
    rfl
  | cons header headers ih =>
    obtain ⟨firsts, rest, -, hrest, rfl⟩ := columnWidths_cons_eq_some_iff.mp h
    rw [List.length_cons, List.length_cons, ih hrest]

/-- Where a text stands in a join: after the texts before it, with the separator behind each of
them. -/
theorem exists_append_join (c : Char) {texts : List Text} {j : Nat} {t : Text}
    (h : texts[j]? = some t) :
    ∃ before after, Text.join [c] texts = before ++ (t ++ after) ∧
      before.length = ((texts.take j).map List.length).sum + j ∧
      (0 < j → before.getLast? = some c) := by
  fun_induction Text.join [c] texts generalizing j with
  | case1 => simp at h
  | case2 u =>
    cases j with
    | zero =>
      obtain rfl : u = t := by simpa using h
      exact ⟨[], [], (List.append_nil u).symm, rfl, fun hj => absurd hj (Nat.lt_irrefl 0)⟩
    | succ j => simp at h
  | case3 u v rest ih =>
    cases j with
    | zero =>
      obtain rfl : u = t := by simpa using h
      exact ⟨[], _, List.append_assoc u _ _, rfl, fun hj => absurd hj (Nat.lt_irrefl 0)⟩
    | succ j =>
      obtain ⟨before, after, hjoin, hlength, hlast⟩ := ih (j := j) (by simpa using h)
      refine ⟨u ++ [c] ++ before, after, ?_, ?_, fun _ => ?_⟩
      · simp only [hjoin, List.append_assoc]
      · simp only [List.length_append, List.length_singleton, hlength, List.take_succ_cons,
          List.map_cons, List.sum_cons]
        omega
      · cases j with
        | zero =>
          obtain rfl : before = [] := by simpa using hlength
          rw [List.append_nil, List.getLast?_concat]
        | succ j => rw [List.getLast?_append, hlast (Nat.succ_pos j), Option.some_or]

/-- Joining texts keeps each of them in one piece. -/
theorem infix_join (c : Char) {texts : List Text} {t : Text} (h : t ∈ texts) :
    t <:+: Text.join [c] texts := by
  obtain ⟨j, hj⟩ := List.mem_iff_getElem?.mp h
  obtain ⟨before, after, hjoin, -⟩ := exists_append_join c hj
  exact ⟨before, after, by rw [hjoin, List.append_assoc]⟩

/-- **A line shows every cell** that there is a column for. -/
theorem infix_line {widths : List Nat} {cells : List Text} (h : cells.length = widths.length)
    {cell : Text} (hcell : cell ∈ cells) : cell <:+: line widths cells := by
  obtain ⟨i, hi, rfl⟩ := List.mem_iff_getElem.mp hcell
  have hlength : i < (List.zipWith Text.padRight widths cells).length := by
    rw [List.length_zipWith]
    omega
  have hpadded : (List.zipWith Text.padRight widths cells)[i] =
      Text.padRight (widths[i]) (cells[i]) := List.getElem_zipWith
  have hjoined := infix_join ' ' (List.getElem_mem hlength)
  rw [hpadded] at hjoined
  exact (List.prefix_append _ _).isInfix.trans hjoined

end Table

end MediaCatalog
