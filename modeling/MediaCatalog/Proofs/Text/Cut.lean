import MediaCatalog.Text.Basic

/-!
# Cutting a text

A text that is cut at a character falls into the pieces between the occurrences of that character.
This is the one way to read the text as pieces that do not hold the character and are joined by it
(`MediaCatalog.Text.cut_eq_iff`).
-/

namespace MediaCatalog

namespace Text

variable {separator : Char}

theorem cut_ne_nil (separator : Char) (t : Text) : cut separator t ≠ [] := by
  cases t with
  | nil => exact List.cons_ne_nil _ _
  | cons c t =>
    rw [cut]
    split
    · exact List.cons_ne_nil _ _
    · split <;> exact List.cons_ne_nil _ _

theorem cut_cons_separator (separator : Char) (t : Text) :
    cut separator (separator :: t) = [] :: cut separator t := by
  rw [cut, if_pos rfl]

/-- A character between two separators belongs to the piece that follows it. -/
theorem cut_cons_of_ne {c : Char} (hc : c ≠ separator) {t piece : Text} {pieces : List Text}
    (h : cut separator t = piece :: pieces) :
    cut separator (c :: t) = (c :: piece) :: pieces := by
  rw [cut, if_neg hc, h]

/-- A text without the separator belongs to the piece that follows it. -/
theorem cut_append_of_not_mem {p : Text} (hp : separator ∉ p) {t piece : Text} {pieces : List Text}
    (h : cut separator t = piece :: pieces) :
    cut separator (p ++ t) = (p ++ piece) :: pieces := by
  induction p with
  | nil => exact h
  | cons c p ih =>
    obtain ⟨hc, hp⟩ := List.ne_and_not_mem_of_not_mem_cons hp
    exact cut_cons_of_ne hc.symm (ih hp)

theorem cut_of_not_mem {p : Text} (hp : separator ∉ p) : cut separator p = [p] := by
  have h := cut_append_of_not_mem hp (rfl : cut separator [] = [[]])
  rwa [List.append_nil] at h

theorem cut_eq_splitOn (separator : Char) (t : Text) : cut separator t = t.splitOn separator := by
  induction t with
  | nil => rfl
  | cons c t ih =>
    rw [List.splitOn_cons_eq_if_modifyHead, ← ih]
    by_cases hc : c = separator
    · rw [hc, cut_cons_separator, if_pos (beq_self_eq_true separator)]
    · obtain ⟨piece, pieces, hpieces⟩ := List.exists_cons_of_ne_nil (cut_ne_nil separator t)
      rw [cut_cons_of_ne hc hpieces, if_neg (by simpa using hc), hpieces, List.modifyHead_cons]

/-- **A text is cut at a separator** by cutting what stands before it and what stands after it. -/
theorem cut_append (separator : Char) (t u : Text) :
    cut separator (t ++ separator :: u) = cut separator t ++ cut separator u := by
  rw [cut_eq_splitOn, cut_eq_splitOn, cut_eq_splitOn, List.splitOn_append_cons_self]

theorem not_mem_of_mem_cut {t piece : Text} (h : piece ∈ cut separator t) : separator ∉ piece := by
  induction t generalizing piece with
  | nil =>
    obtain rfl := List.mem_singleton.mp h
    exact List.not_mem_nil
  | cons c t ih =>
    by_cases hc : c = separator
    · rw [hc, cut_cons_separator, List.mem_cons] at h
      rcases h with rfl | h
      · exact List.not_mem_nil
      · exact ih h
    · obtain ⟨first, pieces, hpieces⟩ := List.exists_cons_of_ne_nil (cut_ne_nil separator t)
      rw [hpieces] at ih
      rw [cut_cons_of_ne hc hpieces, List.mem_cons] at h
      rcases h with rfl | h
      · exact List.not_mem_cons_of_ne_of_not_mem (Ne.symm hc) (ih List.mem_cons_self)
      · exact ih (List.mem_cons_of_mem _ h)

/-- **The pieces of a text** are the one way to read it as pieces without the separator that are
joined by the separator. -/
theorem cut_eq_iff {t : Text} {pieces : List Text} :
    cut separator t = pieces ↔
      pieces ≠ [] ∧ t = [separator].intercalate pieces ∧ ∀ piece ∈ pieces, separator ∉ piece := by
  constructor
  · rintro rfl
    refine ⟨cut_ne_nil separator t, ?_, fun _ => not_mem_of_mem_cut⟩
    rw [cut_eq_splitOn, List.intercalate_splitOn]
  · rintro ⟨hne, rfl, hpieces⟩
    rw [cut_eq_splitOn, List.splitOn_intercalate separator hpieces hne]

theorem join_eq_intercalate (separator : Text) (ts : List Text) :
    join separator ts = separator.intercalate ts := by
  fun_induction join separator ts with
  | case1 => rfl
  | case2 t => exact List.intercalate_singleton.symm
  | case3 t u ts ih => rw [ih, List.intercalate_cons_cons]

/-- **What is joined is cut again** into the same pieces, if none of them holds the separator. -/
theorem cut_join {pieces : List Text} (hne : pieces ≠ [])
    (hpieces : ∀ piece ∈ pieces, separator ∉ piece) :
    cut separator (join [separator] pieces) = pieces :=
  cut_eq_iff.mpr ⟨hne, join_eq_intercalate [separator] pieces, hpieces⟩

end Text

end MediaCatalog
