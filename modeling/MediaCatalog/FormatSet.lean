import MediaCatalog.FormatId

/-!
# Sets of format identifiers

A set of identifiers is kept as the list of its members in the order of their names. The list is
determined by the members, so that two sets with the same members are equal, and a set is written in
one way only, whatever the order and the repetitions in what it was made from.
-/

namespace MediaCatalog

/-- A set of format identifiers. -/
structure FormatSet where
  /-- The members, in the order of their names. -/
  toList : List FormatId
  /-- The list is determined by its members. -/
  ordered : toList = FormatId.byName.filter fun i => toList.contains i
deriving DecidableEq

namespace FormatSet

/-- Filtering by membership in a filtered list is filtering by the same test. -/
theorem filter_contains_filter {α : Type} [BEq α] [LawfulBEq α] (l : List α) (p : α → Bool) :
    l.filter p = l.filter fun a => (l.filter p).contains a := by
  refine List.filter_congr fun a ha => ?_
  cases hp : p a with
  | true => exact (List.contains_iff_mem.2 (List.mem_filter.2 ⟨ha, hp⟩)).symm
  | false =>
    refine (Bool.eq_false_iff.2 fun h => ?_).symm
    have hmem := List.contains_iff_mem.1 h
    exact absurd (List.mem_filter.1 hmem).2 (by simp [hp])

/-- The set of the members of a list. -/
def ofList (ids : List FormatId) : FormatSet where
  toList := FormatId.byName.filter fun i => ids.contains i
  ordered := filter_contains_filter _ _

/-- Whether an identifier is a member. -/
def contains (s : FormatSet) (i : FormatId) : Bool := s.toList.contains i

/-- The order of the names leaves no identifier out. -/
theorem mem_byName (i : FormatId) : i ∈ FormatId.byName := by cases i <;> decide

/-- A set has the members of the list that it was made from. -/
theorem contains_ofList_iff {ids : List FormatId} {i : FormatId} :
    (ofList ids).contains i = true ↔ i ∈ ids := by
  rw [contains, List.contains_iff_mem, ofList, List.mem_filter, List.contains_iff_mem]
  exact and_iff_right (mem_byName i)

/-- A set as it is written in a log or a listing. -/
def written (s : FormatSet) : Text :=
  match s.toList with
  | [] => "frozenset()".toList
  | ids => "frozenset(\x7b".toList ++ Text.join [',', ' '] (ids.map FormatId.written)
      ++ "\x7d)".toList

end FormatSet

end MediaCatalog
