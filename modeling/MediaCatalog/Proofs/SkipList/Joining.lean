import MediaCatalog.Proofs.SkipList
import MediaCatalog.Proofs.Text.LowerCase
import MediaCatalog.Proofs.Text.Trim

/-!
# Joining skip lists

Two groups can be given one after the other, or joined to one by a comma. At the seam the comma
takes the white space that follows it, and nothing else: whatever the first group ends in, be it a
comma or white space, the entries on either side are those of the two groups
(`MediaCatalog.SkipList.entries_append`). So it makes no difference in which of the two ways they
are given (`MediaCatalog.SkipList.skips_comma`), unless one of them is the group that skips
everything, which is no longer that group when it is joined to another.
-/

namespace MediaCatalog

namespace SkipList

open Text

/-- White space after a comma is dropped before the entries are read. -/
theorem entriesFrom_true (group : Text) : entriesFrom true group = entries (trimLeft group) := by
  induction group with
  | nil => rfl
  | cons c group ih =>
    by_cases hc : isBlank c
    · rw [entriesFrom, if_pos ⟨rfl, hc⟩, ih, trimLeft, trimLeft, List.dropWhile_cons_of_pos hc]
    · have hkeep : trimLeft (c :: group) = c :: group := List.dropWhile_cons_of_neg hc
      simp only [hkeep, entries, entriesFrom, hc, and_false, if_false, Bool.false_eq_true]

/-- **The entries of joined groups** are those of the first and those of the second, without the
white space that it starts with. -/
theorem entries_append (g h : Text) :
    entries (g ++ ',' :: h) = entries g ++ entries (trimLeft h) := by
  obtain ⟨first, rest, hg⟩ := List.exists_cons_of_ne_nil (cut_ne_nil ',' g)
  obtain ⟨first', rest', hh⟩ := List.exists_cons_of_ne_nil (cut_ne_nil ',' h)
  have hjoined : cut ',' (g ++ ',' :: h) = first :: (rest ++ first' :: rest') := by
    rw [cut_append, hg, hh, List.cons_append]
  rw [← entriesFrom_true, entries, entries, entriesFrom_eq hjoined, entriesFrom_eq hg,
    entriesFrom_eq hh, List.map_append, List.map_cons]
  rfl

theorem skips_append (matched : Option Text) (gs hs : List (Option Text)) :
    skips matched (gs ++ hs) = (skips matched gs || skips matched hs) := List.any_append

/-- **Groups skip the same when they are joined by a comma**, if neither skips everything. -/
theorem skips_comma (matched : Option Text) {g h : Text} (hg : g ≠ everything)
    (hh : trimLeft h ≠ everything) :
    skips matched [some (g ++ ',' :: h)] = skips matched [some g, some (trimLeft h)] := by
  have hcomma : g ++ ',' :: h ≠ everything := by
    intro heq
    have hmem : ',' ∈ everything := heq ▸ List.mem_append_right g List.mem_cons_self
    exact absurd hmem (by decide)
  rw [skips_cons matched (some g), skips_singleton, skips_singleton, skips_singleton,
    groupSkips_of_ne hcomma, groupSkips_of_ne hg, groupSkips_of_ne hh, entries_append]
  cases matched with
  | none => rfl
  | some m => exact List.any_append

/-! ### A group made of its entries -/

/-- A text that can be an entry of a group: it is not blank, holds no comma and does not start with
white space. -/
structure IsListable (t : Text) : Prop where
  /-- It is not blank. -/
  solid : isBlankText t = false
  /-- It holds no comma. -/
  whole : ',' ∉ t
  /-- It does not start with white space. -/
  bare : StartsBare t

/-- The entries of a group that is made of listable texts are these texts. -/
theorem entries_join {ts : List Text} (hne : ts ≠ []) (h : ∀ t ∈ ts, IsListable t) :
    entries (join [','] ts) = ts := by
  have hcut : cut ',' (join [','] ts) = ts := cut_join hne fun t ht => (h t ht).whole
  obtain ⟨first, rest, rfl⟩ := List.exists_cons_of_ne_nil hne
  have hrest : rest.map trimLeft = rest.map id :=
    List.map_congr_left fun t ht => trimLeft_of_startsBare (h t (List.mem_cons_of_mem _ ht)).bare
  rw [entries, entriesFrom_eq hcut, if_neg Bool.false_ne_true, hrest, List.map_id]

/-- **A group made of listable texts skips what is among them in lower case**, and nothing where
nothing has been matched. -/
theorem skips_join_iff {ts : List Text} (h : ∀ t ∈ ts, IsListable t)
    (hne : join [','] ts ≠ everything) {matched : Option Text}
    (hmatched : ∀ m, matched = some m → ∃ t ∈ ts, m = lower t) :
    skips matched [some (join [','] ts)] ↔ matched.isSome := by
  rw [skips_singleton, groupSkips_of_ne hne]
  cases matched with
  | none => exact iff_of_false Bool.false_ne_true Bool.false_ne_true
  | some m =>
    obtain ⟨t, ht, rfl⟩ := hmatched m rfl
    refine iff_of_true ?_ rfl
    rw [Option.any_some, entries_join (List.ne_nil_of_mem ht) h, List.any_eq_true]
    exact ⟨t, ht, names_iff.mpr ⟨(h t ht).solid, (lower_lower t).symm⟩⟩

end SkipList

end MediaCatalog
