import MediaCatalog.Proofs.Text.Cut
import MediaCatalog.SkipList

/-!
# What skip lists skip

Whether something is skipped is found out group by group, and within a group entry by entry. All of
it comes to one question: is there a group that skips everything, or **an entry somewhere** that
names what has been matched (`MediaCatalog.SkipList.skips_iff`)? So neither the order of the groups
nor a missing one makes a difference.

The entries of a group are its pieces at the commas, where white space after a comma is dropped
(`MediaCatalog.SkipList.IsEntry`). The library finds them in one reading, with a bit for whether a
comma came last; that no blank is dropped twice, or in the wrong place, is what there is to show
(`MediaCatalog.SkipList.mem_entries_iff`).
-/

namespace MediaCatalog

namespace SkipList

open Text

/-! ### The entries of a group -/

/-- A text is an entry of a group: the group is cut at every comma, and the piece is the first, or a
later one without the white space that it starts with. -/
def IsEntry (entry group : Text) : Prop :=
  ∃ first rest, group = [','].intercalate (first :: rest) ∧ (∀ piece ∈ first :: rest, ',' ∉ piece) ∧
    entry ∈ first :: rest.map trimLeft

/-- The entries of a group in terms of its pieces. In the middle of a group, the first piece may
still have to lose the white space that it starts with. -/
theorem entriesFrom_eq {group first : Text} {rest : List Text}
    (h : cut ',' group = first :: rest) (afterComma : Bool) :
    entriesFrom afterComma group =
      (if afterComma then trimLeft first else first) :: rest.map trimLeft := by
  induction group generalizing first rest afterComma with
  | nil =>
    obtain ⟨rfl, rfl⟩ := List.cons.inj h
    cases afterComma <;> rfl
  | cons c group ih =>
    obtain ⟨piece, pieces, hcut⟩ := List.exists_cons_of_ne_nil (cut_ne_nil ',' group)
    by_cases hcomma : c = ','
    · subst hcomma
      have hblank : isBlank ',' = false := by decide
      rw [cut_cons_separator] at h
      obtain ⟨rfl, rfl⟩ := List.cons.inj h
      rw [entriesFrom, if_neg (by simp [hblank]), if_pos rfl, ih hcut, hcut, if_pos rfl,
        List.map_cons]
      cases afterComma <;> rfl
    · rw [cut_cons_of_ne hcomma hcut] at h
      obtain ⟨rfl, rfl⟩ := List.cons.inj h
      rw [entriesFrom]
      by_cases hblank : afterComma ∧ isBlank c
      · rw [if_pos hblank, ih hcut, if_pos rfl, if_pos hblank.1, trimLeft, trimLeft,
          List.dropWhile_cons_of_pos hblank.2]
      · rw [if_neg hblank, if_neg hcomma, ih hcut]
        -- The first character stays, be it that no comma came last or that it is not white space.
        cases afterComma with
        | false => rfl
        | true =>
          have hkeep : trimLeft (c :: piece) = c :: piece :=
            List.dropWhile_cons_of_neg fun hc => hblank ⟨rfl, hc⟩
          rw [if_pos rfl, hkeep]
          rfl

theorem mem_entries_iff {entry group : Text} : entry ∈ entries group ↔ IsEntry entry group := by
  constructor
  · intro h
    obtain ⟨first, rest, hcut⟩ := List.exists_cons_of_ne_nil (cut_ne_nil ',' group)
    obtain ⟨-, hjoin, hpieces⟩ := cut_eq_iff.mp hcut
    rw [entries, entriesFrom_eq hcut] at h
    exact ⟨first, rest, hjoin, hpieces, h⟩
  · rintro ⟨first, rest, hjoin, hpieces, hentry⟩
    have hcut := cut_eq_iff.mpr ⟨List.cons_ne_nil first rest, hjoin, hpieces⟩
    rw [entries, entriesFrom_eq hcut]
    exact hentry

/-! ### Groups -/

theorem names_iff {entry extension : Text} :
    names entry extension ↔ isBlankText entry = false ∧ lower entry = lower extension := by
  simp only [names, Bool.and_eq_true, Bool.not_eq_true', beq_iff_eq]

theorem groupSkips_everything (matched : Option Text) : groupSkips matched everything = true := by
  rw [groupSkips.eq_def, if_pos rfl]

theorem groupSkips_of_ne {group : Text} (h : group ≠ everything) (matched : Option Text) :
    groupSkips matched group = matched.any fun m => (entries group).any fun e => names e m := by
  cases matched with
  | none => rw [groupSkips, if_neg h, Option.any_none]
  | some m => rw [groupSkips, if_neg h, Option.any_some]

theorem groupSkips_iff {matched : Option Text} {group : Text} :
    groupSkips matched group ↔ group = everything ∨
      ∃ m, matched = some m ∧ ∃ entry, IsEntry entry group ∧
        isBlankText entry = false ∧ lower entry = lower m := by
  by_cases heverything : group = everything
  · simp [groupSkips, heverything]
  · cases matched with
    | none => simp [groupSkips, heverything]
    | some m =>
      simp only [groupSkips, heverything, if_false, List.any_eq_true, mem_entries_iff, names_iff,
        Option.some.injEq, exists_eq_left', false_or]

theorem skips_iff_exists_group {matched : Option Text} {groups : List (Option Text)} :
    skips matched groups ↔ ∃ group, some group ∈ groups ∧ groupSkips matched group := by
  simp only [skips, List.any_eq_true, Option.any_eq_true]
  constructor
  · rintro ⟨_, hmem, group, rfl, hskips⟩
    exact ⟨group, hmem, hskips⟩
  · rintro ⟨group, hmem, hskips⟩
    exact ⟨some group, hmem, group, rfl, hskips⟩

theorem skips_singleton (matched : Option Text) (group : Text) :
    skips matched [some group] = groupSkips matched group := by
  rw [skips, List.any_cons, List.any_nil, Bool.or_false, Option.any_some]

theorem skips_cons (matched group : Option Text) (groups : List (Option Text)) :
    skips matched (group :: groups) = (skips matched [group] || skips matched groups) := by
  rw [skips, skips, skips, List.any_cons, List.any_cons, List.any_nil, Bool.or_false]

/-- Skip lists depend on nothing but the groups that are there. -/
theorem skips_congr {groups groups' : List (Option Text)}
    (h : ∀ group, some group ∈ groups ↔ some group ∈ groups') (matched : Option Text) :
    skips matched groups = skips matched groups' := by
  rw [Bool.eq_iff_iff, skips_iff_exists_group, skips_iff_exists_group]
  simp only [h]

theorem skips_eq_of_perm {groups groups' : List (Option Text)} (h : groups.Perm groups')
    (matched : Option Text) : skips matched groups = skips matched groups' :=
  skips_congr (fun _ => h.mem_iff) matched

/-- **What skip lists skip**: everything, if there is a group for that; and what has been matched,
if there is an entry somewhere that is not blank and names it, whatever the case. The order of the
groups makes no difference, nor does a missing group. -/
theorem skips_iff (matched : Option Text) (groups : List (Option Text)) :
    (skips matched groups ↔ some "*".toList ∈ groups ∨
      ∃ m, matched = some m ∧ ∃ group, some group ∈ groups ∧ ∃ entry, IsEntry entry group ∧
        isBlankText entry = false ∧ lower entry = lower m) ∧
    ∀ n groups', groups'.Perm (List.replicate n none ++ groups) →
      skips matched groups' = skips matched groups := by
  refine ⟨?_, fun n groups' hperm => skips_congr (fun group => ?_) matched⟩
  · rw [skips_iff_exists_group]
    constructor
    · rintro ⟨group, hmem, hskips⟩
      rcases groupSkips_iff.mp hskips with rfl | ⟨m, hm, hentry⟩
      · exact Or.inl hmem
      · exact Or.inr ⟨m, hm, group, hmem, hentry⟩
    · rintro (hmem | ⟨m, hm, group, hmem, hentry⟩)
      · exact ⟨everything, hmem, groupSkips_iff.mpr (Or.inl rfl)⟩
      · exact ⟨group, hmem, groupSkips_iff.mpr (Or.inr ⟨m, hm, hentry⟩)⟩
  · rw [hperm.mem_iff, List.mem_append, List.mem_replicate]
    simp

/-- A later entry in another case, behind a blank one and white space, and two missing groups. -/
theorem skips_iff_blank_entry :
    let groups := [some "avi,,\t\u2003Mkv".toList, some " mp4".toList]
    let groups' := [none, some " mp4".toList, none, some "avi,,\t\u2003Mkv".toList]
    groups'.Perm (List.replicate 2 none ++ groups) ∧ skips (some "mKV".toList) groups ∧
      skips (some "mKV".toList) groups' := by
  intro groups groups'
  have hperm : groups'.Perm (List.replicate 2 none ++ groups) := by decide
  obtain ⟨hiff, hsame⟩ := skips_iff (some "mKV".toList) groups
  have hentry : IsEntry "Mkv".toList "avi,,\t\u2003Mkv".toList :=
    ⟨"avi".toList, ["".toList, "\t\u2003Mkv".toList], by decide, by decide, by decide⟩
  have hskips : skips (some "mKV".toList) groups := hiff.mpr (Or.inr
    ⟨_, rfl, _, List.mem_cons_self, _, hentry, by decide +kernel, by decide +kernel⟩)
  exact ⟨hperm, hskips, (hsame 2 groups' hperm).trans hskips⟩

end SkipList

end MediaCatalog
