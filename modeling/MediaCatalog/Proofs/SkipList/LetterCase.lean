import MediaCatalog.Proofs.SkipList
import MediaCatalog.Proofs.Text.Seam

/-!
# Skip lists and letter case

What has been matched and the entries of a group are compared in lower case. That a whole group may
be lower-cased beforehand does not follow at once: the small form of a letter may depend on its
neighbours, and a group is lower-cased with other neighbours than its entries. But what stands
between two entries is a seam, a comma or white space, so that the entries of the lower-cased group
are the lower-cased entries (`MediaCatalog.SkipList.entries_lower`). And no group becomes the one
that skips everything, nor does that group become another.
-/

namespace MediaCatalog

namespace SkipList

open Text

/-- **The entries of a lower-cased group** are its entries in lower case. -/
theorem entries_lower (group : Text) : entries (lower group) = (entries group).map lower := by
  obtain ⟨first, rest, hcut⟩ := List.exists_cons_of_ne_nil (cut_ne_nil ',' group)
  have hlower : cut ',' (lower group) = lower first :: rest.map lower := by
    rw [cut_lower, hcut, List.map_cons]
  have htrim : trimLeft ∘ lower = lower ∘ trimLeft := funext trimLeft_lower
  rw [entries, entries, entriesFrom_eq hcut, entriesFrom_eq hlower, if_neg Bool.false_ne_true,
    if_neg Bool.false_ne_true, List.map_map, htrim, List.map_cons, List.map_map]

/-- An entry names an extension in whatever case the two are. -/
theorem names_congr {e e' m m' : Text} (he : lower e' = lower e) (hm : lower m' = lower m) :
    names e' m' = names e m := by
  rw [names, names, ← isBlankText_lower, he, hm, isBlankText_lower]

/-- No other group becomes the one that skips everything. -/
theorem lower_eq_everything_iff {group : Text} : lower group = everything ↔ group = everything := by
  constructor
  · intro h
    have hmem : '*' ∈ group := by
      rw [← mem_lower_iff (by decide) (by decide), h]
      exact List.mem_singleton_self _
    obtain ⟨t, u, rfl⟩ := List.append_of_mem hmem
    have hseam : IsSeam '*' := ⟨by decide +kernel, by decide +kernel⟩
    have hstar : lowerChar '*' = ['*'] := lowerChar_of_sign (by decide) (by decide)
    rw [lower_append_seam hseam, hstar, List.singleton_append, everything,
      List.append_eq_singleton_iff] at h
    rcases h with ⟨ht, hu⟩ | ⟨-, hu⟩
    · rw [lower_eq_nil_iff.mp ht, lower_eq_nil_iff.mp (List.cons.inj hu).2]
      rfl
    · exact absurd hu (List.cons_ne_nil _ _)
  · rintro rfl
    decide +kernel

/-- A group skips the same in lower case. -/
theorem groupSkips_lower (matched : Option Text) (group : Text) :
    groupSkips (matched.map lower) (lower group) = groupSkips matched group := by
  by_cases h : group = everything
  · rw [lower_eq_everything_iff.mpr h, h, groupSkips_everything, groupSkips_everything]
  · rw [groupSkips_of_ne h, groupSkips_of_ne (lower_eq_everything_iff.not.mpr h), entries_lower]
    cases matched with
    | none => rfl
    | some m =>
      have hnames (e : Text) : names (lower e) (lower m) = names e m :=
        names_congr (lower_lower e) (lower_lower m)
      simp only [Option.map_some, Option.any_some, List.any_map, Function.comp_def, hnames]

theorem skips_lower (matched : Option Text) (groups : List (Option Text)) :
    skips (matched.map lower) (groups.map (Option.map lower)) = skips matched groups := by
  induction groups with
  | nil => rfl
  | cons group groups ih =>
    rw [List.map_cons, skips_cons, ih, skips_cons matched]
    cases group with
    | none => rfl
    | some group => rw [Option.map_some, skips_singleton, skips_singleton, groupSkips_lower]

/-- Skip lists depend on nothing but the lower case of what they are given. -/
theorem skips_eq_of_lower_eq {matched matched' : Option Text} {groups groups' : List (Option Text)}
    (hmatched : matched'.map lower = matched.map lower)
    (hgroups : groups'.map (Option.map lower) = groups.map (Option.map lower)) :
    skips matched' groups' = skips matched groups := by
  rw [← skips_lower matched', hmatched, hgroups, skips_lower]

/-- What replaces a text, or a missing one, when some are lower-cased and the others stay. -/
def Replaces (t' t : Option Text) : Prop := t' = t ∨ t' = t.map lower

theorem Replaces.lower_eq {t' t : Option Text} (h : Replaces t' t) :
    t'.map lower = t.map lower := by
  rcases h with rfl | rfl
  · rfl
  · rw [Option.map_map]
    exact congrArg (Option.map · t) (funext lower_lower)

/-- **Skip lists ignore case.** What has been matched and any of the groups may be lower-cased, each
as a whole, and nothing else is skipped than before. -/
theorem skips_of_replaces {matched matched' : Option Text} {groups groups' : List (Option Text)}
    (hmatched : Replaces matched' matched) (hgroups : List.Forall₂ Replaces groups' groups) :
    skips matched' groups' = skips matched groups := by
  refine skips_eq_of_lower_eq hmatched.lower_eq ?_
  induction hgroups with
  | nil => rfl
  | cons hgroup _ ih => rw [List.map_cons, List.map_cons, hgroup.lower_eq, ih]

/-- A capital sigma at the end of what has been matched is a final one in lower case, and so is the
one that ends an entry: neither the comma and the white space behind it nor the letter behind these
make a difference. -/
theorem skips_of_replaces_sigma :
    let matched := some "a\u03A3".toList
    let groups := [some "A\u03A3,\u2003\u03A3b".toList, none, some "MKV".toList]
    let groups' := [some "a\u03C2,\u2003\u03C3b".toList, none, some "MKV".toList]
    Replaces (matched.map lower) matched ∧ List.Forall₂ Replaces groups' groups ∧
      skips matched groups ∧ skips (matched.map lower) groups' := by
  intro matched groups groups'
  have hmatched : Replaces (matched.map lower) matched := Or.inr rfl
  have hgroups : List.Forall₂ Replaces groups' groups :=
    .cons (Or.inr (by decide +kernel)) (.cons (Or.inl rfl) (.cons (Or.inl rfl) .nil))
  have hskips : skips matched groups := by decide +kernel
  exact ⟨hmatched, hgroups, hskips, (skips_of_replaces hmatched hgroups).trans hskips⟩

end SkipList

end MediaCatalog
