import MediaCatalog.Proofs.CommandLine.Match
import MediaCatalog.Proofs.SkipList.Joining

/-!
# Skip lists on the command line

Several skip lists can be given to a test with one switch for each, or with a single switch and
commas between them. A report on a test depends on the skip lists only through what they skip
(`MediaCatalog.CommandLine.Report.ofCommand_congr`), and that is the same in both ways, so that the
two command lines lead to the same run (`MediaCatalog.CommandLine.joined_means_repeated`).
-/

namespace MediaCatalog.CommandLine

open SkipList (everything skips)

/-- **A test depends on the skip lists through its outcome.** -/
theorem Report.ofCommand_congr {name format : Text} {groups groups' : List Text}
    (h : ∀ f, outcome f name groups = outcome f name groups') (s : Store) :
    ofCommand s (.matching name (some format) (groups.map some)) =
      ofCommand s (.matching name (some format) (groups'.map some)) := by
  simp only [ofCommand, onFormat]
  cases hformat : Catalog.lookup format with
  | error e => rfl
  | ok f =>
    have hfound := Catalog.find_ne_some_nil (Catalog.mem_formats_of_lookup hformat) (some name)
    simp only [bind, Except.bind, matching_map_some hfound, h]

/-- Runs whose tests have the same outcome are the same. -/
theorem run_eq_of_outcome_eq {name format : Text} {groups groups' args args' : List Text}
    {verbose : Bool}
    (hargs : Request.ofArgs args = .ok ⟨verbose, .matching name (some format) (groups.map some)⟩)
    (hargs' : Request.ofArgs args' =
      .ok ⟨verbose, .matching name (some format) (groups'.map some)⟩)
    (h : ∀ f, Report.outcome f name groups = Report.outcome f name groups') (host : Host)
    (env : Environment) : run host env args = run host env args' := by
  simp only [run, hargs, hargs', perform, Report.ofCommand_congr h]

section Joining

variable {g h : Text}

theorem undashed_comma (hg : Undashed g) (h : Text) : Undashed (g ++ ',' :: h) := by
  cases g with
  | nil => exact (by decide : some ',' ≠ some '-')
  | cons c g => exact hg

/-- Joined lists are no fewer than none, and skip what the lists do. -/
theorem outcome_comma (hg : g ≠ everything) (hh : Text.trimLeft h ≠ everything)
    {others groups groups' : List Text} (hgroups : groups.Perm (g :: Text.trimLeft h :: others))
    (hgroups' : groups'.Perm ((g ++ ',' :: h) :: others)) (f : Format) (name : Text) :
    Report.outcome f name groups = Report.outcome f name groups' := by
  rw [Report.outcome_eq_of_perm f name hgroups, Report.outcome_eq_of_perm f name hgroups']
  refine Report.outcome_congr f name rfl fun matched => ?_
  calc skips matched ([some g, some (Text.trimLeft h)] ++ others.map some)
      = (skips matched [some g, some (Text.trimLeft h)] || skips matched (others.map some)) :=
        SkipList.skips_append matched _ _
    _ = (skips matched [some (g ++ ',' :: h)] || skips matched (others.map some)) := by
        rw [SkipList.skips_comma matched hg hh]
    _ = skips matched ([some (g ++ ',' :: h)] ++ others.map some) :=
        (SkipList.skips_append matched _ _).symm

end Joining

/-- **Joining skip lists by a comma means repeating them.** In general lists of groups skip what the
one or the other skips. A group joined to another by a comma, with any white space after it, skips
what the two groups skip one after the other, unless one of them is the group that skips everything.
And a test on the command line leads to the same run, be the switch repeated or the groups joined:
with whatever other skip lists, in whichever order the arguments come and however the switches are
spelled. -/
theorem joined_means_repeated :
    (∀ matched gs hs, skips matched (gs ++ hs) = (skips matched gs || skips matched hs)) ∧
    ∀ {g h : Text}, g ≠ everything → Text.trimLeft h ≠ everything →
      (∀ matched, skips matched [some (g ++ ',' :: h)] =
        skips matched [some g, some (Text.trimLeft h)]) ∧
      ∀ (name format : Text) (others : List Text) {repeated joined : List Block}
        {args args' : List Text},
        (∀ t ∈ name :: format :: g :: Text.trimLeft h :: others, Undashed t) →
        repeated.Perm (Block.list name format (g :: Text.trimLeft h :: others)) →
        joined.Perm (Block.list name format ((g ++ ',' :: h) :: others)) →
        SpellOut args repeated → SpellOut args' joined →
        ∀ host env, run host env (CommandName.matching.spelling :: args) =
          run host env (CommandName.matching.spelling :: args') := by
  refine ⟨SkipList.skips_append, fun {g h} hg hh =>
    ⟨fun matched => SkipList.skips_comma matched hg hh, ?_⟩⟩
  intro name format others repeated joined args args' hdash hrepeated hjoined hargs hargs' host env
  have hdash' : ∀ t ∈ name :: format :: (g ++ ',' :: h) :: others, Undashed t := by
    simp only [List.forall_mem_cons] at hdash ⊢
    obtain ⟨hname, hformat, hgroup, -, hothers⟩ := hdash
    exact ⟨hname, hformat, undashed_comma hgroup h, hothers⟩
  obtain ⟨groups, hgroups, hrequest⟩ := ofArgs_of_spellOut hargs hrepeated hdash
  obtain ⟨groups', hgroups', hrequest'⟩ := ofArgs_of_spellOut hargs' hjoined hdash'
  exact run_eq_of_outcome_eq hrequest hrequest'
    (fun f => outcome_comma hg hh hgroups hgroups' f name) host env

/-- Two groups with a blank entry on either side of the seam: the film is skipped on account of the
second, and the command line with one switch for each leads to the same run as the one with a single
switch, which comes first. -/
theorem joined_means_repeated_film :
    let g := "mp4,".toList
    let h := "\u2003,mkv".toList
    let args := ["film.mkv".toList, "--format".toList, "mkv".toList, "--skip".toList, g,
      "--skip".toList, Text.trimLeft h]
    let args' := ["-s".toList, g ++ ',' :: h, "film.mkv".toList, "-f".toList, "mkv".toList]
    (g ≠ everything ∧ Text.trimLeft h ≠ everything) ∧
      skips (some "mkv".toList) [some (g ++ ',' :: h)] ∧
      ∀ host env, run host env (CommandName.matching.spelling :: args) =
        run host env (CommandName.matching.spelling :: args') := by
  intro g h args args'
  have hg : g ≠ everything := by decide
  have hh : Text.trimLeft h ≠ everything := by decide
  obtain ⟨hskips, hruns⟩ := joined_means_repeated.2 hg hh
  have hargs : SpellOut args [.operand "film.mkv".toList, .format "mkv".toList, .skip g,
      .skip (Text.trimLeft h)] :=
    .operand _ (.switched (b := .format _) rfl (Or.inr rfl) (.switched (b := .skip _) rfl
      (Or.inr rfl) (.switched (b := .skip _) rfl (Or.inr rfl) .nil)))
  have hargs' : SpellOut args' [.skip (g ++ ',' :: h), .operand "film.mkv".toList,
      .format "mkv".toList] :=
    .switched (b := .skip _) rfl (Or.inl rfl) (.operand _ (.switched (b := .format _) rfl
      (Or.inl rfl) .nil))
  have hskipped : skips (some "mkv".toList) [some g, some (Text.trimLeft h)] := by decide +kernel
  exact ⟨⟨hg, hh⟩, (hskips _).trans hskipped, hruns "film.mkv".toList "mkv".toList []
    (by decide +kernel) (by decide +kernel) (by decide +kernel) hargs hargs'⟩

end MediaCatalog.CommandLine
