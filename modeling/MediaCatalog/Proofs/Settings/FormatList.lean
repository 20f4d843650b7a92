import MediaCatalog.Proofs.Settings.Faults
import MediaCatalog.Proofs.Text.Cut
import MediaCatalog.Proofs.Text.UpperCase

/-!
# Lists of formats in the environment

A list of formats is written down as entries with commas between them
(`MediaCatalog.Settings.Lists`). Each format has an entry, and the entry need not be the name of the
format: any spelling will do that has the name for its upper case, such as one with a ligature, and
there may be white space around it. Blank entries may stand anywhere.

Loading reads all of this back to the list that was written down, in order and with its repetitions,
and there is no other way to write it down (`MediaCatalog.Settings.load_formats_iff_lists`).
-/

namespace MediaCatalog

open Text

/-! ### Spellings of a name -/

theorem FormatId.isTrimmed_name (id : FormatId) : IsTrimmed id.name := by
  have hall := FormatId.forall_of_all (P := fun id => id.name.all fun c => !isBlank c)
    (by decide +kernel) id
  have hbare : ∀ c ∈ id.name, isBlank c = false := by simpa using hall
  exact ⟨fun c hc => hbare c (List.mem_of_head? hc), fun c hc => hbare c (List.mem_of_getLast? hc)⟩

/-- White space around a spelling is dropped, whatever the case. -/
theorem upper_trim_of_spelling {l w r : Text} {id : FormatId} (hl : isBlankText l)
    (hr : isBlankText r) (hw : upper w = id.name) : upper (trim (l ++ (w ++ r))) = id.name := by
  have hkeep {t : Text} (ht : isBlankText t) : upper t = t :=
    flatMap_of_isBlankText upperChar_of_isBlank ht
  calc upper (trim (l ++ (w ++ r))) = trim (upper (l ++ (w ++ r))) := (trim_upper _).symm
    _ = trim (l ++ (id.name ++ r)) := by
      rw [upper, List.flatMap_append, List.flatMap_append, ← upper, ← upper, ← upper, hkeep hl,
        hkeep hr, hw]
    _ = id.name := trim_append hl hr id.isTrimmed_name

namespace Settings

/-! ### Writing a list down -/

/-- Entries that write down a list of formats. -/
inductive Lists : List Text → List FormatId → Prop
  | nil : Lists [] []
  /-- A blank entry stands for nothing. -/
  | blank {entry : Text} {entries : List Text} {ids : List FormatId} (hblank : isBlankText entry)
      (hrest : Lists entries ids) : Lists (entry :: entries) ids
  /-- A format is spelled in any way that has its name for the upper case, and that holds no comma.
  There may be white space on either side. -/
  | named {l w r : Text} {entries : List Text} {id : FormatId} {ids : List FormatId}
      (hl : isBlankText l) (hr : isBlankText r) (hw : upper w = id.name) (hcomma : ',' ∉ w)
      (hrest : Lists entries ids) : Lists ((l ++ (w ++ r)) :: entries) (id :: ids)

theorem comma_not_mem_of_isBlankText {t : Text} (ht : isBlankText t) : ',' ∉ t := by
  have hcomma : isBlank ',' = false := by decide
  exact fun hmem => Bool.false_ne_true (hcomma.symm.trans (isBlankText_iff.mp ht ',' hmem))

/-- **Entries write down a list** if and only if none of them holds a comma and those which are not
blank are its names, up to case and white space. -/
theorem lists_iff {entries : List Text} {ids : List FormatId} :
    Lists entries ids ↔ (∀ entry ∈ entries, ',' ∉ entry) ∧
      ((entries.filter fun entry => !isBlankText entry).map fun entry => upper (trim entry)) =
        ids.map FormatId.name := by
  constructor
  · intro h
    induction h with
    | nil => simp
    | blank hblank hrest ih =>
      refine ⟨List.forall_mem_cons.mpr ⟨comma_not_mem_of_isBlankText hblank, ih.1⟩, ?_⟩
      rw [List.filter_cons_of_neg (by simpa using hblank), ih.2]
    | @named l w r entries id ids hl hr hw hcomma hrest ih =>
      have hname := upper_trim_of_spelling hl hr hw
      have hseen : isBlankText (l ++ (w ++ r)) = false := by
        refine Bool.eq_false_iff.mpr fun hblank => ?_
        exact Catalog.readId_ne_ok_of_isBlankText hblank id (Catalog.readId_eq_ok_iff.mpr hname)
      constructor
      · refine List.forall_mem_cons.mpr ⟨?_, ih.1⟩
        simp [comma_not_mem_of_isBlankText hl, comma_not_mem_of_isBlankText hr, hcomma]
      · rw [List.filter_cons_of_pos (by simpa using hseen), List.map_cons, List.map_cons, hname,
          ih.2]
  · rintro ⟨hcomma, hnames⟩
    induction entries generalizing ids with
    | nil =>
      obtain rfl : ids = [] := by simpa [eq_comm] using hnames
      exact .nil
    | cons entry entries ih =>
      obtain ⟨hentry, hcomma⟩ := List.forall_mem_cons.mp hcomma
      cases hblank : isBlankText entry with
      | true =>
        rw [List.filter_cons_of_neg (by simpa using hblank)] at hnames
        exact .blank hblank (ih hcomma hnames)
      | false =>
        rw [List.filter_cons_of_pos (by simpa using hblank), List.map_cons, eq_comm,
          List.map_eq_cons_iff] at hnames
        obtain ⟨id, ids, rfl, hname, hnames⟩ := hnames
        obtain ⟨l, r, hsplit, hl, hr⟩ := exists_append_trim entry
        rw [hsplit]
        refine .named hl hr hname.symm (fun hmem => hentry ?_) (ih hcomma hnames.symm)
        rw [hsplit]
        exact List.mem_append_right _ (List.mem_append_left _ hmem)

/-! ### Reading it back -/

theorem readFormats_eq_ok_iff {raw : Text} {ids : List FormatId} :
    readFormats raw = .ok ids ↔ Lists (cut ',' raw) ids := by
  rw [readFormats, readEntries_eq_ok_iff, lists_iff]
  exact (and_iff_right fun _ => not_mem_of_mem_cut).symm

/-- The pieces of a text between its commas are what it was joined from, but for one thing: no
entries at all make the same text as a blank one. -/
theorem lists_cut_iff {raw : Text} {ids : List FormatId} :
    Lists (cut ',' raw) ids ↔ ∃ entries, Lists entries ids ∧ raw = join [','] entries := by
  constructor
  · intro h
    refine ⟨cut ',' raw, h, ?_⟩
    rw [join_eq_intercalate]
    exact (cut_eq_iff.mp rfl).2.1
  · rintro ⟨entries, h, rfl⟩
    cases entries with
    | nil =>
      cases h
      exact .blank rfl .nil
    | cons entry entries => rwa [cut_join (List.cons_ne_nil _ _) (lists_iff.mp h).1]

/-- **Formats survive the environment**: whatever else is set, the formats that are loaded from a
text are a given list exactly if the text is made of entries that write down this list. For there to
be any settings at all, the level must not be at fault. -/
theorem load_formats_iff_lists {env : Environment} {raw : Text}
    (hraw : env.rendererFormats = some raw) (ids : List FormatId) :
    (∃ s, load env = .ok s ∧ s.rendererFormats = ids) ↔
      ¬HasFaultyLevel env ∧ ∃ entries, Lists entries ids ∧ raw = join [','] entries := by
  rw [← lists_cut_iff, ← readFormats_eq_ok_iff]
  constructor
  · rintro ⟨s, hload, rfl⟩
    have hformats := (load_eq_ok_iff.mp hload).1
    rw [hraw] at hformats
    refine ⟨?_, hformats⟩
    rintro ⟨level, hset, hnone⟩
    exact hnone s.logLevel ((isSetBy_of_load hload).level level hset)
  · rintro ⟨hlevel, hformats⟩
    obtain ⟨level, hread⟩ := exists_levelOf_eq_ok hlevel
    refine ⟨⟨level, env.rendererName.getD defaultRendererName, ids⟩, ?_, rfl⟩
    exact load_eq_ok_iff.mpr ⟨by rwa [hraw], hread, rfl⟩

/-- A list with a repetition: one entry is in mixed case, with white space beyond ASCII, one has a
ligature, and there are blank entries between them. -/
theorem load_formats_iff_lists_ligature :
    let env : Environment := { rendererFormats := some " mKv\u2003,,\t\uFB02ac ,  ,MKV,".toList }
    env.rendererFormats.isSome ∧
      ∃ s, load env = .ok s ∧ s.rendererFormats = [.mkv, .flac, .mkv] := by
  intro env
  have hlevel : ¬HasFaultyLevel env := by
    rintro ⟨raw, hraw, -⟩
    cases hraw
  have hempty : isBlankText [] := rfl
  have hlists : Lists
      [[' '] ++ ("mKv".toList ++ ['\u2003']), [], ['\t'] ++ ("\uFB02ac".toList ++ [' ']),
        [' ', ' '], [] ++ ("MKV".toList ++ []), []] [.mkv, .flac, .mkv] := by
    refine .named (by decide) (by decide) (by decide +kernel) (by decide) (.blank hempty ?_)
    refine .named (by decide) (by decide) (by decide +kernel) (by decide) (.blank (by decide) ?_)
    exact .named hempty hempty (by decide +kernel) (by decide) (.blank hempty .nil)
  exact ⟨rfl, (load_formats_iff_lists rfl _).mpr ⟨hlevel, _, hlists, by decide +kernel⟩⟩

end Settings

end MediaCatalog
