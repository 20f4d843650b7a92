import MediaCatalog.Text.Blank
import Mathlib.Data.List.DropRight
import Mathlib.Data.List.TakeWhile

/-!
# White space around a text

A text is white space, the trimmed text, and white space again
(`MediaCatalog.Text.exists_append_trim`). This is the one way to read it as a text that neither
starts nor ends with white space and has white space around it (`MediaCatalog.Text.trim_append`). So
whatever leaves the white space at the edges where it is, and makes none there, may be done before
or after trimming (`MediaCatalog.Text.trim_comm`).
-/

namespace MediaCatalog

namespace Text

theorem isBlankText_iff {t : Text} : isBlankText t ↔ ∀ c ∈ t, isBlank c := List.all_eq_true

/-! ### The start of a text -/

/-- A text that does not start with white space. -/
def StartsBare (t : Text) : Prop := ∀ c ∈ t.head?, isBlank c = false

theorem startsBare_trimLeft (t : Text) : StartsBare (trimLeft t) := by
  intro c hc
  have hnot := List.head?_dropWhile_not isBlank t
  rw [← trimLeft, Option.mem_def.mp hc] at hnot
  simpa using hnot

theorem exists_append_trimLeft (t : Text) : ∃ l, t = l ++ trimLeft t ∧ isBlankText l :=
  ⟨t.takeWhile isBlank, List.takeWhile_append_dropWhile.symm, List.all_takeWhile⟩

theorem trimLeft_of_startsBare {t : Text} (ht : StartsBare t) : trimLeft t = t := by
  cases t with
  | nil => rfl
  | cons c t => exact List.dropWhile_cons_of_neg (Bool.eq_false_iff.mp (ht c rfl))

theorem trimLeft_append {l t : Text} (hl : isBlankText l) (ht : StartsBare t) :
    trimLeft (l ++ t) = t := by
  rw [trimLeft, List.dropWhile_append_of_pos (isBlankText_iff.mp hl)]
  exact trimLeft_of_startsBare ht

/-! ### Both edges -/

/-- A text that neither starts nor ends with white space. -/
structure IsTrimmed (t : Text) : Prop where
  /-- It does not start with white space. -/
  start : StartsBare t
  /-- It does not end with white space. -/
  last : ∀ c ∈ t.getLast?, isBlank c = false

theorem trim_eq_rdropWhile (t : Text) : trim t = (trimLeft t).rdropWhile isBlank := rfl

theorem isTrimmed_trim (t : Text) : IsTrimmed (trim t) where
  start c hc := by
    obtain ⟨r, hr⟩ : trim t <+: trimLeft t := List.rdropWhile_prefix isBlank _
    refine startsBare_trimLeft t c ?_
    rw [← hr, List.head?_append, Option.mem_def.mp hc]
    rfl
  last c hc := by
    obtain ⟨hne, rfl⟩ := List.mem_getLast?_eq_getLast hc
    exact Bool.eq_false_iff.mpr (List.rdropWhile_last_not isBlank _ hne)

/-- **A text is what trimming leaves, with white space around it.** -/
theorem exists_append_trim (t : Text) :
    ∃ l r, t = l ++ (trim t ++ r) ∧ isBlankText l ∧ isBlankText r := by
  obtain ⟨l, hl, hblank⟩ := exists_append_trimLeft t
  refine ⟨l, (trimLeft t).rtakeWhile isBlank, ?_, hblank, ?_⟩
  · rw [trim_eq_rdropWhile, List.rdropWhile_append_rtakeWhile, ← hl]
  · exact isBlankText_iff.mpr fun c hc => List.mem_rtakeWhile_imp hc

theorem trim_append {l t r : Text} (hl : isBlankText l) (hr : isBlankText r) (ht : IsTrimmed t) :
    trim (l ++ (t ++ r)) = t := by
  have hrest : (t ++ r).rdropWhile isBlank = t := by
    have hreverse : ∀ c ∈ r.reverse, isBlank c := fun c hc =>
      isBlankText_iff.mp hr c (List.mem_reverse.mp hc)
    rw [List.rdropWhile, List.reverse_append, List.dropWhile_append_of_pos hreverse]
    have hbare : StartsBare t.reverse := fun c hc => ht.last c (by rwa [List.head?_reverse] at hc)
    rw [← trimLeft, trimLeft_of_startsBare hbare, List.reverse_reverse]
  cases t with
  | nil =>
    have hnil : trimLeft r = [] := List.dropWhile_eq_nil_iff.mpr (isBlankText_iff.mp hr)
    rw [trim_eq_rdropWhile, List.nil_append, trimLeft,
      List.dropWhile_append_of_pos (isBlankText_iff.mp hl), ← trimLeft, hnil]
    rfl
  | cons c t =>
    have hstart : StartsBare (c :: t ++ r) := fun d hd => ht.start d hd
    rw [trim_eq_rdropWhile, trimLeft_append hl hstart, hrest]

theorem trim_of_isBlankText {t : Text} (ht : isBlankText t) : trim t = [] := by
  have hnil : IsTrimmed [] := ⟨fun c hc => (nomatch hc), fun c hc => (nomatch hc)⟩
  have htrim := trim_append ht (r := []) rfl hnil
  rwa [List.append_nil, List.append_nil] at htrim

/-- **What leaves the edges of a text alone may be done before or after trimming.** -/
theorem trim_comm {f : Text → Text}
    (hedges : ∀ {l t r}, isBlankText l → isBlankText r → f (l ++ (t ++ r)) = l ++ (f t ++ r))
    (htrimmed : ∀ {t}, IsTrimmed t → IsTrimmed (f t)) (t : Text) : trim (f t) = f (trim t) := by
  obtain ⟨l, r, ht, hl, hr⟩ := exists_append_trim t
  calc trim (f t) = trim (l ++ (f (trim t) ++ r)) := by rw [← hedges hl hr, ← ht]
    _ = f (trim t) := trim_append hl hr (htrimmed (isTrimmed_trim t))

/-! ### Character by character -/

section FlatMap

variable {f : Char → Text}

theorem flatMap_of_isBlankText (hkeep : ∀ c, isBlank c → f c = [c]) {t : Text}
    (ht : isBlankText t) : t.flatMap f = t := by
  rw [List.flatMap_congr fun c hc => hkeep c (isBlankText_iff.mp ht c hc), List.flatMap_singleton']

theorem startsBare_flatMap (hne : ∀ c, f c ≠ [])
    (hbare : ∀ c, isBlank c = false → ∀ d ∈ f c, isBlank d = false) {t : Text}
    (ht : StartsBare t) : StartsBare (t.flatMap f) := by
  cases t with
  | nil => exact ht
  | cons c t =>
    obtain ⟨d, ds, hd⟩ := List.exists_cons_of_ne_nil (hne c)
    rw [List.flatMap_cons, hd]
    rintro e he
    obtain rfl := Option.some.inj he
    exact hbare c (ht c rfl) d (hd ▸ List.mem_cons_self)

theorem isTrimmed_flatMap (hne : ∀ c, f c ≠ [])
    (hbare : ∀ c, isBlank c = false → ∀ d ∈ f c, isBlank d = false) {t : Text}
    (ht : IsTrimmed t) : IsTrimmed (t.flatMap f) where
  start := startsBare_flatMap hne hbare ht.start
  last := by
    -- The end of a text is the start of the reversed text.
    have hreverse : (t.flatMap f).reverse = t.reverse.flatMap fun c => (f c).reverse :=
      List.reverse_flatMap
    have hend : StartsBare t.reverse := fun c hc => ht.last c (by rwa [List.head?_reverse] at hc)
    have hbare' : StartsBare (t.flatMap f).reverse := by
      rw [hreverse]
      exact startsBare_flatMap (fun c => List.reverse_ne_nil_iff.mpr (hne c))
        (fun c hc d hd => hbare c hc d (List.mem_reverse.mp hd)) hend
    exact fun d hd => hbare' d (by rwa [List.head?_reverse])

/-- **What is replaced character by character may be trimmed before or after**, if white space
stays white space and nothing else becomes it. -/
theorem trim_flatMap (hkeep : ∀ c, isBlank c → f c = [c]) (hne : ∀ c, f c ≠ [])
    (hbare : ∀ c, isBlank c = false → ∀ d ∈ f c, isBlank d = false) (t : Text) :
    trim (t.flatMap f) = (trim t).flatMap f := by
  refine trim_comm (fun hl hr => ?_) (isTrimmed_flatMap hne hbare) t
  rw [List.flatMap_append, List.flatMap_append, flatMap_of_isBlankText hkeep hl,
    flatMap_of_isBlankText hkeep hr]

end FlatMap

end Text

end MediaCatalog
