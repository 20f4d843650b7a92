import MediaCatalog.Proofs.Text.Cut
import MediaCatalog.Proofs.Text.FinalSigma
import MediaCatalog.Proofs.Text.Trim

/-!
# Lower case at a seam

A capital sigma looks for its neighbours beyond the case-ignorable characters, but it never looks
beyond a character that is neither case-ignorable nor cased. Such a character is a **seam** of the
text: what stands on either side of it is lower-cased as it would be on its own
(`MediaCatalog.Text.lower_append_seam`).

The comma is a seam, and so is white space. Since lower case neither makes nor drops any of them, a
list may be lower-cased before it is cut at its commas or piece by piece afterwards
(`MediaCatalog.Text.cut_lower`), and a text before or after it is trimmed
(`MediaCatalog.Text.trimLeft_lower`, `MediaCatalog.Text.trim_lower`).
-/

namespace MediaCatalog

namespace Text

/-! ### Seams -/

/-- A character that is neither cased nor case-ignorable. -/
structure IsSeam (c : Char) : Prop where
  /-- It is not cased. -/
  uncased : isCased c = false
  /-- It is not passed over in the search for a cased one. -/
  seen : isCaseIgnorable c = false

theorem isSeam_comma : IsSeam ',' := ⟨by decide +kernel, by decide +kernel⟩

theorem isSeam_of_isBlank {c : Char} (hc : isBlank c) : IsSeam c := by
  have hdisjoint :
      blankRanges.bits &&& CodeRanges.bits (casedRanges ++ caseIgnorableRanges) = 0 := by
    decide +kernel
  have hnone := CodeRanges.holds_eq_false_of_disjoint hdisjoint hc
  rw [CodeRanges.holds, List.any_append, Bool.or_eq_false_iff] at hnone
  exact ⟨hnone.1, hnone.2⟩

theorem ne_capitalSigma_of_isSeam {c : Char} (hc : IsSeam c) : c ≠ capitalSigma := by
  have hcased : isCased capitalSigma = true := by decide +kernel
  rintro rfl
  exact Bool.false_ne_true (hc.uncased.symm.trans hcased)

/-- Lower-casing starts afresh after a seam. -/
theorem lowerAfter_cons_seam {c : Char} (hc : IsSeam c) (b : Bool) (t : Text) :
    lowerAfter b (c :: t) = lowerChar c ++ lower t := by
  have hafter : casedAfter b c = false := by
    rw [casedAfter, hc.seen, if_neg Bool.false_ne_true, hc.uncased]
  rw [lowerAfter_cons (ne_capitalSigma_of_isSeam hc), hafter, lower]

/-- Nothing is seen of what stands behind a seam. -/
theorem startsCased_append_seam {c : Char} (hc : IsSeam c) (t u : Text) :
    startsCased (t ++ c :: u) = startsCased t := by
  induction t with
  | nil => simp [startsCased, hc.uncased, hc.seen]
  | cons d t ih => rw [List.cons_append, startsCased, startsCased, ih]

theorem lowerAfter_append_seam {c : Char} (hc : IsSeam c) (b : Bool) (t u : Text) :
    lowerAfter b (t ++ c :: u) = lowerAfter b t ++ (lowerChar c ++ lower u) := by
  induction t generalizing b with
  | nil => exact lowerAfter_cons_seam hc b u
  | cons d t ih =>
    rw [List.cons_append, lowerAfter, lowerAfter, startsCased_append_seam hc, ih, List.append_assoc]

/-- **A text is lower-cased on either side of a seam on its own.** -/
theorem lower_append_seam {c : Char} (hc : IsSeam c) (t u : Text) :
    lower (t ++ c :: u) = lower t ++ (lowerChar c ++ lower u) :=
  lowerAfter_append_seam hc false t u

/-! ### Commas -/

theorem lower_append_comma (t u : Text) : lower (t ++ ',' :: u) = lower t ++ ',' :: lower u := by
  have hcomma : lowerChar ',' = [','] := lowerChar_of_sign (by decide) (by decide)
  rw [lower_append_seam isSeam_comma, hcomma, List.singleton_append]

theorem lower_intercalate_comma (pieces : List Text) :
    lower ([','].intercalate pieces) = [','].intercalate (pieces.map lower) := by
  induction pieces with
  | nil => rfl
  | cons piece pieces ih =>
    cases pieces with
    | nil => rw [List.map_singleton, List.intercalate_singleton, List.intercalate_singleton]
    | cons next pieces =>
      rw [List.map_cons] at ih
      rw [List.map_cons, List.map_cons, List.intercalate_cons_cons, List.intercalate_cons_cons,
        List.append_assoc, List.append_assoc, List.singleton_append, List.singleton_append,
        lower_append_comma, ih]

/-- **A list may be lower-cased before it is cut, or piece by piece afterwards.** -/
theorem cut_lower (t : Text) : cut ',' (lower t) = (cut ',' t).map lower := by
  obtain ⟨hne, hjoin, hpieces⟩ := cut_eq_iff.mp (Eq.refl (cut ',' t))
  refine cut_eq_iff.mpr ⟨by simpa using hne, ?_, List.forall_mem_map.mpr ?_⟩
  · rw [← lower_intercalate_comma, ← hjoin]
  · intro piece hpiece
    rw [mem_lower_iff (by decide) (by decide)]
    exact hpieces piece hpiece

/-! ### White space -/

theorem blankRanges_isKeptBy_lower : blankRanges.isKeptBy lowerRuns changedRuns := by
  decide +kernel

theorem lowerChar_of_isBlank {c : Char} (hc : isBlank c) : lowerChar c = [c] :=
  lowerChar_eq_self fun _ hq => CodeRanges.covers_eq_false blankRanges_isKeptBy_lower hq hc

/-- Lower case makes no white space but of white space. -/
theorem isBlank_of_mem_lowerChar {c d : Char} (hc : isBlank c = false) (h : d ∈ lowerChar c) :
    isBlank d = false := by
  rcases lowerChar_cases c with rfl | rfl | ⟨r, hr, hcovers, d', hlow, hd'⟩ | hself
  · have hall : (lowerChar dottedCapitalI).all (fun d => !isBlank d) = true := by decide
    simpa using List.all_eq_true.mp hall d h
  · have hall : (lowerChar capitalSigma).all (fun d => !isBlank d) = true := by decide
    simpa using List.all_eq_true.mp hall d h
  · rw [hlow, List.mem_singleton] at h
    rw [h, isBlank, hd']
    exact CodeRanges.holds_apply_eq_false blankRanges_isKeptBy_lower hr hcovers
  · rw [hself, List.mem_singleton] at h
    rwa [h]

theorem lower_append_of_isBlankText {l : Text} (hl : isBlankText l) (t : Text) :
    lower (l ++ t) = l ++ lower t := by
  induction l with
  | nil => rfl
  | cons c l ih =>
    obtain ⟨hc, hl⟩ := List.forall_mem_cons.mp (isBlankText_iff.mp hl)
    rw [List.cons_append, lower, lowerAfter_cons_seam (isSeam_of_isBlank hc),
      lowerChar_of_isBlank hc, ih (isBlankText_iff.mpr hl), List.singleton_append, List.cons_append]

theorem lower_append_isBlankText (t : Text) {r : Text} (hr : isBlankText r) :
    lower (t ++ r) = lower t ++ r := by
  cases r with
  | nil => rw [List.append_nil, List.append_nil]
  | cons c r =>
    obtain ⟨hc, hr⟩ := List.forall_mem_cons.mp (isBlankText_iff.mp hr)
    have hrest : lower r = r := by
      simpa [lower, lowerAfter] using lower_append_of_isBlankText (isBlankText_iff.mpr hr) []
    rw [lower_append_seam (isSeam_of_isBlank hc), lowerChar_of_isBlank hc, hrest,
      List.singleton_append]

/-- The first character of a text is lower-cased on its own. -/
theorem lower_cons (c : Char) (t : Text) :
    lower (c :: t) = lowerChar c ++ lowerAfter (casedAfter false c) t := by
  rw [lower, lowerAfter, if_neg fun h => Bool.false_ne_true h.2.1]
  rfl

theorem startsBare_lower {t : Text} (ht : StartsBare t) : StartsBare (lower t) := by
  cases t with
  | nil => exact ht
  | cons c t =>
    obtain ⟨d, ds, hd⟩ := List.exists_cons_of_ne_nil (lowerChar_ne_nil c)
    rw [lower_cons, hd]
    rintro e he
    obtain rfl := Option.some.inj he
    exact isBlank_of_mem_lowerChar (ht c rfl) (hd ▸ List.mem_cons_self)

/-- **White space at the start may be dropped before or after lower-casing.** -/
theorem trimLeft_lower (t : Text) : trimLeft (lower t) = lower (trimLeft t) := by
  obtain ⟨l, ht, hl⟩ := exists_append_trimLeft t
  calc trimLeft (lower t) = trimLeft (l ++ lower (trimLeft t)) := by
        rw [← lower_append_of_isBlankText hl, ← ht]
    _ = lower (trimLeft t) := trimLeft_append hl (startsBare_lower (startsBare_trimLeft t))

/-- Lower case ends bare if the text does. -/
theorem last_lower {t : Text} (ht : ∀ c ∈ t.getLast?, isBlank c = false) :
    ∀ d ∈ (lower t).getLast?, isBlank d = false := by
  rcases List.eq_nil_or_concat t with rfl | ⟨u, c, rfl⟩
  · exact ht
  · rw [List.concat_eq_append] at ht ⊢
    have hc : isBlank c = false := ht c List.getLast?_concat
    -- What becomes of the last character ends the lower case, be the character a sigma or not.
    obtain ⟨v, hv⟩ := lowerAfter_suffix false u [c]
    generalize u.foldl casedAfter false = b at hv
    have hbare : lowerAfter b [c] ≠ [] ∧ ∀ d ∈ lowerAfter b [c], isBlank d = false := by
      rcases lowerAfter_cons_cases b c [] with hown | ⟨-, hfinal⟩
      · rw [hown, lowerAfter, List.append_nil]
        exact ⟨lowerChar_ne_nil c, fun d hd => isBlank_of_mem_lowerChar hc hd⟩
      · have hsigma : isBlank finalSigma = false := by decide
        rw [hfinal, lowerAfter]
        exact ⟨List.cons_ne_nil _ _, List.forall_mem_singleton.mpr hsigma⟩
    intro d hd
    rw [lower, ← hv, List.getLast?_append_of_ne_nil _ hbare.1] at hd
    exact hbare.2 d (List.mem_of_getLast? hd)

theorem isTrimmed_lower {t : Text} (ht : IsTrimmed t) : IsTrimmed (lower t) :=
  ⟨startsBare_lower ht.start, last_lower ht.last⟩

theorem trim_lower (t : Text) : trim (lower t) = lower (trim t) :=
  trim_comm (fun hl hr => by
    rw [lower_append_of_isBlankText hl, lower_append_isBlankText _ hr]) isTrimmed_lower t

theorem lower_eq_nil_iff {t : Text} : lower t = [] ↔ t = [] := by
  cases t with
  | nil => exact iff_of_true rfl rfl
  | cons c t => simp [lower_cons, lowerChar_ne_nil]

theorem isBlankText_lower (t : Text) : isBlankText (lower t) = isBlankText t := by
  rw [Bool.eq_iff_iff, isBlankText_iff, isBlankText_iff, ← List.dropWhile_eq_nil_iff,
    ← List.dropWhile_eq_nil_iff, ← trimLeft, ← trimLeft, trimLeft_lower, lower_eq_nil_iff]

end Text

end MediaCatalog
