import MediaCatalog.Proofs.Text.CaseRun
import MediaCatalog.Text.Case
import Mathlib.Data.List.Basic

/-!
# Lower case, piece by piece

Lower-casing reads a text from left to right, and a single bit is all that it takes from what
stands before: whether the nearest character that is not case-ignorable is cased. What stands
*after* matters for a capital sigma only. A piece without one is therefore lower-cased character
by character, and leaves behind the bit that `MediaCatalog.Text.casedAfter` computes
(`MediaCatalog.Text.lowerAfter_append`).

On ASCII the full mapping is the one that everybody knows
(`MediaCatalog.Text.lowerChar_of_ascii`). Beyond it, whatever lower-casing changes becomes a small
letter or a character that comes after those, so that the signs of a text, such as its dots and
commas, are the signs of its lower case (`MediaCatalog.Text.mem_lower_iff`). Nearly all of ASCII is
made from ASCII only, so that a piece of a lower-cased text tells which characters it was made from
(`MediaCatalog.Text.exists_append_of_prefix_lowerAfter`). For a whole text it is enough that there
is no k in it (`MediaCatalog.Text.lower_eq_iff_of_ascii`).

Nothing that lower-casing makes is changed by it again, neither one by one nor by the company it is
in (`MediaCatalog.Text.lower_lower`).
-/

namespace MediaCatalog

namespace Text

/-! ### Pieces without a capital sigma -/

/-- Whether the nearest character that counts is cased, after one more character. -/
def casedAfter (afterCased : Bool) (c : Char) : Bool :=
  if isCaseIgnorable c then afterCased else isCased c

theorem lowerAfter_cons {c : Char} (hc : c ≠ capitalSigma) (b : Bool) (t : Text) :
    lowerAfter b (c :: t) = lowerChar c ++ lowerAfter (casedAfter b c) t := by
  rw [lowerAfter, if_neg fun h => hc h.1]
  rfl

/-- A character is lower-cased on its own, unless it is a capital sigma that becomes the final
one. -/
theorem lowerAfter_cons_cases (b : Bool) (c : Char) (t : Text) :
    lowerAfter b (c :: t) = lowerChar c ++ lowerAfter (casedAfter b c) t ∨
      c = capitalSigma ∧ lowerAfter b (c :: t) = finalSigma :: lowerAfter (casedAfter b c) t := by
  rw [lowerAfter]
  split
  · next hfinal => exact Or.inr ⟨hfinal.1, rfl⟩
  · exact Or.inl rfl

/-- **A piece without a capital sigma is lower-cased on its own.** What follows it goes on with
the bit that the piece leaves behind. -/
theorem lowerAfter_append {t : Text} (ht : capitalSigma ∉ t) (b : Bool) (u : Text) :
    lowerAfter b (t ++ u) = t.flatMap lowerChar ++ lowerAfter (t.foldl casedAfter b) u := by
  induction t generalizing b with
  | nil => rfl
  | cons c t ih =>
    obtain ⟨hc, ht⟩ := List.ne_and_not_mem_of_not_mem_cons ht
    rw [List.cons_append, lowerAfter_cons hc.symm, ih ht, List.flatMap_cons, List.append_assoc,
      List.foldl_cons]

theorem lower_of_not_mem {t : Text} (ht : capitalSigma ∉ t) : lower t = t.flatMap lowerChar := by
  have h := lowerAfter_append ht false []
  rwa [List.append_nil, lowerAfter, List.append_nil] at h

/-! ### ASCII -/

/-- A property of the ASCII characters may be checked code point by code point. -/
theorem forall_ascii {P : Char → Prop} (h : ∀ n < 128, P (Char.ofNat n)) {c : Char}
    (hc : c.toNat < 128) : P c := by
  have hP := h c.toNat hc
  rwa [Char.ofNat_toNat] at hP

theorem ascii_of_isAlphanum {c : Char} (h : c.isAlphanum) : c.toNat < 128 := by
  have hcases : ((c.isUpper || c.isLower) || c.isDigit) = true := h
  rw [Bool.or_eq_true, Bool.or_eq_true] at hcases
  rcases hcases with (hupper | hlower) | hdigit
  · have hle : c.toNat ≤ 'Z'.toNat := UInt32.le_iff_toNat_le.mp (of_decide_eq_true hupper).2
    exact Nat.lt_of_le_of_lt hle (by decide)
  · have hle : c.toNat ≤ 'z'.toNat :=
      UInt32.le_iff_toNat_le.mp (of_decide_eq_true (Bool.and_eq_true_iff.mp hlower).2)
    exact Nat.lt_of_le_of_lt hle (by decide)
  · have hle : c.toNat ≤ '9'.toNat := (Char.isDigit_iff_toNat.mp hdigit).2
    exact Nat.lt_of_le_of_lt hle (by decide)

theorem ascii_of_isAlpha {c : Char} (h : c.isAlpha) : c.toNat < 128 :=
  ascii_of_isAlphanum (by rw [Char.isAlphanum, h, Bool.true_or])

theorem ascii_of_isDigit {c : Char} (h : c.isDigit) : c.toNat < 128 :=
  ascii_of_isAlphanum (by rw [Char.isAlphanum, h, Bool.or_true])

theorem toLower_of_not_isUpper {c : Char} (h : c.isUpper = false) : c.toLower = c :=
  dif_neg (of_decide_eq_false h)

/-- The case of ASCII letters is that of ASCII characters. -/
theorem toLower_of_not_ascii {c : Char} (h : ¬c.toNat < 128) : c.toLower = c :=
  toLower_of_not_isUpper (Bool.eq_false_iff.mpr fun hupper =>
    h (ascii_of_isAlpha (Bool.or_eq_true_iff.mpr (Or.inl hupper))))

theorem ascii_toLower_iff {c : Char} : c.toLower.toNat < 128 ↔ c.toNat < 128 := by
  by_cases hc : c.toNat < 128
  · exact iff_of_true (forall_ascii (P := fun c => c.toLower.toNat < 128) (by decide +kernel) hc) hc
  · rw [toLower_of_not_ascii hc]

theorem isAlpha_toLower (c : Char) : c.toLower.isAlpha = c.isAlpha := by
  by_cases hc : c.toNat < 128
  · exact forall_ascii (P := fun c => c.toLower.isAlpha = c.isAlpha) (by decide +kernel) hc
  · rw [toLower_of_not_ascii hc]

/-- What is no letter in lower case is not changed by it. -/
theorem toLower_eq_self {c : Char} (h : c.toLower.isAlpha = false) : c.toLower = c := by
  have hcases : (c.isUpper || c.isLower) = false := (isAlpha_toLower c).symm.trans h
  exact toLower_of_not_isUpper (Bool.or_eq_false_iff.mp hcases).1

/-! ### The table -/

/-- The capitals of ASCII are the first run of the table, and no other run moves an ASCII
character. -/
theorem moveBy_lowerRuns_of_ascii {n : Nat} (hn : n < 128) :
    moveBy lowerRuns n = moveBy [⟨0x41, 26, 1, 0x61⟩] n :=
  moveBy_cons_of_lt lowerRuns.tail (by decide +kernel) hn

theorem lowerChar_of_ascii {c : Char} (hc : c.toNat < 128) : lowerChar c = [c.toLower] := by
  have hne : c ≠ dottedCapitalI ∧ c ≠ capitalSigma := by
    constructor <;> rintro rfl <;> exact absurd hc (by decide)
  rw [lowerChar, if_neg hne.1, if_neg hne.2, moveBy_lowerRuns_of_ascii hc, List.singleton_inj]
  exact forall_ascii (P := fun c => Char.ofNat (moveBy [⟨0x41, 26, 1, 0x61⟩] c.toNat) = c.toLower)
    (by decide +kernel) hc

/-- A sign, a digit or a control is its own small form. -/
theorem lowerChar_of_sign {c : Char} (hc : c.toNat < 128) (hupper : c.isUpper = false) :
    lowerChar c = [c] := by
  rw [lowerChar_of_ascii hc, toLower_of_not_isUpper hupper]

/-- The ways in which a character is lower-cased. -/
inductive Lowering (c : Char) : Prop
  /-- It is the capital with two small characters. -/
  | dotted (h : c = dottedCapitalI)
  /-- It is the capital whose small form depends on its neighbours. -/
  | sigma (h : c = capitalSigma)
  /-- A run of the table moves it. -/
  | moved (r : CaseRun) (hr : r ∈ lowerRuns) (hcovers : r.covers c.toNat) (d : Char)
      (hlow : lowerChar c = [d]) (hd : d.toNat = r.apply c.toNat)
  /-- It stays as it is. -/
  | kept (hself : lowerChar c = [c])

/-- **How a character is lower-cased**: it is one of the two capitals that no run can express, or a
run of the table moves it, or it stays as it is. -/
theorem lowerChar_cases (c : Char) : Lowering c := by
  have hruns : ∀ r ∈ lowerRuns, r.makesChars := by decide +kernel
  by_cases hI : c = dottedCapitalI
  · exact .dotted hI
  by_cases hsigma : c = capitalSigma
  · exact .sigma hsigma
  have hlow : lowerChar c = [Char.ofNat (moveBy lowerRuns c.toNat)] := by
    rw [lowerChar, if_neg hI, if_neg hsigma]
  rcases ofNat_moveBy_cases hruns c with ⟨r, hr, hcovers, hd⟩ | hself
  · exact .moved r hr hcovers _ hlow hd
  · exact .kept (hlow.trans (congrArg ([·]) hself))

/-! ### Characters that stay -/

/-- Lower-casing leaves a character alone or makes it a small letter or a character beyond. -/
theorem lowerChar_eq_self_or (c : Char) :
    lowerChar c = [c] ∨ ∀ d ∈ lowerChar c, 'a'.toNat ≤ d.toNat := by
  have himage : ∀ r ∈ lowerRuns, 'a'.toNat ≤ r.image := by decide +kernel
  rcases lowerChar_cases c with rfl | rfl | ⟨r, hr, hcovers, d, hlow, hd⟩ | hself
  · have hall : (lowerChar dottedCapitalI).all (fun d => 'a'.toNat ≤ d.toNat) = true := by decide
    exact Or.inr (by simpa only [List.all_eq_true, decide_eq_true_eq] using hall)
  · have hall : (lowerChar capitalSigma).all (fun d => 'a'.toNat ≤ d.toNat) = true := by decide
    exact Or.inr (by simpa only [List.all_eq_true, decide_eq_true_eq] using hall)
  · rw [hlow]
    refine Or.inr (List.forall_mem_singleton.mpr ?_)
    rw [hd]
    exact Nat.le_trans (himage r hr) (Nat.le_add_right _ _)
  · exact Or.inl hself

/-- A character before the small letters that is no capital comes out of lower-casing where it was,
and nowhere else. -/
theorem mem_lowerChar_iff {c d : Char} (hd : d.toNat < 'a'.toNat) (hupper : d.isUpper = false) :
    d ∈ lowerChar c ↔ d = c := by
  constructor
  · intro hmem
    rcases lowerChar_eq_self_or c with hself | hbeyond
    · rw [hself] at hmem
      exact List.mem_singleton.mp hmem
    · exact absurd hd (Nat.not_lt.mpr (hbeyond d hmem))
  · rintro rfl
    rw [lowerChar_of_sign (Nat.lt_trans hd (by decide)) hupper, List.mem_singleton]

theorem mem_lowerAfter_iff {d : Char} (hd : d.toNat < 'a'.toNat) (hupper : d.isUpper = false)
    (b : Bool) (t : Text) : d ∈ lowerAfter b t ↔ d ∈ t := by
  induction t generalizing b with
  | nil => rfl
  | cons c t ih =>
    rcases lowerAfter_cons_cases b c t with hown | ⟨rfl, hfinal⟩
    · rw [hown, List.mem_append, mem_lowerChar_iff hd hupper, ih, List.mem_cons]
    · -- Neither the capital sigma nor its final form comes before the small letters.
      have hne : d ≠ finalSigma ∧ d ≠ capitalSigma := by
        constructor <;> rintro rfl <;> exact absurd hd (by decide)
      rw [hfinal, List.mem_cons, ih, List.mem_cons, or_iff_right hne.1, or_iff_right hne.2]

/-- **Signs, digits and controls stay where they are**: lower case makes none and drops none. -/
theorem mem_lower_iff {d : Char} (hd : d.toNat < 'a'.toNat) (hupper : d.isUpper = false)
    {t : Text} : d ∈ lower t ↔ d ∈ t := mem_lowerAfter_iff hd hupper false t

/-! ### Characters that ASCII makes -/

/-- Whether a character is ASCII and made from ASCII only. The small i and the small k are not: the
dotted capital I and the Kelvin sign make them too. -/
def isMadeOfAscii (d : Char) : Bool := d.toNat < 128 && d != 'i' && d != 'k'

/-- An ASCII character other than the small k is made from ASCII, or from the dotted capital I. -/
theorem ascii_or_dotted_of_mem_lowerChar {c d : Char} (hd : d.toNat < 128) (hk : d ≠ 'k')
    (h : d ∈ lowerChar c) : c.toNat < 128 ∨ c = dottedCapitalI := by
  have htable : ∀ r ∈ lowerRuns, r.first + r.count * r.stride ≤ 128 ∨ 128 ≤ r.image ∨
      r.count * r.stride = 1 ∧ r.image = 'k'.toNat := by decide +kernel
  rcases lowerChar_cases c with rfl | rfl | ⟨r, hr, hcovers, d', hlow, hd'⟩ | hself
  · exact Or.inr rfl
  · obtain rfl : d = smallSigma := List.mem_singleton.mp h
    exact absurd hd (by decide)
  · rw [hlow, List.mem_singleton] at h
    obtain rfl := h
    have hne : d.toNat ≠ 'k'.toNat := fun heq => hk (Char.toNat_inj.mp heq)
    rw [hd', CaseRun.apply] at hd hne
    rw [CaseRun.covers_iff] at hcovers
    have hrow := htable r hr
    exact Or.inl (by omega)
  · rw [hself, List.mem_singleton] at h
    exact Or.inl (h ▸ hd)

theorem ascii_of_mem_lowerChar {c d : Char} (hd : isMadeOfAscii d) (h : d ∈ lowerChar c) :
    c.toNat < 128 := by
  simp only [isMadeOfAscii, Bool.and_eq_true, decide_eq_true_eq, bne_iff_ne] at hd
  obtain ⟨⟨hascii, hi⟩, hk⟩ := hd
  rcases ascii_or_dotted_of_mem_lowerChar hascii hk h with hc | rfl
  · exact hc
  · obtain rfl | rfl : d = 'i' ∨ d = '\u0307' := by
      simpa only [lowerChar, if_true, List.mem_cons, List.not_mem_nil, or_false] using h
    · exact absurd rfl hi
    · exact absurd hascii (by decide)

theorem lowerChar_ne_nil (c : Char) : lowerChar c ≠ [] := by
  rw [lowerChar]
  split
  · exact List.cons_ne_nil _ _
  · split
    · exact List.cons_ne_nil _ _
    · exact List.cons_ne_nil _ _

/-- **What a piece of a lower-cased text was made from**: if ASCII alone makes it, it is the lower
case of a piece of the text. -/
theorem exists_append_of_prefix_lowerAfter {p t : Text} (hp : ∀ d ∈ p, isMadeOfAscii d) {b : Bool}
    (h : p <+: lowerAfter b t) : ∃ q r, t = q ++ r ∧ q.map Char.toLower = p := by
  induction p generalizing b t with
  | nil => exact ⟨[], t, rfl, rfl⟩
  | cons d p ih =>
    obtain ⟨hd, htail⟩ := List.forall_mem_cons.mp hp
    cases t with
    | nil => exact absurd h (by simp [lowerAfter])
    | cons c t =>
      rcases lowerAfter_cons_cases b c t with hown | ⟨-, hfinal⟩
      · obtain ⟨x, xs, hx⟩ := List.exists_cons_of_ne_nil (lowerChar_ne_nil c)
        rw [hown, hx, List.cons_append, List.cons_prefix_cons] at h
        obtain ⟨rfl, h⟩ := h
        -- The character is ASCII, so that it has made this one and no other.
        have hc : c.toNat < 128 := ascii_of_mem_lowerChar hd (hx ▸ List.mem_cons_self)
        obtain ⟨rfl, rfl⟩ := List.cons.inj ((lowerChar_of_ascii hc).symm.trans hx)
        obtain ⟨q, r, rfl, rfl⟩ := ih htail h
        exact ⟨c :: q, r, rfl, rfl⟩
      · rw [hfinal, List.cons_prefix_cons] at h
        rw [h.1] at hd
        exact absurd hd (by decide)

/-! ### Texts of ASCII characters -/

/-- The lower case of an ASCII text is that of its letters. -/
theorem lower_of_ascii {t : Text} (ht : ∀ c ∈ t, c.toNat < 128) : lower t = t.map Char.toLower := by
  have hsigma : capitalSigma ∉ t := fun hmem => absurd (ht _ hmem) (by decide)
  rw [lower_of_not_mem hsigma, ← List.flatMap_pure_eq_map]
  exact List.flatMap_congr fun c hc => lowerChar_of_ascii (ht c hc)

/-- What a character makes is in the lower case of every text that holds it, unless a final sigma
is. -/
theorem lowerChar_subset_lowerAfter {c : Char} {t : Text} (hc : c ∈ t) (b : Bool) :
    lowerChar c ⊆ lowerAfter b t ∨ finalSigma ∈ lowerAfter b t := by
  induction t generalizing b with
  | nil => exact absurd hc List.not_mem_nil
  | cons e t ih =>
    rcases lowerAfter_cons_cases b e t with hown | ⟨-, hfinal⟩
    · rw [hown]
      rcases List.mem_cons.mp hc with rfl | hmem
      · exact Or.inl (List.subset_append_left _ _)
      · exact (ih hmem _).imp (fun h => List.subset_append_of_subset_right _ h)
          (List.mem_append_right _)
    · exact Or.inr (hfinal ▸ List.mem_cons_self)

/-- A text is ASCII if its lower case is and holds no small k. -/
theorem ascii_of_mem_of_lower {t : Text} (h : ∀ d ∈ lower t, d.toNat < 128 ∧ d ≠ 'k') :
    ∀ c ∈ t, c.toNat < 128 := by
  intro c hc
  rcases lowerChar_subset_lowerAfter hc false with hsub | hfinal
  · obtain ⟨d, ds, hcons⟩ := List.exists_cons_of_ne_nil (lowerChar_ne_nil c)
    have hmem : d ∈ lowerChar c := hcons ▸ List.mem_cons_self
    obtain ⟨hd, hk⟩ := h d (hsub hmem)
    rcases ascii_or_dotted_of_mem_lowerChar hd hk hmem with hascii | rfl
    · exact hascii
    · -- With the small i it has made a dot, which is beyond ASCII.
      exact absurd (h '\u0307' (hsub (by decide))).1 (by decide)
  · exact absurd (h finalSigma hfinal).1 (by decide)

/-- **What has a given ASCII text for its lower case**, if there is no k in it: the spellings of
that text, in whatever case of the letters of ASCII, and nothing else. -/
theorem lower_eq_iff_of_ascii {t u : Text} (hu : ∀ d ∈ u, d.toNat < 128 ∧ d ≠ 'k') :
    lower t = u ↔ t.map Char.toLower = u := by
  constructor
  · rintro rfl
    exact (lower_of_ascii (ascii_of_mem_of_lower hu)).symm
  · rintro rfl
    exact lower_of_ascii fun c hc =>
      ascii_toLower_iff.mp (hu _ (List.mem_map_of_mem hc)).1

/-! ### Lower case twice -/

/-- The runs of all that lower-casing changes: those of the table, and one for each of the two
capitals that are not in the table. -/
def changedRuns : List CaseRun :=
  ⟨dottedCapitalI.toNat, 1, 1, 'i'.toNat⟩ :: ⟨capitalSigma.toNat, 1, 1, smallSigma.toNat⟩ ::
    lowerRuns

theorem mem_changedRuns {r : CaseRun} (h : r ∈ lowerRuns) : r ∈ changedRuns :=
  List.mem_cons_of_mem _ (List.mem_cons_of_mem _ h)

/-- What a run of lower-casing makes is moved by none. -/
theorem covers_apply {r q : CaseRun} (hr : r ∈ lowerRuns) (hq : q ∈ changedRuns) {n : Nat}
    (hn : r.covers n) : q.covers (r.apply n) = false :=
  CaseRun.covers_apply_of_disjoint (by decide +kernel) hr hq hn

/-- A character that no run moves is its own small form. -/
theorem lowerChar_eq_self {c : Char} (h : ∀ q ∈ changedRuns, q.covers c.toNat = false) :
    lowerChar c = [c] := by
  rcases lowerChar_cases c with rfl | rfl | ⟨r, hr, hcovers, -⟩ | hself
  · exact absurd (h _ List.mem_cons_self) (by decide)
  · exact absurd (h _ (List.mem_cons_of_mem _ List.mem_cons_self)) (by decide)
  · exact absurd hcovers (Bool.eq_false_iff.mp (h r (mem_changedRuns hr)))
  · exact hself

/-- What lower-casing makes beside the table is its own small form. -/
theorem lowerChar_of_mem_irregular {d : Char}
    (h : d ∈ finalSigma :: (lowerChar capitalSigma ++ lowerChar dottedCapitalI)) :
    lowerChar d = [d] := by
  have hall : ((finalSigma :: (lowerChar capitalSigma ++ lowerChar dottedCapitalI)).all fun d =>
      lowerChar d == [d]) = true := by decide +kernel
  exact eq_of_beq (List.all_eq_true.mp hall d h)

/-- Whatever lower-casing makes of a character is its own small form. -/
theorem lowerChar_of_mem_lowerChar {c d : Char} (h : d ∈ lowerChar c) : lowerChar d = [d] := by
  rcases lowerChar_cases c with rfl | rfl | ⟨r, hr, hcovers, d', hlow, hd'⟩ | hself
  · exact lowerChar_of_mem_irregular (List.mem_cons_of_mem _ (List.mem_append_right _ h))
  · exact lowerChar_of_mem_irregular (List.mem_cons_of_mem _ (List.mem_append_left _ h))
  · rw [hlow, List.mem_singleton] at h
    obtain rfl := h
    refine lowerChar_eq_self fun q hq => ?_
    rw [hd']
    exact covers_apply hr hq hcovers
  · rw [hself, List.mem_singleton] at h
    exact h ▸ hself

theorem lowerChar_of_mem_lowerAfter {t : Text} {b : Bool} {d : Char} (h : d ∈ lowerAfter b t) :
    lowerChar d = [d] := by
  induction t generalizing b with
  | nil => exact absurd h List.not_mem_nil
  | cons c t ih =>
    rcases lowerAfter_cons_cases b c t with hown | ⟨-, hfinal⟩
    · rw [hown, List.mem_append] at h
      exact h.elim lowerChar_of_mem_lowerChar ih
    · rw [hfinal, List.mem_cons] at h
      exact h.elim (fun hd => lowerChar_of_mem_irregular (hd ▸ List.mem_cons_self)) ih

/-- A text of characters that are their own small form stays as it is. There is no capital sigma
among them. -/
theorem lower_eq_self {t : Text} (h : ∀ d ∈ t, lowerChar d = [d]) : lower t = t := by
  have hsigma : capitalSigma ∉ t := fun hmem => absurd (h _ hmem) (by decide)
  rw [lower_of_not_mem hsigma, List.flatMap_congr h, List.flatMap_singleton']

/-- **Lower case is lower-cased already.** -/
theorem lower_lower (t : Text) : lower (lower t) = lower t :=
  lower_eq_self fun _ hd => lowerChar_of_mem_lowerAfter hd

end Text

end MediaCatalog
