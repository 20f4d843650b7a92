import MediaCatalog.Proofs.Text.LowerCase
import MediaCatalog.Proofs.Text.Trim

/-!
# Upper case, character by character

Upper-casing replaces each character on its own, by one capital or by several. A character with
several capitals is read as one run for each of them here, so that there is a single table
(`MediaCatalog.Text.raisingRuns`), and whatever upper-casing makes is made by a run of it
(`MediaCatalog.Text.mem_upperChar_cases`).

White space stays where it is, so that a text may be trimmed before or after upper-casing
(`MediaCatalog.Text.trim_upper`), and what has been upper-cased is not changed by it again
(`MediaCatalog.Text.upper_upper`).

To lower-case a text first makes a difference to its upper case. But as far as capitals in ASCII go,
it does so for two characters only (`MediaCatalog.Text.recase_cases`): the Kelvin sign and the
capital sharp s are capitals themselves, while their small forms have capitals in ASCII.
-/

namespace MediaCatalog

namespace Text

/-! ### The table -/

/-- The runs of all that upper-casing changes: one for each capital of a character that has several,
and those of the table. -/
def raisingRuns : List CaseRun :=
  (upperExpansions.flatMap fun e => e.2.map fun capital => ⟨e.1, 1, 1, capital⟩) ++ upperRuns

/-- No character of ASCII has several capitals, and no character has none. -/
theorem upperExpansions_rows : ∀ e ∈ upperExpansions, 128 ≤ e.1 ∧ e.2 ≠ [] := by decide +kernel

theorem makesChars_of_mem_raisingRuns : ∀ r ∈ raisingRuns, r.makesChars := by decide +kernel

theorem mem_raisingRuns_of_mem_upperExpansions {e : Nat × List Nat} (he : e ∈ upperExpansions)
    {capital : Nat} (hcapital : capital ∈ e.2) : ⟨e.1, 1, 1, capital⟩ ∈ raisingRuns :=
  List.mem_append_left _ (List.mem_flatMap.mpr ⟨e, he, List.mem_map_of_mem hcapital⟩)

/-- The ways in which a character can be among those that another one becomes. -/
inductive Raising (c d : Char) : Prop
  /-- A run of the table makes it. -/
  | moved (r : CaseRun) (hr : r ∈ raisingRuns) (hcovers : r.covers c.toNat)
      (hd : d.toNat = r.apply c.toNat)
  /-- The character stays as it is. -/
  | kept (hself : upperChar c = [c])

/-- **How a character is upper-cased**: runs of the table make what it becomes, or it stays as it
is. -/
theorem mem_upperChar_cases {c d : Char} (h : d ∈ upperChar c) : Raising c d := by
  cases hlookup : upperExpansions.lookup c.toNat with
  | some codes =>
    have hupper : upperChar c = codes.map Char.ofNat := by
      rw [upperChar, hlookup]
    obtain ⟨capital, hcapital, rfl⟩ := List.mem_map.mp (hupper ▸ h)
    obtain ⟨l, r, htable, -⟩ := List.lookup_eq_some_iff.mp hlookup
    have hmem : (c.toNat, codes) ∈ upperExpansions :=
      htable ▸ List.mem_append_right l List.mem_cons_self
    have hrun := mem_raisingRuns_of_mem_upperExpansions hmem hcapital
    have hcovers : CaseRun.covers ⟨c.toNat, 1, 1, capital⟩ c.toNat :=
      CaseRun.covers_iff.mpr ⟨⟨Nat.le_refl _, Nat.lt_succ_self _⟩, Nat.mod_one _⟩
    have happly : CaseRun.apply ⟨c.toNat, 1, 1, capital⟩ c.toNat = capital := by
      rw [CaseRun.apply, Nat.sub_self, Nat.add_zero]
    have htoNat := CaseRun.toNat_ofNat_apply (makesChars_of_mem_raisingRuns _ hrun) hcovers
    rw [happly] at htoNat
    exact .moved _ hrun hcovers (htoNat.trans happly.symm)
  | none =>
    have hupper : upperChar c = [Char.ofNat (moveBy upperRuns c.toNat)] := by
      rw [upperChar, hlookup]
    have hruns : ∀ r ∈ upperRuns, r.makesChars := fun r hr =>
      makesChars_of_mem_raisingRuns r (List.mem_append_right _ hr)
    obtain rfl := List.mem_singleton.mp (hupper ▸ h)
    rcases ofNat_moveBy_cases hruns c with ⟨r, hr, hcovers, hd⟩ | hself
    · exact .moved r (List.mem_append_right _ hr) hcovers hd
    · exact .kept (hupper.trans (congrArg ([·]) hself))

theorem upperChar_ne_nil (c : Char) : upperChar c ≠ [] := by
  rw [upperChar]
  split
  · next codes hlookup =>
    obtain ⟨l, r, hmem, -⟩ := List.lookup_eq_some_iff.mp hlookup
    rw [Ne, List.map_eq_nil_iff]
    exact (upperExpansions_rows (c.toNat, codes)
      (hmem ▸ List.mem_append_right l List.mem_cons_self)).2
  · exact List.cons_ne_nil _ _

/-- A character that no run moves is its own capital form. -/
theorem upperChar_eq_self {c : Char} (h : ∀ r ∈ raisingRuns, r.covers c.toNat = false) :
    upperChar c = [c] := by
  obtain ⟨d, ds, hd⟩ := List.exists_cons_of_ne_nil (upperChar_ne_nil c)
  rcases mem_upperChar_cases (hd ▸ List.mem_cons_self) with ⟨r, hr, hcovers, -⟩ | hself
  · exact absurd hcovers (Bool.eq_false_iff.mp (h r hr))
  · exact hself

/-! ### ASCII -/

/-- The small letters of ASCII are the first run of the table, and nothing else in it is about
ASCII. -/
theorem upperChar_of_ascii {c : Char} (hc : c.toNat < 128) : upperChar c = [c.toUpper] := by
  have hlookup : upperExpansions.lookup c.toNat = none := by
    refine List.lookup_eq_none_iff.mpr fun e he => ?_
    have hle := (upperExpansions_rows e he).1
    exact bne_iff_ne.mpr (by omega)
  have hrun : moveBy upperRuns c.toNat = moveBy [⟨0x61, 26, 1, 0x41⟩] c.toNat :=
    moveBy_cons_of_lt upperRuns.tail (by decide +kernel) hc
  rw [upperChar, hlookup]
  dsimp only
  rw [hrun, List.singleton_inj]
  exact forall_ascii (P := fun c => Char.ofNat (moveBy [⟨0x61, 26, 1, 0x41⟩] c.toNat) = c.toUpper)
    (by decide +kernel) hc

/-! ### White space -/

theorem blankRanges_isKeptBy_upper : blankRanges.isKeptBy raisingRuns raisingRuns := by
  decide +kernel

theorem upperChar_of_isBlank (c : Char) (hc : isBlank c) : upperChar c = [c] :=
  upperChar_eq_self fun _ hr => CodeRanges.covers_eq_false blankRanges_isKeptBy_upper hr hc

/-- Upper case makes no white space but of white space. -/
theorem isBlank_of_mem_upperChar (c : Char) (hc : isBlank c = false) :
    ∀ d ∈ upperChar c, isBlank d = false := by
  intro d h
  rcases mem_upperChar_cases h with ⟨r, hr, hcovers, hd⟩ | hself
  · rw [isBlank, hd]
    exact CodeRanges.holds_apply_eq_false blankRanges_isKeptBy_upper hr hcovers
  · rw [hself, List.mem_singleton] at h
    rwa [h]

/-- **A text may be trimmed before or after upper-casing.** -/
theorem trim_upper (t : Text) : trim (upper t) = upper (trim t) :=
  trim_flatMap upperChar_of_isBlank upperChar_ne_nil isBlank_of_mem_upperChar t

/-! ### Upper case twice -/

/-- Whatever upper-casing makes of a character is its own capital form. -/
theorem upperChar_of_mem_upperChar {c d : Char} (h : d ∈ upperChar c) : upperChar d = [d] := by
  have hdisjoint :
      unionBits CaseRun.made raisingRuns &&& unionBits CaseRun.moved raisingRuns = 0 := by
    decide +kernel
  rcases mem_upperChar_cases h with ⟨r, hr, hcovers, hd⟩ | hself
  · refine upperChar_eq_self fun q hq => ?_
    rw [hd]
    exact CaseRun.covers_apply_of_disjoint hdisjoint hr hq hcovers
  · rw [hself, List.mem_singleton] at h
    exact h ▸ hself

/-- **Upper case is upper-cased already.** -/
theorem upper_upper (t : Text) : upper (upper t) = upper t := by
  have hchar : ∀ c ∈ t, (upperChar c).flatMap upperChar = upperChar c := fun c _ => by
    rw [List.flatMap_congr fun d hd => upperChar_of_mem_upperChar hd, List.flatMap_singleton']
  rw [upper, upper, List.flatMap_assoc, List.flatMap_congr hchar]

/-! ### Capitals in ASCII -/

/-- The characters beyond ASCII that have a capital in ASCII, be it one of several: the sharp s, the
dotless i, the long s, the ligatures, and letters with a mark of their own. -/
def asciiMakers : Text :=
  ['\u00DF', '\u0131', '\u0149', '\u017F', '\u01F0', '\u1E96', '\u1E97', '\u1E98', '\u1E99',
    '\u1E9A', '\uFB00', '\uFB01', '\uFB02', '\uFB03', '\uFB04', '\uFB05', '\uFB06']

theorem ascii_or_mem_of_mem_upperChar {c d : Char} (hd : d.toNat < 128) (h : d ∈ upperChar c) :
    c.toNat < 128 ∨ c ∈ asciiMakers := by
  have htable : ∀ r ∈ raisingRuns, r.first + r.count * r.stride ≤ 128 ∨ 128 ≤ r.image ∨
      r.count * r.stride = 1 ∧ Char.ofNat r.first ∈ asciiMakers := by decide +kernel
  rcases mem_upperChar_cases h with ⟨r, hr, hcovers, happly⟩ | hself
  · rcases htable r hr with hascii | hbeyond | ⟨hsingle, hmem⟩
    · exact .inl ((CaseRun.covers_iff.mp hcovers).1.2.trans_le hascii)
    · rw [happly, CaseRun.apply] at hd
      omega
    · rw [← CaseRun.eq_first hsingle hcovers, Char.ofNat_toNat] at hmem
      exact .inr hmem
  · rw [hself, List.mem_singleton] at h
    exact .inl (h ▸ hd)

/-! ### Upper case of lower case -/

/-- The sign of the unit of temperature, whose small form is the small k of ASCII. -/
def kelvinSign : Char := '\u212A'

/-- The capital sharp s, which is its own capital form while its small form has two. -/
def capitalSharpS : Char := '\u1E9E'

/-- The capital form of the small form of a character. -/
def recase (c : Char) : Text := upper (lowerChar c)

theorem upper_singleton (c : Char) : upper [c] = upperChar c := List.flatMap_singleton _ _

/-- The capital forms of the small forms of the characters whose case is irregular. -/
theorem recase_irregular :
    (recase capitalSigma = [capitalSigma] ∧ upperChar finalSigma = [capitalSigma]) ∧
      recase dottedCapitalI = ['I', '\u0307'] ∧ recase kelvinSign = ['K'] ∧
      recase capitalSharpS = ['S', 'S'] := by decide +kernel

theorem upper_lowerAfter (b : Bool) (t : Text) : upper (lowerAfter b t) = t.flatMap recase := by
  induction t generalizing b with
  | nil => rfl
  | cons c t ih =>
    rcases lowerAfter_cons_cases b c t with hown | ⟨rfl, hfinal⟩
    · rw [hown, upper, List.flatMap_append, ← upper, ← upper, ih, List.flatMap_cons, recase]
    · obtain ⟨⟨hsigma, hsame⟩, -⟩ := recase_irregular
      rw [hfinal, upper, List.flatMap_cons, ← upper, ih, hsame, List.flatMap_cons, hsigma]

/-- **The final sigma has the same capital**, so that the upper case of lower case is made character
by character. -/
theorem upper_lower (t : Text) : upper (lower t) = t.flatMap recase := upper_lowerAfter false t

/-- For most of what has a capital in ASCII it makes no difference to be lower-cased first. -/
theorem recase_eq_upperChar {c : Char} (hc : c.toNat < 128 ∨ c ∈ asciiMakers) :
    recase c = upperChar c := by
  have hmakers : (asciiMakers.all fun c => lowerChar c == [c]) = true := by decide +kernel
  rcases hc with hascii | hmem
  · have hlower : c.toLower.toNat < 128 := ascii_toLower_iff.mpr hascii
    have hcase : c.toLower.toUpper = c.toUpper :=
      forall_ascii (P := fun c => c.toLower.toUpper = c.toUpper) (by decide +kernel) hascii
    rw [recase, lowerChar_of_ascii hascii, upper_singleton, upperChar_of_ascii hlower, hcase,
      upperChar_of_ascii hascii]
  · rw [recase, eq_of_beq (List.all_eq_true.mp hmakers c hmem), upper_singleton]

/-- The ways in which a character can have its capitals in ASCII once it has been lower-cased. -/
inductive Recasing (c : Char) : Prop
  /-- They are its capitals in any case. -/
  | same (heq : recase c = upperChar c)
  /-- It is the Kelvin sign. -/
  | kelvin (h : c = kelvinSign)
  /-- It is the capital sharp s. -/
  | sharp (h : c = capitalSharpS)

/-- **Two characters have their capitals in ASCII only after they have been lower-cased.** For all
others lower-casing makes no difference to capitals in ASCII. -/
theorem recase_cases {c : Char} (h : ∀ d ∈ recase c, d.toNat < 128) : Recasing c := by
  have hascii : ∀ r ∈ lowerRuns, r.first + r.count * r.stride ≤ 128 ∨ 128 ≤ r.image ∨
      r.count * r.stride = 1 ∧ r.first = kelvinSign.toNat := by decide +kernel
  have hmakers : ∀ r ∈ lowerRuns, r.made &&& unionBits (1 <<< ·.toNat) asciiMakers = 0 ∨
      r.count * r.stride = 1 ∧ r.first = capitalSharpS.toNat := by decide +kernel
  rcases lowerChar_cases c with rfl | rfl | ⟨r, hr, hcovers, d, hlow, hd⟩ | hself
  · obtain ⟨-, hdotted, -⟩ := recase_irregular
    exact absurd (h '\u0307' (by simp [hdotted])) (by decide)
  · obtain ⟨⟨hsigma, -⟩, -⟩ := recase_irregular
    exact absurd (h capitalSigma (by simp [hsigma])) (by decide)
  · have hrecase : recase c = upperChar d := by rw [recase, hlow, upper_singleton]
    rw [hrecase] at h
    obtain ⟨e, he⟩ := List.exists_mem_of_ne_nil _ (upperChar_ne_nil d)
    rcases ascii_or_mem_of_mem_upperChar (h e he) he with hsmall | hmem
    · rcases hascii r hr with hrow | hrow | ⟨hsingle, hfirst⟩
      · refine .same (recase_eq_upperChar (.inl ?_))
        exact (CaseRun.covers_iff.mp hcovers).1.2.trans_le hrow
      · rw [hd, CaseRun.apply] at hsmall
        omega
      · exact .kelvin (Char.toNat_inj.mp ((CaseRun.eq_first hsingle hcovers).trans hfirst))
    · rcases hmakers r hr with hdisjoint | ⟨hsingle, hfirst⟩
      · have hnot := testBit_eq_false_of_disjoint hdisjoint (CaseRun.testBit_made hcovers)
        rw [← hd] at hnot
        have hbit : (unionBits (1 <<< ·.toNat) asciiMakers).testBit d.toNat :=
          testBit_unionBits.mpr ⟨d, hmem, by rw [Nat.one_shiftLeft, Nat.testBit_two_pow_self]⟩
        exact absurd (hnot.symm.trans hbit) Bool.false_ne_true
      · exact .sharp (Char.toNat_inj.mp ((CaseRun.eq_first hsingle hcovers).trans hfirst))
  · refine .same ?_
    rw [recase, hself, upper_singleton]

theorem recase_ne_nil (c : Char) : recase c ≠ [] := by
  obtain ⟨d, ds, hd⟩ := List.exists_cons_of_ne_nil (lowerChar_ne_nil c)
  rw [recase, hd, upper, List.flatMap_cons]
  exact List.append_ne_nil_of_left_ne_nil (upperChar_ne_nil d) _

theorem recase_toLower (c : Char) : recase c.toLower = recase c := by
  by_cases hc : c.toNat < 128
  · have hmem : c.toLower ∈ lowerChar c := by
      rw [lowerChar_of_ascii hc]
      exact List.mem_singleton_self _
    rw [recase, recase, lowerChar_of_mem_lowerChar hmem, lowerChar_of_ascii hc]
  · rw [toLower_of_not_ascii hc]

/-- The letters of ASCII that are also capitals of characters beyond ASCII: of the dotless i, of the
long s and, by way of lower case, of the Kelvin sign. -/
def sharedCapitals : Text := ['I', 'K', 'S']

/-- All other capitals of ASCII are made from a letter of ASCII. -/
theorem toLower_of_recase {c d : Char} (hd : d.toNat < 128) (hown : d ∉ sharedCapitals)
    (h : recase c = [d]) : c.toLower = d.toLower := by
  have hmakers : (asciiMakers.all fun c =>
      (upperChar c).length != 1 || (upperChar c).all sharedCapitals.contains) = true := by
    decide +kernel
  have hcase : ∀ {c : Char}, c.toNat < 128 → c.toUpper.toLower = c.toLower := fun hc =>
    forall_ascii (P := fun c => c.toUpper.toLower = c.toLower) (by decide +kernel) hc
  rcases recase_cases (c := c) (by rw [h]; exact List.forall_mem_singleton.mpr hd) with
    heq | rfl | rfl
  · have hupper : upperChar c = [d] := heq.symm.trans h
    have hmem : d ∈ upperChar c := hupper ▸ List.mem_singleton_self d
    rcases ascii_or_mem_of_mem_upperChar hd hmem with hascii | hmaker
    · rw [upperChar_of_ascii hascii, List.singleton_inj] at hupper
      rw [← hupper, hcase hascii]
    · have hshared := List.all_eq_true.mp hmakers c hmaker
      rw [hupper] at hshared
      exact absurd (by simpa using hshared) hown
  · obtain ⟨-, -, hkelvin, -⟩ := recase_irregular
    obtain rfl := List.singleton_inj.mp (hkelvin.symm.trans h)
    exact absurd (by decide) hown
  · obtain ⟨-, -, -, hsharp⟩ := recase_irregular
    exact absurd (hsharp.symm.trans h) (by simp)

end Text

end MediaCatalog
