import MediaCatalog.Text.CodePoints
import Mathlib.Data.List.Basic

/-!
# The runs of a case mapping

A case mapping is a long table of runs, and what is said about it is said run by run. A code point
that is moved is moved by a run that covers it, and lands where the run makes it land
(`MediaCatalog.Text.ofNat_moveBy_cases`), so that a fact about the mapping comes down to a
comparison in every row.

Where rows have to be compared with one another, the table is read as two sets of code points, those
that it moves and those that it makes. A set is a number with one bit for each member, so that two
whole tables are compared in a single operation
(`MediaCatalog.Text.CaseRun.covers_apply_of_disjoint`).
-/

namespace MediaCatalog

namespace Text

/-! ### Rows -/

theorem CaseRun.covers_iff {r : CaseRun} {n : Nat} :
    r.covers n ↔
      (r.first ≤ n ∧ n < r.first + r.count * r.stride) ∧ (n - r.first) % r.stride = 0 := by
  simp only [covers, Bool.and_eq_true, decide_eq_true_eq, beq_iff_eq]

/-- A run of a single code point covers no other. -/
theorem CaseRun.eq_first {r : CaseRun} (hsingle : r.count * r.stride = 1) {n : Nat}
    (hn : r.covers n) : n = r.first := by
  rw [covers_iff] at hn
  omega

/-- What lies below all other runs of a table is moved by the first one only. -/
theorem moveBy_cons_of_lt {r : CaseRun} (runs : List CaseRun) {bound n : Nat}
    (hruns : ∀ q ∈ runs, bound ≤ q.first) (hn : n < bound) :
    moveBy (r :: runs) n = moveBy [r] n := by
  have hnone : (runs.find? fun q => q.covers n) = none :=
    List.find?_eq_none.mpr fun q hq hcovers =>
      Nat.not_lt.mpr (CaseRun.covers_iff.mp hcovers).1.1 (Nat.lt_of_lt_of_le hn (hruns q hq))
  rw [moveBy, moveBy, List.find?_cons, List.find?_cons, hnone, List.find?_nil]

/-- Whether everything that a run makes is a character. -/
def CaseRun.makesChars (r : CaseRun) : Bool :=
  r.image + r.count * r.stride ≤ 0xD800 ||
    (0xDFFF < r.image && r.image + r.count * r.stride ≤ 0x110000)

theorem CaseRun.toNat_ofNat_apply {r : CaseRun} (hr : r.makesChars) {n : Nat} (hn : r.covers n) :
    (Char.ofNat (r.apply n)).toNat = r.apply n := by
  have hvalid : (r.apply n).isValidChar := by
    simp only [makesChars, Bool.or_eq_true, Bool.and_eq_true, decide_eq_true_eq] at hr
    rw [covers_iff] at hn
    simp only [apply, Nat.isValidChar]
    omega
  rw [Char.ofNat, dif_pos hvalid]
  rfl

/-- **How a table moves a character**: one of its runs does it, or the character stays. -/
theorem ofNat_moveBy_cases {runs : List CaseRun} (hruns : ∀ r ∈ runs, r.makesChars) (c : Char) :
    (∃ r ∈ runs, r.covers c.toNat ∧
      (Char.ofNat (moveBy runs c.toNat)).toNat = r.apply c.toNat) ∨
      Char.ofNat (moveBy runs c.toNat) = c := by
  rw [moveBy]
  split
  · next r hr =>
    have hmem : r ∈ runs := List.mem_of_find?_eq_some hr
    have hcovers : r.covers c.toNat := List.find?_some (p := fun r : CaseRun => r.covers c.toNat) hr
    exact Or.inl ⟨r, hmem, hcovers, CaseRun.toNat_ofNat_apply (hruns r hmem) hcovers⟩
  · exact Or.inr (Char.ofNat_toNat c)

/-! ### Sets of code points -/

/-- The union of sets of code points. A set is a number here, with one bit for each member. -/
def unionBits {α : Type} (set : α → Nat) (l : List α) : Nat := l.foldr (fun x m => set x ||| m) 0

theorem testBit_unionBits {α : Type} {set : α → Nat} {l : List α} {n : Nat} :
    (unionBits set l).testBit n ↔ ∃ x ∈ l, (set x).testBit n := by
  induction l with
  | nil => simp [unionBits]
  | cons x l ih =>
    rw [unionBits, List.foldr_cons, ← unionBits, Nat.testBit_or, Bool.or_eq_true, ih,
      List.exists_mem_cons_iff]

/-- Disjoint sets have no common member. -/
theorem testBit_eq_false_of_disjoint {s t n : Nat} (hdisjoint : s &&& t = 0) (hs : s.testBit n) :
    t.testBit n = false := by
  have hboth := congrArg (Nat.testBit · n) hdisjoint
  rwa [Nat.testBit_and, hs, Bool.true_and, Nat.zero_testBit] at hboth

namespace CodeRanges

/-- The code points of a class. -/
def bits (ranges : CodeRanges) : Nat :=
  unionBits (fun r => ((1 <<< (r.2 + 1 - r.1)) - 1) <<< r.1) ranges

theorem testBit_bits {ranges : CodeRanges} {n : Nat} (h : ranges.holds n) :
    ranges.bits.testBit n := by
  obtain ⟨r, hr, hrange⟩ := List.any_eq_true.mp h
  simp only [Bool.and_eq_true, decide_eq_true_eq] at hrange
  refine testBit_unionBits.mpr ⟨r, hr, ?_⟩
  rw [Nat.one_shiftLeft, Nat.testBit_shiftLeft, Nat.testBit_two_pow_sub_one, Bool.and_eq_true,
    decide_eq_true_eq, decide_eq_true_eq]
  omega

/-- Disjoint classes have no common member. -/
theorem holds_eq_false_of_disjoint {ps qs : CodeRanges} (hdisjoint : ps.bits &&& qs.bits = 0)
    {n : Nat} (hn : ps.holds n) : qs.holds n = false := by
  refine Bool.eq_false_iff.mpr fun hq => ?_
  have hnot := testBit_eq_false_of_disjoint hdisjoint (testBit_bits hn)
  exact Bool.false_ne_true (hnot.symm.trans (testBit_bits hq))

end CodeRanges

namespace CaseRun

/-- As many code points as the run moves, and as far apart, from `start` on. -/
def bitsFrom (r : CaseRun) (start : Nat) : Nat :=
  unionBits (fun k => 1 <<< (k * r.stride)) (List.range r.count) <<< start

theorem testBit_bitsFrom {r : CaseRun} {n : Nat} (h : r.covers n) (start : Nat) :
    (r.bitsFrom start).testBit (start + (n - r.first)) := by
  obtain ⟨⟨hle, hlt⟩, hmod⟩ := covers_iff.mp h
  have hsteps : (n - r.first) / r.stride * r.stride = n - r.first :=
    Nat.div_mul_cancel (Nat.dvd_of_mod_eq_zero hmod)
  rw [bitsFrom, Nat.testBit_shiftLeft, Nat.add_sub_cancel_left, Bool.and_eq_true, decide_eq_true_eq]
  refine ⟨Nat.le_add_right _ _, testBit_unionBits.mpr ⟨(n - r.first) / r.stride, ?_, ?_⟩⟩
  · exact List.mem_range.mpr (Nat.div_lt_of_lt_mul (by rw [Nat.mul_comm]; omega))
  · rw [hsteps, Nat.one_shiftLeft]
    exact Nat.testBit_two_pow_self

/-- The code points that the run makes. -/
def made (r : CaseRun) : Nat := r.bitsFrom r.image

theorem testBit_made {r : CaseRun} {n : Nat} (h : r.covers n) : r.made.testBit (r.apply n) :=
  testBit_bitsFrom h r.image

/-- The code points that the run moves. -/
def moved (r : CaseRun) : Nat := r.bitsFrom r.first

theorem testBit_moved {r : CaseRun} {n : Nat} (h : r.covers n) : r.moved.testBit n := by
  have hbit := testBit_bitsFrom h r.first
  rwa [Nat.add_sub_cancel' (covers_iff.mp h).1.1] at hbit

/-- **What one table makes another does not move**, if the sets of both are disjoint. -/
theorem covers_apply_of_disjoint {making moving : List CaseRun}
    (hdisjoint : unionBits made making &&& unionBits moved moving = 0) {r q : CaseRun}
    (hr : r ∈ making) (hq : q ∈ moving) {n : Nat} (hn : r.covers n) :
    q.covers (r.apply n) = false := by
  refine Bool.eq_false_iff.mpr fun hcovers => ?_
  have hnot := testBit_eq_false_of_disjoint hdisjoint
    (testBit_unionBits.mpr ⟨r, hr, testBit_made hn⟩)
  exact Bool.false_ne_true (hnot.symm.trans
    (testBit_unionBits.mpr ⟨q, hq, testBit_moved hcovers⟩))

end CaseRun

/-- Whether a mapping keeps clear of a class: nothing in the class is moved, and nothing is made
that is in it. -/
def CodeRanges.isKeptBy (ranges : CodeRanges) (making moving : List CaseRun) : Bool :=
  ranges.bits &&& (unionBits CaseRun.made making ||| unionBits CaseRun.moved moving) == 0

section Kept

variable {ranges : CodeRanges} {making moving : List CaseRun} {r : CaseRun} {n : Nat}

theorem CodeRanges.covers_eq_false (h : ranges.isKeptBy making moving) (hr : r ∈ moving)
    (hn : ranges.holds n) : r.covers n = false := by
  refine Bool.eq_false_iff.mpr fun hcovers => ?_
  have hnot := testBit_eq_false_of_disjoint (eq_of_beq h) (testBit_bits hn)
  rw [Nat.testBit_or, Bool.or_eq_false_iff] at hnot
  exact Bool.false_ne_true (hnot.2.symm.trans
    (testBit_unionBits.mpr ⟨r, hr, CaseRun.testBit_moved hcovers⟩))

theorem CodeRanges.holds_apply_eq_false (h : ranges.isKeptBy making moving) (hr : r ∈ making)
    (hn : r.covers n) : ranges.holds (r.apply n) = false := by
  refine Bool.eq_false_iff.mpr fun hholds => ?_
  have hnot := testBit_eq_false_of_disjoint (eq_of_beq h) (testBit_bits hholds)
  rw [Nat.testBit_or, Bool.or_eq_false_iff] at hnot
  exact Bool.false_ne_true (hnot.1.symm.trans
    (testBit_unionBits.mpr ⟨r, hr, CaseRun.testBit_made hn⟩))

end Kept

end Text

end MediaCatalog
