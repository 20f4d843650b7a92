import MediaCatalog.Proofs.Text.LowerCase

/-!
# The final sigma

The capital sigma is the one letter whose small form depends on its neighbours, so that a piece of a
text is not always lower-cased as it would be on its own. This file says when it is.

What stands before the piece counts only by whether it **ends cased**, that is by the nearest
character that is not case-ignorable (`MediaCatalog.Text.endsCased`). And within the piece it is a
matter of one sigma at most, the one that the piece **opens with**
(`MediaCatalog.Text.OpensWithFinalSigma`): every other sigma has its cased neighbour, or lacks it,
within the piece. So the piece comes out differently exactly if both are the case
(`MediaCatalog.Text.lowerAfter_endsCased_eq_iff`).
-/

namespace MediaCatalog

namespace Text

/-! ### What stands before a piece -/

/-- Whether the last character of a text that is not case-ignorable is cased. -/
def endsCased (t : Text) : Bool := startsCased t.reverse

theorem foldl_casedAfter (t : Text) : t.foldl casedAfter false = endsCased t := by
  rw [endsCased, ← List.foldr_reverse]
  induction t.reverse with
  | nil => rfl
  | cons c u ih => rw [List.foldr_cons, ih, startsCased, casedAfter]

/-- A text is lower-cased with regard to what stands before it. -/
theorem lowerAfter_suffix (b : Bool) (t u : Text) :
    lowerAfter (t.foldl casedAfter b) u <:+ lowerAfter b (t ++ u) := by
  induction t generalizing b with
  | nil => exact List.suffix_rfl
  | cons c t ih =>
    rw [List.foldl_cons, List.cons_append]
    rcases lowerAfter_cons_cases b c (t ++ u) with hown | ⟨-, hfinal⟩
    · rw [hown]
      exact (ih _).trans (List.suffix_append _ _)
    · rw [hfinal]
      exact (ih _).trans (List.suffix_cons _ _)

/-- A dot is case-ignorable, so that what stands before it counts for what stands after it. -/
theorem lowerAfter_dot (b : Bool) (t : Text) : lowerAfter b ('.' :: t) = '.' :: lowerAfter b t := by
  have hdot : lowerChar '.' = ['.'] := lowerChar_of_sign (by decide) (by decide)
  have hafter : casedAfter b '.' = b := by
    rw [casedAfter, if_pos (by decide)]
  rw [lowerAfter_cons (by decide), hdot, hafter, List.singleton_append]

/-- Both small sigmas are one character, so that the length of the lower case does not depend on
what stands before. -/
theorem length_lowerAfter (b b' : Bool) (t : Text) :
    (lowerAfter b t).length = (lowerAfter b' t).length := by
  induction t generalizing b b' with
  | nil => rfl
  | cons c t ih =>
    have hhead : ∀ b, (lowerAfter b (c :: t)).length =
        (lowerChar c).length + (lowerAfter (casedAfter b c) t).length := by
      intro b
      rcases lowerAfter_cons_cases b c t with hown | ⟨rfl, hfinal⟩
      · rw [hown, List.length_append]
      · rw [hfinal, List.length_cons, Nat.add_comm]
        rfl
    rw [hhead b, hhead b', ih]

/-! ### The sigma that a piece opens with -/

theorem ne_capitalSigma_of_ignorable {c : Char} (hc : isCaseIgnorable c) : c ≠ capitalSigma := by
  have hsigma : isCaseIgnorable capitalSigma = false := by decide +kernel
  rintro rfl
  exact Bool.false_ne_true (hsigma.symm.trans hc)

/-- A text whose first character that is not case-ignorable is a capital sigma, and no cased
character comes next after it. -/
def OpensWithFinalSigma (t : Text) : Prop :=
  ∃ i r, t = i ++ capitalSigma :: r ∧ (∀ c ∈ i, isCaseIgnorable c) ∧ startsCased r = false

theorem opensWithFinalSigma_cons_of_ignorable {c : Char} (hc : isCaseIgnorable c) (t : Text) :
    OpensWithFinalSigma (c :: t) ↔ OpensWithFinalSigma t := by
  constructor
  · rintro ⟨i, r, heq, hi, hr⟩
    cases i with
    | nil =>
      exact absurd (List.cons.inj heq).1 (ne_capitalSigma_of_ignorable hc)
    | cons d i =>
      obtain ⟨rfl, rfl⟩ := List.cons.inj heq
      exact ⟨i, r, rfl, (List.forall_mem_cons.mp hi).2, hr⟩
  · rintro ⟨i, r, rfl, hi, hr⟩
    exact ⟨c :: i, r, rfl, List.forall_mem_cons.mpr ⟨hc, hi⟩, hr⟩

theorem opensWithFinalSigma_cons_of_not_ignorable {c : Char} (hc : isCaseIgnorable c = false)
    (t : Text) : OpensWithFinalSigma (c :: t) ↔ c = capitalSigma ∧ startsCased t = false := by
  constructor
  · rintro ⟨i, r, heq, hi, hr⟩
    cases i with
    | nil =>
      obtain ⟨rfl, rfl⟩ := List.cons.inj heq
      exact ⟨rfl, hr⟩
    | cons d i =>
      obtain ⟨rfl, -⟩ := List.cons.inj heq
      exact absurd (hi c List.mem_cons_self) (Bool.eq_false_iff.mp hc)
  · rintro ⟨rfl, ht⟩
    exact ⟨[], t, rfl, by simp, ht⟩

/-- **After a cased character a piece is lower-cased as on its own, unless it opens with a final
sigma.** -/
theorem lowerAfter_true_eq_iff {t : Text} :
    lowerAfter true t = lower t ↔ ¬OpensWithFinalSigma t := by
  rw [lower]
  induction t with
  | nil =>
    refine iff_of_true rfl ?_
    rintro ⟨i, r, heq, -, -⟩
    exact absurd heq (by simp)
  | cons c t ih =>
    by_cases hc : isCaseIgnorable c
    · have hsigma : c ≠ capitalSigma := ne_capitalSigma_of_ignorable hc
      have hafter : ∀ b, casedAfter b c = b := fun b => by rw [casedAfter, if_pos hc]
      rw [opensWithFinalSigma_cons_of_ignorable hc, lowerAfter_cons hsigma, lowerAfter_cons hsigma,
        hafter, hafter, List.append_cancel_left_eq, ih]
    · rw [opensWithFinalSigma_cons_of_not_ignorable (Bool.eq_false_iff.mpr hc), lowerAfter,
        lowerAfter, if_neg hc, if_neg hc, List.append_cancel_right_eq]
      -- What follows is read alike, so that only the small form of the first character counts.
      by_cases hfinal : c = capitalSigma ∧ startsCased t = false
      · rw [if_pos ⟨hfinal.1, rfl, hfinal.2⟩, if_neg fun h => Bool.false_ne_true h.2.1]
        refine iff_of_false ?_ (not_not_intro hfinal)
        rw [hfinal.1]
        decide
      · rw [if_neg fun h => hfinal ⟨h.1, h.2.2⟩, if_neg fun h => Bool.false_ne_true h.2.1]
        exact iff_of_true rfl hfinal

/-- **How a piece is lower-cased**: as on its own, unless it opens with a final sigma and what
stands before it ends cased. -/
theorem lowerAfter_endsCased_eq_iff {t u : Text} :
    lowerAfter (endsCased t) u = lower u ↔ ¬(endsCased t ∧ OpensWithFinalSigma u) := by
  cases h : endsCased t with
  | false => exact iff_of_true rfl fun hboth => Bool.false_ne_true hboth.1
  | true => rw [lowerAfter_true_eq_iff, not_and, forall_prop_of_true rfl]

end Text

end MediaCatalog
