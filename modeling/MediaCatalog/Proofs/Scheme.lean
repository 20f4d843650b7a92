import MediaCatalog.Proofs.Text.LowerCase
import MediaCatalog.Scheme

/-!
# Schemes under lower case

Two parts of the library ask for the scheme of the same resource on two different texts: a format
of network streams asks about the name as it is, a format that goes by the extension asks about the
name in lower case. This file says when the two answers differ.

The first `://` stays where it is. No character of a scheme is a colon, and none becomes one, so
that what stands before the mark in the lower-cased name is the lower case of what stood there
(`MediaCatalog.Scheme.beforeMark_lower`). And what stands there is still a scheme – with one
exception, the **dotted capital I**. It counts as a letter, being a case of i, but its lower case
is a small i followed by a combining dot, and a combining dot is not part of a scheme
(`MediaCatalog.Scheme.isSome_ofText_lower_iff`).
-/

namespace MediaCatalog

namespace Scheme

open Text

/-! ### The mark -/

/-- The mark that ends a scheme. -/
def mark : Text := [':', '/', '/']

theorem beforeMark_append {p : Text} (hp : ':' ∉ p) (r : Text) :
    beforeMark (p ++ (mark ++ r)) = some p := by
  induction p with
  | nil => rfl
  | cons c p ih =>
    obtain ⟨hc, hp⟩ := List.ne_and_not_mem_of_not_mem_cons hp
    rw [List.cons_append, beforeMark, if_neg fun h => hc h.1.symm, ih hp]
    rfl

/-- A name is what stands before its first mark, the mark and the rest. -/
theorem eq_append_of_beforeMark {t p : Text} (h : beforeMark t = some p) :
    ∃ r, t = p ++ (mark ++ r) := by
  induction t generalizing p with
  | nil => exact absurd h (by simp [beforeMark])
  | cons c t ih =>
    rw [beforeMark] at h
    split at h
    · next hmark =>
      obtain ⟨rfl, hslash⟩ := hmark
      obtain ⟨r, rfl⟩ := List.isPrefixOf_iff_prefix.mp hslash
      obtain rfl := Option.some.inj h
      exact ⟨r, rfl⟩
    · obtain ⟨q, hq, rfl⟩ := Option.map_eq_some_iff.mp h
      obtain ⟨r, rfl⟩ := ih hq
      exact ⟨r, rfl⟩

/-! ### The characters of a scheme -/

/-- The combining dot above, in which the lower case of the dotted capital I ends. -/
def combiningDot : Char := '\u0307'

theorem combiningDot_mem_lowerChar : combiningDot ∈ lowerChar dottedCapitalI := by decide

/-- A character of a scheme is an ASCII character or one of the four letters beyond ASCII. -/
theorem ascii_or_foreign_of_isMember {c : Char} (h : isMember c) :
    c.toNat < 128 ∨ c ∈ foreignLetters := by
  simp only [isMember, isLetter, Bool.or_eq_true, beq_iff_eq, List.contains_iff_mem] at h
  rcases h with ((((halpha | hforeign) | hdigit) | rfl) | rfl) | rfl
  · exact Or.inl (ascii_of_isAlpha halpha)
  · exact Or.inr hforeign
  · exact Or.inl (ascii_of_isDigit hdigit)
  all_goals exact Or.inl (by decide)

/-- **Lower case keeps the characters of a scheme**, one for one, except for the dotted capital
I. -/
theorem lowerChar_of_isMember {c : Char} (hc : isMember c) (hI : c ≠ dottedCapitalI) :
    ∃ d, lowerChar c = [d] ∧ isMember d ∧ (isLetter c → isLetter d) := by
  rcases ascii_or_foreign_of_isMember hc with hascii | hforeign
  · refine ⟨c.toLower, lowerChar_of_ascii hascii, ?_⟩
    exact forall_ascii (P := fun c => isMember c →
      isMember c.toLower ∧ (isLetter c → isLetter c.toLower)) (by decide +kernel) hascii hc
  · simp only [foreignLetters, List.mem_cons, List.not_mem_nil, or_false] at hforeign
    rcases hforeign with rfl | rfl | rfl | rfl
    · exact absurd rfl hI
    · exact ⟨'\u0131', by decide +kernel, by decide +kernel, fun _ => by decide +kernel⟩
    · exact ⟨'\u017F', by decide +kernel, by decide +kernel, fun _ => by decide +kernel⟩
    · -- The Kelvin sign becomes an ordinary k.
      exact ⟨'k', by decide +kernel, by decide +kernel, fun _ => by decide +kernel⟩

theorem isTail_cons {c : Char} {t : Text} (hc : isMember c) (ht : isTail t) :
    isTail (c :: t) := by
  rw [isTail.eq_def]
  split
  · rfl
  · rfl
  · next heq =>
    obtain ⟨rfl, rfl⟩ := List.cons.inj heq
    rw [hc, ht]
    rfl

theorem isMember_or_lineFeed_of_isTail {t : Text} (ht : isTail t) :
    ∀ c ∈ t, isMember c ∨ c = '\n' := by
  fun_induction isTail t with
  | case1 => simp
  | case2 => simp
  | case3 c t _ ih =>
    obtain ⟨hc, ht⟩ := Bool.and_eq_true_iff.mp ht
    rintro d (_ | ⟨_, hd⟩)
    · exact Or.inl hc
    · exact ih ht d hd

theorem isMember_or_lineFeed_of_isScheme {p : Text} (hp : isScheme p) :
    ∀ c ∈ p, isMember c ∨ c = '\n' := by
  cases p with
  | nil => exact absurd hp (by decide)
  | cons c t =>
    obtain ⟨hc, ht⟩ := Bool.and_eq_true_iff.mp hp
    rintro d (_ | ⟨_, hd⟩)
    · exact Or.inl (by simp [isMember, hc])
    · exact isMember_or_lineFeed_of_isTail ht d hd

/-- A scheme holds neither a colon nor a capital sigma nor a combining dot. -/
theorem not_mem_of_isScheme {p : Text} (hp : isScheme p) {c : Char}
    (hc : isMember c = false) (hn : c ≠ '\n') : c ∉ p := by
  intro hmem
  rcases isMember_or_lineFeed_of_isScheme hp c hmem with h | h
  · exact Bool.false_ne_true (hc.symm.trans h)
  · exact hn h

/-! ### The scheme of a lower-cased name -/

theorem isTail_flatMap_lowerChar {t : Text} (ht : isTail t) (hI : dottedCapitalI ∉ t) :
    isTail (t.flatMap lowerChar) := by
  fun_induction isTail t with
  | case1 => rfl
  | case2 =>
    rw [List.flatMap_singleton, lowerChar_of_sign (by decide) (by decide)]
    rfl
  | case3 c t _ ih =>
    obtain ⟨hc, ht⟩ := Bool.and_eq_true_iff.mp ht
    obtain ⟨hcI, htI⟩ := List.ne_and_not_mem_of_not_mem_cons hI
    obtain ⟨d, hd, hmem, -⟩ := lowerChar_of_isMember hc hcI.symm
    rw [List.flatMap_cons, hd]
    exact isTail_cons hmem (ih ht htI)

/-- **The lower case of a scheme is a scheme unless it holds a dotted capital I.** -/
theorem isScheme_flatMap_lowerChar {p : Text} (hp : isScheme p) :
    isScheme (p.flatMap lowerChar) ↔ dottedCapitalI ∉ p := by
  constructor
  · intro h hI
    refine not_mem_of_isScheme h (c := combiningDot) (by decide) (by decide) ?_
    exact List.mem_flatMap.mpr ⟨_, hI, combiningDot_mem_lowerChar⟩
  · intro hI
    cases p with
    | nil => exact absurd hp (by decide)
    | cons c t =>
      obtain ⟨hc, ht⟩ := Bool.and_eq_true_iff.mp hp
      obtain ⟨hcI, htI⟩ := List.ne_and_not_mem_of_not_mem_cons hI
      obtain ⟨d, hd, -, hlet⟩ := lowerChar_of_isMember (by simp [isMember, hc]) hcI.symm
      rw [List.flatMap_cons, hd]
      exact Bool.and_eq_true_iff.mpr ⟨hlet hc, isTail_flatMap_lowerChar ht htI⟩

/-- Lower case makes no colon in a scheme, not even out of a dotted capital I. -/
theorem colon_not_mem_flatMap_lowerChar {p : Text} (hp : isScheme p) :
    ':' ∉ p.flatMap lowerChar := by
  intro h
  obtain ⟨c, hc, hcolon⟩ := List.mem_flatMap.mp h
  rcases isMember_or_lineFeed_of_isScheme hp c hc with hmem | rfl
  · by_cases hI : c = dottedCapitalI
    · rw [hI] at hcolon
      exact absurd hcolon (by decide)
    · obtain ⟨d, hd, hmem, -⟩ := lowerChar_of_isMember hmem hI
      rw [hd, List.mem_singleton] at hcolon
      rw [← hcolon] at hmem
      exact absurd hmem (by decide)
  · rw [lowerChar_of_sign (by decide) (by decide)] at hcolon
    exact absurd hcolon (by decide)

/-- The scheme of a name is lower-cased on its own, and the mark after it stays. -/
theorem lower_append_mark {p : Text} (hp : isScheme p) (r : Text) :
    ∃ u, lower (p ++ (mark ++ r)) = p.flatMap lowerChar ++ (mark ++ u) := by
  have hsigma : capitalSigma ∉ p := not_mem_of_isScheme hp (by decide) (by decide)
  have hlow : mark.flatMap lowerChar = mark := by simp [mark, lowerChar_of_sign]
  rw [lower, lowerAfter_append hsigma, lowerAfter_append (t := mark) (by decide), hlow]
  exact ⟨_, rfl⟩

/-- **The first mark stays where it is**: what stands before it in the lower-cased name is the
lower case of what stands before it in the name. -/
theorem beforeMark_lower {t p : Text} (hmark : beforeMark t = some p) (hp : isScheme p) :
    beforeMark (lower t) = some (p.flatMap lowerChar) := by
  obtain ⟨r, rfl⟩ := eq_append_of_beforeMark hmark
  obtain ⟨u, hu⟩ := lower_append_mark hp r
  rw [hu]
  exact beforeMark_append (colon_not_mem_flatMap_lowerChar hp) u

theorem isSome_ofText_iff {t : Text} :
    (ofText t).isSome ↔ ∃ p, beforeMark t = some p ∧ isScheme p := by
  rw [ofText]
  cases beforeMark t with
  | none => simp
  | some p => by_cases hp : isScheme p <;> simp [hp]

/-- **A name with a scheme still has one in lower case exactly when no dotted capital I stands
before its mark.** -/
theorem isSome_ofText_lower_iff {t p : Text} (hmark : beforeMark t = some p) (hp : isScheme p) :
    (ofText (lower t)).isSome ↔ dottedCapitalI ∉ p := by
  rw [isSome_ofText_iff, beforeMark_lower hmark hp, ← isScheme_flatMap_lowerChar hp]
  constructor
  · rintro ⟨q, hq, hscheme⟩
    obtain rfl := Option.some.inj hq
    exact hscheme
  · exact fun hscheme => ⟨_, rfl, hscheme⟩

end Scheme

end MediaCatalog
