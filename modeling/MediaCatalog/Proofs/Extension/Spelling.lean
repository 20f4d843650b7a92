import MediaCatalog.Proofs.Recognition
import MediaCatalog.Proofs.Text.FinalSigma

/-!
# An extension as it is declared

A name that ends in a declared extension, in the very spelling of the declaration, should be
recognised by it. The two are lower-cased before they are compared, the name as a whole and the
extension on its own, and it is not a matter of course that the name then still ends in the
extension: a sigma that the extension opens with becomes the final one if a cased character stands
before the dot, since the dot is case-ignorable.

That is the only case (`MediaCatalog.Format.endsIn_spelled_iff`), and even then the name may end in
another of the declared extensions (`MediaCatalog.Format.find_spelled_eq_none_iff`).
-/

namespace MediaCatalog

namespace Format

open Text

/-- The lower case of a name ends in the extension as it is lower-cased after the stem. -/
theorem lowerAfter_endsCased_suffix (stem e : Text) :
    '.' :: lowerAfter (endsCased stem) e <:+ lower (stem ++ '.' :: e) := by
  rw [← lowerAfter_dot, ← foldl_casedAfter]
  exact lowerAfter_suffix false stem _

/-- **A name ends in the extension that it is spelled with**, unless the extension opens with a
final sigma and the stem ends cased. -/
theorem endsIn_spelled_iff {stem e : Text} :
    EndsIn (stem ++ '.' :: e) e ↔ ¬(endsCased stem ∧ OpensWithFinalSigma e) := by
  rw [← lowerAfter_endsCased_eq_iff, EndsIn]
  have hsuffix := lowerAfter_endsCased_suffix stem e
  constructor
  · intro hends
    -- Both are the end of the name from the same dot on.
    have hlength : ('.' :: lower e).length = ('.' :: lowerAfter (endsCased stem) e).length :=
      congrArg (· + 1) (length_lowerAfter false (endsCased stem) e)
    have hle := List.suffix_of_suffix_length_le hends hsuffix (Nat.le_of_eq hlength)
    exact (List.cons.inj (hle.eq_of_length hlength)).2.symm
  · intro heq
    rwa [heq] at hsuffix

/-- **A declared extension matches its own spelling in all cases but one**: the extension opens with
a final sigma, the stem ends cased, and no other declared extension is there to match. -/
theorem find_spelled_eq_none_iff {f : Format} {s e : Text} (hrule : f.rule = .extension)
    (he : e ∈ f.extensions) (hscheme : Scheme.ofText (lower (s ++ '.' :: e)) = none) :
    f.find (some (s ++ '.' :: e)) = none ↔
      (endsCased s ∧ OpensWithFinalSigma e) ∧
        ∀ d ∈ f.extensions, d ≠ e → ¬EndsIn (s ++ '.' :: e) d := by
  rw [find_of_extension hrule, findExtension_eq_none_iff, hscheme, Option.isSome_none,
    or_iff_right Bool.false_ne_true]
  constructor
  · intro hnone
    exact ⟨not_not.mp (endsIn_spelled_iff.not.mp (hnone e he)), fun d hd _ => hnone d hd⟩
  · rintro ⟨hsigma, hother⟩ d hd
    by_cases hde : d = e
    · rw [hde, endsIn_spelled_iff]
      exact not_not_intro hsigma
    · exact hother d hd hde

/-- A format with an extension of one letter, a capital sigma. -/
def sums : Format where
  name := "Sums".toList
  id := .custom
  extensions := ["\u03A3".toList]

/-- The sigma is no final one after a digit; and where the final sigma is declared too, the name
ends in that. -/
theorem find_spelled_eq_none_iff_sums :
    let both := { sums with extensions := ["\u03A3".toList, "\u03C2".toList] }
    (sums.rule = .extension ∧ "\u03A3".toList ∈ sums.extensions ∧
      Scheme.ofText (lower "1.\u03A3".toList) = none ∧ sums.find (some "1.\u03A3".toList) ≠ none) ∧
    (both.rule = .extension ∧ "\u03A3".toList ∈ both.extensions ∧
      Scheme.ofText (lower "a.\u03A3".toList) = none ∧
        both.find (some "a.\u03A3".toList) ≠ none) := by
  intro both
  have hdigit : Scheme.ofText (lower "1.\u03A3".toList) = none := by decide +kernel
  have hletter : Scheme.ofText (lower "a.\u03A3".toList) = none := by decide +kernel
  refine ⟨⟨rfl, by decide, hdigit, fun hnone => ?_⟩, rfl, by decide, hletter, fun hnone => ?_⟩
  · obtain ⟨⟨hcased, -⟩, -⟩ :=
      (find_spelled_eq_none_iff (s := "1".toList) rfl (by decide) hdigit).mp hnone
    exact absurd hcased (by decide +kernel)
  · obtain ⟨-, hother⟩ :=
      (find_spelled_eq_none_iff (f := both) (s := "a".toList) rfl (by decide) hletter).mp hnone
    refine hother "\u03C2".toList (by decide) (by decide) ?_
    exact List.isSuffixOf_iff_suffix.mp (by decide +kernel)

/-- The case that remains: the capital sigma is not recognised after a letter, although it is
declared just so. -/
theorem capital_sigma_not_found :
    sums.rule = .extension ∧ "\u03A3".toList ∈ sums.extensions ∧
      Scheme.ofText (lower "a.\u03A3".toList) = none ∧
        sums.find (some "a.\u03A3".toList) = none := by
  decide +kernel

end Format

end MediaCatalog
