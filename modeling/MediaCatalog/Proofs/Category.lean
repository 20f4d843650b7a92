import MediaCatalog.Category
import Mathlib.Data.Int.Bitwise
import Mathlib.Logic.ExistsUnique

/-!
# Masks, bit by bit

The tests of a mask look at single bits, while its label and its MIME type look at the mask as a
whole. This file reads all three off the two's-complement bits of the mask, which may be any
integer: a negative one has infinitely many bits.

A test is the bit at the **place** of its category (`MediaCatalog.Mask.has_eq_testBit`). A mask that
lies between the empty one and the first undefined bit has no bits but those at the places, so that
it is determined by its tests. If it passes one test only, it is the mask of that category
(`MediaCatalog.Mask.hasOnly_iff`), and these are the masks that the label and the MIME type look up
(`MediaCatalog.Mask.tests_agree_with_lookups`).
-/

namespace MediaCatalog

namespace Category

/-- The place of the bit of a category. -/
def place : Category → Nat
  | audio => 0
  | image => 1
  | video => 2
  | unknown => 3
  | playlist => 4
  | iso => 5
  | subtitle => 6

theorem mem_all (c : Category) : c ∈ all := by
  cases c <;> decide

/-- What is said of every category can be checked one by one. -/
instance {P : Category → Prop} [DecidablePred P] : Decidable (∀ c, P c) :=
  decidable_of_iff (∀ c ∈ all, P c) ⟨fun h c => h c (mem_all c), fun h c _ => h c⟩

theorem weight_eq_two_pow (c : Category) : c.weight = 2 ^ c.place := by
  cases c <;> rfl

theorem place_injective {c c' : Category} (h : c.place = c'.place) : c = c' := by
  have hall : ∀ c c' : Category, c.place = c'.place → c = c' := by decide
  exact hall c c' h

/-- The places are those before the first undefined bit. -/
theorem exists_place_eq_iff {k : Nat} : (∃ c : Category, c.place = k) ↔ k < 7 := by
  constructor
  · rintro ⟨c, rfl⟩
    revert c
    decide
  · intro hk
    have hall : ∀ k < 7, ∃ c ∈ all, c.place = k := by decide
    obtain ⟨c, -, hc⟩ := hall k hk
    exact ⟨c, hc⟩

theorem weight_injective {c c' : Category} (h : c.weight = c'.weight) : c = c' := by
  rw [weight_eq_two_pow, weight_eq_two_pow] at h
  exact place_injective (Nat.pow_right_injective (Nat.le_refl 2) h)

theorem label_injective {c c' : Category} (h : c.label = c'.label) : c = c' := by
  have hall : ∀ c c' : Category, c.label = c'.label → c = c' := by decide
  exact hall c c' h

end Category

namespace Mask

/-! ### Tests as bits -/

/-- A two's-complement bit is the parity of a quotient that is rounded down. -/
theorem testBit_eq_ediv (n : Int) (k : Nat) : n.testBit k = (n / 2 ^ k % 2 == 1) := by
  rw [Bool.eq_iff_iff, beq_iff_eq]
  cases n with
  | ofNat m =>
    have hquotient : (Int.ofNat m / 2 ^ k : Int) = ((m / 2 ^ k : Nat) : Int) := by
      rw [Int.natCast_ediv, Int.natCast_pow]
      rfl
    change m.testBit k = true ↔ _
    rw [Nat.testBit_eq_decide_div_mod_eq, decide_eq_true_eq, hquotient]
    omega
  | negSucc m =>
    -- The bits of a negative mask are those of its complement, the other way round.
    have hquotient : (Int.negSucc m / 2 ^ k : Int) = -((m / 2 ^ k : Nat) : Int) - 1 := by
      rw [Int.negSucc_ediv m (Int.pow_pos (by decide)), Int.natCast_ediv, Int.natCast_pow]
      exact Int.neg_add
    change (!m.testBit k) = true ↔ _
    rw [Nat.testBit_eq_decide_div_mod_eq, Bool.not_eq_true', decide_eq_false_iff_not, hquotient]
    omega

/-- **A test is a bit**: the one at the place of its category. -/
theorem has_eq_testBit (mask : Mask) (c : Category) : mask.has c = Int.testBit mask c.place := by
  rw [has, testBit_eq_ediv, Category.weight_eq_two_pow, Int.natCast_pow]
  rfl

theorem has_lor (m n : Mask) (c : Category) : has (Int.lor m n) c = (m.has c || n.has c) := by
  rw [has_eq_testBit, has_eq_testBit, has_eq_testBit, Int.testBit_lor]

theorem has_land (m n : Mask) (c : Category) : has (Int.land m n) c = (m.has c && n.has c) := by
  rw [has_eq_testBit, has_eq_testBit, has_eq_testBit, Int.testBit_land]

/-! ### Masks that pass one test -/

/-- A mask that lies between the empty one and the first undefined bit, and passes the test for one
category only. -/
structure HasOnly (mask : Mask) (c : Category) : Prop where
  pos : 0 < mask
  lt : mask < 128
  has_iff : ∀ c', mask.has c' ↔ c' = c

theorem HasOnly.unique {mask : Mask} {c c' : Category} (h : HasOnly mask c)
    (h' : HasOnly mask c') : c = c' := (h'.has_iff c).mp ((h.has_iff c).mpr rfl)

theorem exists_hasOnly_iff {mask : Mask} :
    (∃ c, HasOnly mask c) ↔ (0 < mask ∧ mask < 128) ∧ ∃! c, mask.has c := by
  constructor
  · rintro ⟨c, hpos, hlt, hiff⟩
    exact ⟨⟨hpos, hlt⟩, c, (hiff c).mpr rfl, fun c' => (hiff c').mp⟩
  · rintro ⟨⟨hpos, hlt⟩, c, hc, hunique⟩
    exact ⟨c, hpos, hlt, fun c' => ⟨hunique c', fun heq => heq ▸ hc⟩⟩

theorem hasOnly_weight (c : Category) : HasOnly c.weight c := by
  have hrange : ∀ c : Category, (0 : Int) < c.weight ∧ (c.weight : Int) < 128 := by decide
  obtain ⟨hpos, hlt⟩ := hrange c
  refine ⟨hpos, hlt, fun c' => ?_⟩
  have hbit : Int.testBit c.weight c'.place = decide (c.place = c'.place) := by
    rw [Category.weight_eq_two_pow]
    exact Nat.testBit_two_pow
  rw [has_eq_testBit, hbit, decide_eq_true_eq]
  exact ⟨fun h => (Category.place_injective h).symm, fun h => h ▸ rfl⟩

/-- **A mask that passes one test is the mask of that category.** Its bits are those of the tests,
since it is too small for any other. -/
theorem hasOnly_iff {mask : Mask} {c : Category} : HasOnly mask c ↔ mask = c.weight := by
  constructor
  · rintro ⟨hpos, hlt, hiff⟩
    obtain ⟨n, rfl⟩ := Int.eq_ofNat_of_zero_le (Int.le_of_lt hpos)
    rw [Category.weight_eq_two_pow]
    refine congrArg _ (Nat.eq_of_testBit_eq fun k => ?_)
    rw [Nat.testBit_two_pow]
    by_cases hk : k < 7
    · obtain ⟨c', rfl⟩ := Category.exists_place_eq_iff.mpr hk
      have hbit : n.testBit c'.place = has n c' := (has_eq_testBit n c').symm
      rw [hbit, Bool.eq_iff_iff, hiff c', decide_eq_true_eq]
      exact ⟨fun h => h ▸ rfl, fun h => (Category.place_injective h).symm⟩
    · have hn : n < 2 ^ k := calc
        n < 128 := by exact_mod_cast hlt
        _ ≤ 2 ^ k := Nat.pow_le_pow_right (by decide : 0 < 2) (Nat.not_lt.mp hk)
      have hplace : c.place ≠ k := fun h => hk (Category.exists_place_eq_iff.mp ⟨c, h⟩)
      rw [Nat.testBit_lt_two_pow hn, decide_eq_false hplace]
  · rintro rfl
    exact hasOnly_weight c

/-! ### Look-ups -/

theorem single?_eq_some_iff {mask : Mask} {c : Category} :
    mask.single? = some c ↔ HasOnly mask c := by
  have hfound : ∀ c', mask.single? = some c' → mask = c'.weight := fun c' h => by
    have hself := List.find?_some (p := fun c : Category => mask == (c.weight : Int)) h
    exact eq_of_beq hself
  rw [hasOnly_iff]
  refine ⟨hfound c, fun hmask => ?_⟩
  -- Something is found, and no other category has this mask.
  have hsome : mask.single?.isSome := List.find?_isSome.mpr
    ⟨c, Category.mem_all c, beq_iff_eq.mpr hmask⟩
  obtain ⟨c', hc'⟩ := Option.isSome_iff_exists.mp hsome
  have hweight : (c.weight : Int) = c'.weight := hmask.symm.trans (hfound c' hc')
  rw [hc', Category.weight_injective (Int.ofNat_inj.mp hweight)]

section Lookups

variable {mask : Mask} {c : Category}

theorem label_of_hasOnly (h : HasOnly mask c) : mask.label = c.label := by
  rw [label, single?_eq_some_iff.mpr h]
  rfl

theorem mimeType_of_hasOnly (h : HasOnly mask c) :
    mask.mimeType = c.mimeType.getD fallbackMimeType := by
  rw [mimeType, single?_eq_some_iff.mpr h]
  rfl

/-- A mask that is not that of a single category is not found. -/
theorem lookups_of_not_hasOnly (h : ¬∃ c, HasOnly mask c) :
    mask.label = noLabel ∧ mask.mimeType = fallbackMimeType := by
  have hnone : mask.single? = none := Option.eq_none_iff_forall_ne_some.mpr fun c hc =>
    h ⟨c, single?_eq_some_iff.mp hc⟩
  rw [label, mimeType, hnone]
  exact ⟨rfl, rfl⟩

theorem label_ne_noLabel : ∀ c : Category, c.label ≠ noLabel := by
  decide

theorem label_ne_noLabel_iff : mask.label ≠ noLabel ↔ ∃ c, HasOnly mask c := by
  by_cases h : ∃ c, HasOnly mask c
  · obtain ⟨c, hc⟩ := h
    exact iff_of_true (label_of_hasOnly hc ▸ label_ne_noLabel c) ⟨c, hc⟩
  · exact iff_of_false (not_not_intro (lookups_of_not_hasOnly h).1) h

theorem label_eq_iff : mask.label = c.label ↔ HasOnly mask c := by
  refine ⟨fun h => ?_, label_of_hasOnly⟩
  obtain ⟨c', hc'⟩ := label_ne_noLabel_iff.mp (h ▸ label_ne_noLabel c)
  rwa [← Category.label_injective ((label_of_hasOnly hc').symm.trans h)]

theorem mimeType_ne_fallback_iff :
    mask.mimeType ≠ fallbackMimeType ↔ ∃ c, HasOnly mask c ∧ c ≠ .unknown ∧ c ≠ .iso := by
  have hown : ∀ c : Category, c.mimeType.getD fallbackMimeType ≠ fallbackMimeType ↔
      c ≠ .unknown ∧ c ≠ .iso := by decide
  by_cases h : ∃ c, HasOnly mask c
  · obtain ⟨c, hc⟩ := h
    rw [mimeType_of_hasOnly hc, hown c]
    refine ⟨fun hc' => ⟨c, hc, hc'⟩, fun ⟨c', hc', hne⟩ => ?_⟩
    exact hc'.unique hc ▸ hne
  · refine iff_of_false (not_not_intro (lookups_of_not_hasOnly h).2) ?_
    rintro ⟨c, hc, -⟩
    exact h ⟨c, hc⟩

/-- Masks with the same MIME type, if it is not the fallback, are the same. -/
theorem eq_of_mimeType_eq {m n : Mask} (hm : m.mimeType ≠ fallbackMimeType)
    (heq : m.mimeType = n.mimeType) : m = n := by
  have hdistinct : ∀ c c' : Category, c.mimeType.getD fallbackMimeType ≠ fallbackMimeType →
      c.mimeType.getD fallbackMimeType = c'.mimeType.getD fallbackMimeType → c = c' := by decide
  obtain ⟨c, hc, -⟩ := mimeType_ne_fallback_iff.mp hm
  obtain ⟨c', hc', -⟩ := mimeType_ne_fallback_iff.mp (heq ▸ hm)
  rw [mimeType_of_hasOnly hc] at hm heq
  rw [mimeType_of_hasOnly hc'] at heq
  obtain rfl := hdistinct c c' hm heq
  exact (hasOnly_iff.mp hc).trans (hasOnly_iff.mp hc').symm

end Lookups

/-! ### The statement -/

/-- **The tests of a mask and its look-ups agree**, whatever integer it is. Each test is a bit of
the mask, so that tests commute with union and intersection of the bits. A mask has a label exactly
if it lies between the empty one and the first undefined bit and passes one test only; it has the
label of that category, and it has a MIME type of its own as well, unless the category is the
unknown one or that of disc images. No two masks share such a MIME type. -/
theorem tests_agree_with_lookups :
    (∀ (mask : Mask) (c : Category), mask.has c = Int.testBit mask c.place) ∧
    (∀ (m n : Mask) (c : Category), has (Int.lor m n) c = (m.has c || n.has c) ∧
      has (Int.land m n) c = (m.has c && n.has c)) ∧
    (∀ mask : Mask, (mask.label ≠ noLabel ↔ (0 < mask ∧ mask < 128) ∧ ∃! c, mask.has c) ∧
      (∀ c, mask.label = c.label ↔ HasOnly mask c) ∧
      (mask.mimeType ≠ fallbackMimeType ↔ ∃ c, HasOnly mask c ∧ c ≠ .unknown ∧ c ≠ .iso)) ∧
    ∀ m n : Mask, m ≠ n → m.mimeType = n.mimeType → m.mimeType = fallbackMimeType := by
  refine ⟨has_eq_testBit, fun m n c => ⟨has_lor m n c, has_land m n c⟩, fun mask => ?_, ?_⟩
  · exact ⟨label_ne_noLabel_iff.trans exists_hasOnly_iff, fun c => label_eq_iff,
      mimeType_ne_fallback_iff⟩
  · intro m n hne heq
    by_contra hm
    exact hne (eq_of_mimeType_eq hm heq)

/-- The bit of audio alone among the defined ones, and all above them: a mask that passes one test
and has no label, since it is negative. -/
example : categories (-127) = [.audio] ∧ label (-127) = noLabel := by decide

end Mask

end MediaCatalog
