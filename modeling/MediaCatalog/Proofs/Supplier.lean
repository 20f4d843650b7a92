import MediaCatalog.Proofs.Recognition.LetterCase
import MediaCatalog.Supplier

/-!
# Settings that name a supplier of cover art

A setting names a supplier in one of the documented ways or not at all
(`MediaCatalog.Supplier.recognise_exact`): by one of four texts or one of two codes.

A text is looked up by its full lower case, in which letters beyond ASCII could become letters of a
documented text. Two of them come near, and neither gets in. The Kelvin sign becomes a k, and no
documented text has a k; the dotted capital I becomes an i, but brings its dot along. So the texts
that are found are the documented ones up to the case of ASCII letters, and no others.

The codes are written down twice, where a setting is read and where a supplier is stored. Both know
the same codes: a code is read exactly if it can be stored, and it is read as the supplier that is
stored as that code.
-/

namespace MediaCatalog

open Text

namespace Supplier

open Scheme (SameLetters)

theorem mem_all (s : Supplier) : s ∈ all := by
  cases s <;> decide

/-- What is said of every supplier can be checked one by one. -/
instance {P : Supplier → Prop} [DecidablePred P] : Decidable (∀ s, P s) :=
  decidable_of_iff (∀ s ∈ all, P s) ⟨fun h s => h s (mem_all s), fun h s _ => h s⟩

/-! ### Texts -/

/-- The texts that are documented to name a supplier. -/
def documented : Supplier → List Text
  | none => ["none".toList]
  | coverArtArchive =>
    ["coverartarchive".toList, "coverartarchive.org".toList, "cover art archive".toList]

theorem mem_spellings_iff {u : Text} {s : Supplier} : (u, s) ∈ spellings ↔ u ∈ s.documented := by
  cases s <;> simp [spellings, documented]

theorem lookup_spellings_eq_some_iff {u : Text} {s : Supplier} :
    spellings.lookup u = some s ↔ u ∈ s.documented := by
  rw [← mem_spellings_iff]
  constructor
  · intro h
    obtain ⟨before, after, heq, -⟩ := List.lookup_eq_some_iff.mp h
    exact heq ▸ List.mem_append_right _ List.mem_cons_self
  · have hkeys : ∀ e ∈ spellings, spellings.lookup e.1 = some e.2 := by decide
    exact hkeys (u, s)

section Documented

variable {t u : Text} {s : Supplier}

/-- The documented texts are ASCII, and nothing beyond ASCII becomes one of them. -/
theorem ascii_of_mem_documented (h : u ∈ s.documented) : ∀ d ∈ u, d.toNat < 128 ∧ d ≠ 'k' := by
  have hall : ∀ s : Supplier, ∀ u ∈ s.documented, u.all fun d => d.toNat < 128 ∧ d ≠ 'k' := by
    decide
  exact fun d hd => of_decide_eq_true (List.all_eq_true.mp (hall s u h) d hd)

/-- The documented texts are in lower case. -/
theorem map_toLower_of_mem_documented (h : u ∈ s.documented) : u.map Char.toLower = u := by
  have hall : ∀ s : Supplier, ∀ u ∈ s.documented, u.map Char.toLower = u := by decide
  exact hall s u h

/-- **A text names a supplier** exactly if it is one of the documented texts, up to the case of
ASCII letters. -/
theorem recognise_text_eq_some_iff :
    recognise (.text t) = some s ↔ ∃ u ∈ s.documented, SameLetters t u := by
  rw [recognise, lookup_spellings_eq_some_iff]
  constructor
  · intro h
    have hletters := (lower_eq_iff_of_ascii (ascii_of_mem_documented h)).mp rfl
    exact ⟨lower t, h, hletters.trans (map_toLower_of_mem_documented h).symm⟩
  · rintro ⟨u, h, hsame⟩
    have hletters := hsame.trans (map_toLower_of_mem_documented h)
    rwa [(lower_eq_iff_of_ascii (ascii_of_mem_documented h)).mpr hletters]

theorem ascii_of_recognise_text (h : recognise (.text t) = some s) : ∀ c ∈ t, c.toNat < 128 := by
  obtain ⟨u, hu, hsame⟩ := recognise_text_eq_some_iff.mp h
  intro c hc
  have hmem : c.toLower ∈ u.map Char.toLower := hsame ▸ List.mem_map_of_mem hc
  rw [map_toLower_of_mem_documented hu] at hmem
  exact ascii_toLower_iff.mp (ascii_of_mem_documented hu _ hmem).1

theorem isBlank_toLower (c : Char) : isBlank c.toLower = isBlank c := by
  by_cases hc : c.toNat < 128
  · exact forall_ascii (P := fun c => isBlank c.toLower = isBlank c) (by decide +kernel) hc
  · rw [toLower_of_not_ascii hc]

/-- Texts with the same letters have white space in the same places. -/
theorem map_isBlank_of_sameLetters (h : SameLetters t u) : t.map isBlank = u.map isBlank := by
  have hlower : ∀ v : Text, (v.map Char.toLower).map isBlank = v.map isBlank := fun v => by
    rw [List.map_map]
    exact List.map_congr_left fun c _ => isBlank_toLower c
  rw [← hlower t, h, hlower u]

/-- A text with white space names a supplier in one way only. -/
theorem sameLetters_of_blank (h : recognise (.text t) = some s) (hblank : t.any isBlank) :
    SameLetters t "cover art archive".toList := by
  obtain ⟨u, hu, hsame⟩ := recognise_text_eq_some_iff.mp h
  have hone : ∀ s : Supplier, ∀ u ∈ s.documented, (u.map isBlank).any id →
      u = "cover art archive".toList := by decide
  have hany : (u.map isBlank).any id := by
    rwa [← map_isBlank_of_sameLetters hsame, List.any_map, Function.id_comp]
  rwa [← hone s u hu hany]

end Documented

/-! ### Codes -/

/-- **A code is read as the supplier that has it.** -/
theorem recognise_integer_eq_some_iff {n : Int} {s : Supplier} :
    recognise (.integer n) = some s ↔ s.code = n := by
  constructor
  · intro h
    rw [recognise] at h
    split at h
    · next hn =>
      obtain rfl := Option.some.inj h
      exact hn.symm
    · split at h
      · next hn =>
        obtain rfl := Option.some.inj h
        exact hn.symm
      · exact nomatch h
  · rintro rfl
    cases s <;> rfl

/-- The codes that can be stored are those that a supplier has, whatever they are labelled. -/
theorem exists_toStored_iff (n : Int) (label : Text) :
    (∃ m, (SupplierCode.mk n label).toStored = .ok m) ↔ ∃ s : Supplier, s.code = n := by
  constructor
  · rintro ⟨m, hm⟩
    rw [SupplierCode.toStored] at hm
    split at hm
    · next hn => exact ⟨none, hn.symm⟩
    · split at hm
      · next hn => exact ⟨coverArtArchive, hn.symm⟩
      · exact nomatch hm
  · rintro ⟨s, rfl⟩
    cases s <;> exact ⟨_, rfl⟩

/-! ### The statement -/

/-- Two readings of a setting are the same if they agree under every default. -/
theorem eq_of_forall_getD {o o' : Option Supplier} (h : ∀ d, o.getD d = o'.getD d) : o = o' := by
  have hnone := h none
  have harchive := h coverArtArchive
  rcases o with _ | s <;> rcases o' with _ | s'
  · rfl
  · -- The one supplier cannot be both defaults.
    exact absurd (hnone.trans harchive.symm) (by decide)
  · exact absurd (hnone.symm.trans harchive) (by decide)
  · exact congrArg some hnone

/-- What a setting names, if it is exactly what is documented. -/
structure NamesExactly (names : SupplierSetting → Option Supplier) : Prop where
  /-- A text names a supplier by one of the documented texts, up to the case of ASCII letters. -/
  text : ∀ t s, names (.text t) = some s ↔ ∃ u ∈ s.documented, SameLetters t u
  /-- A text with anything beyond ASCII names none. -/
  ascii : ∀ t, (names (.text t)).isSome → ∀ c ∈ t, c.toNat < 128
  /-- Only one of the documented texts has white space, and no other text with white space names a
  supplier. -/
  blank : ∀ t, (names (.text t)).isSome → t.any isBlank →
    SameLetters t "cover art archive".toList
  /-- An integer names a supplier if it can be stored as a code, whatever its label. -/
  integer : ∀ n label, (names (.integer n)).isSome ↔
    ∃ m, (SupplierCode.mk n label).toStored = .ok m
  /-- The supplier that an integer names is stored as this integer. -/
  stored : ∀ n s, names (.integer n) = some s → s.toStored = .ok n
  /-- Neither a truth value, nor no value, nor a value of another type names a supplier. -/
  other : (∀ b, names (.truth b) = Option.none) ∧ names .missing = Option.none ∧
    names .other = Option.none

theorem namesExactly_recognise : NamesExactly recognise where
  text t s := recognise_text_eq_some_iff
  ascii t h := by
    obtain ⟨s, hs⟩ := Option.isSome_iff_exists.mp h
    exact ascii_of_recognise_text hs
  blank t h hblank := by
    obtain ⟨s, hs⟩ := Option.isSome_iff_exists.mp h
    exact sameLetters_of_blank hs hblank
  integer n label := by
    rw [exists_toStored_iff, Option.isSome_iff_exists]
    exact exists_congr fun s => recognise_integer_eq_some_iff
  stored n s h := by
    rw [toStored_eq, recognise_integer_eq_some_iff.mp h]
  other := ⟨fun _ => rfl, rfl, rfl⟩

/-- **Settings name suppliers in the documented ways and in no other.** There is one way to read
the supplier of a setting, or the default, as something that the setting names or does not name, and
what it names is exactly what is documented. The supplier that comes out can always be stored, as
its code. -/
theorem recognise_exact :
    (∀ names : SupplierSetting → Option Supplier,
      (∀ value default, ofSetting value default = (names value).getD default) ↔
        names = recognise) ∧
    NamesExactly recognise ∧
    ∀ value default, (ofSetting value default).toStored = .ok (ofSetting value default).code := by
  refine ⟨fun names => ⟨fun h => ?_, ?_⟩, namesExactly_recognise, fun value default => ?_⟩
  · exact funext fun value => eq_of_forall_getD fun default => (h value default).symm
  · rintro rfl value default
    rfl
  · exact (ofSetting value default).toStored_eq

/-- The lower case of this text differs from a documented one by a combining dot. -/
example : recognise (.text "CoverArtArch\u0130ve".toList) = Option.none := by decide +kernel

end Supplier

end MediaCatalog
