import MediaCatalog.Proofs.Settings
import MediaCatalog.Proofs.Text.Seam
import MediaCatalog.Proofs.Text.UpperCase

/-!
# The case of a name

An identifier is read from a text by its upper case, so that the text and its upper case are always
read alike. With the lower case of the text it is another matter. Full upper case is no inverse of
full lower case: there are capitals which are their own upper case, although the upper case of their
small form is in ASCII, as all names are. They are the Kelvin sign and the capital sharp s, and some
names have the letters that these make.

So there are texts which name nothing while their lower case does. There are three of them, up to
white space and the case of the letters of ASCII (`MediaCatalog.Catalog.strayNames`), and for all
other texts the case makes no difference (`MediaCatalog.Catalog.readAlike_iff_not_stray`).
-/

namespace MediaCatalog

namespace Catalog

open Text

/-! ### Reading texts alike -/

/-- Texts that are read alike: they all name the same format, or each of them is refused because it
names none. -/
def ReadAlike (texts : List Text) : Prop :=
  (∃ id, ∀ t ∈ texts, readId t = .ok id) ∨ ∀ t ∈ texts, readId t = .error (.unknownName t)

/-- Texts are read alike if each of them has the names that the first one has. -/
theorem readAlike_cons_iff {t : Text} {texts : List Text} :
    ReadAlike (t :: texts) ↔
      ∀ u ∈ texts, ∀ id : FormatId, upper (trim u) = id.name ↔ upper (trim t) = id.name := by
  simp only [ReadAlike, readId_eq_ok_iff, readId_eq_error_iff, List.forall_mem_cons]
  constructor
  · rintro (⟨id, ht, hall⟩ | ⟨ht, hall⟩) u hu id'
    · rw [hall u hu, ht]
    · exact iff_of_false (hall u hu id') (ht id')
  · intro h
    by_cases hnamed : ∃ id : FormatId, upper (trim t) = id.name
    · obtain ⟨id, ht⟩ := hnamed
      exact .inl ⟨id, ht, fun u hu => (h u hu id).mpr ht⟩
    · rw [not_exists] at hnamed
      exact .inr ⟨hnamed, fun u hu id hid => hnamed id ((h u hu id).mp hid)⟩

/-- A text is read like its upper case, and like its lower case if both have the same names. -/
theorem readAlike_cases_iff {t : Text} :
    ReadAlike [t, lower t, upper t] ↔
      ∀ id : FormatId, upper (lower (trim t)) = id.name ↔ upper (trim t) = id.name := by
  rw [readAlike_cons_iff, List.forall_mem_cons, List.forall_mem_singleton, trim_lower, trim_upper,
    upper_upper]
  exact and_iff_left fun _ => Iff.rfl

/-! ### Stray names -/

theorem ascii_of_mem_name (id : FormatId) : ∀ d ∈ id.name, d.toNat < 128 := by
  have hall := FormatId.forall_of_all (P := fun id => id.name.all fun d => d.toNat < 128)
    (by decide +kernel) id
  simpa using hall

/-- What has a name in upper case has the same name by way of lower case. -/
theorem upper_lower_eq_name {t : Text} {id : FormatId} (h : upper t = id.name) :
    upper (lower t) = id.name := by
  rw [← h, upper_lower, upper]
  refine List.flatMap_congr fun c hc => ?_
  obtain ⟨d, hd⟩ := List.exists_mem_of_ne_nil _ (upperChar_ne_nil c)
  have hname : d ∈ id.name := h ▸ List.mem_flatMap.mpr ⟨c, hc, hd⟩
  exact recase_eq_upperChar (ascii_or_mem_of_mem_upperChar (ascii_of_mem_name id d hname) hd)

/-- What has a name by way of lower case only has one of the two capitals which are not what the
upper case of their small form is. -/
theorem mem_of_upper_lower_eq_name {t : Text} {id : FormatId} (h : upper (lower t) = id.name)
    (hne : upper t ≠ id.name) : kelvinSign ∈ t ∨ capitalSharpS ∈ t := by
  by_contra hnone
  rw [not_or] at hnone
  refine hne (h ▸ ?_)
  rw [upper_lower, upper]
  refine (List.flatMap_congr fun c hc => ?_).symm
  have hascii : ∀ d ∈ recase c, d.toNat < 128 := fun d hd =>
    ascii_of_mem_name id d (h ▸ upper_lower t ▸ List.mem_flatMap.mpr ⟨c, hc, hd⟩)
  rcases recase_cases hascii with heq | rfl | rfl
  · exact heq
  · exact absurd hc hnone.1
  · exact absurd hc hnone.2

/-- The texts that name a format by way of lower case only, with the letters of ASCII in lower
case. -/
def strayNames : List Text :=
  [['m', kelvinSign, 'a'], ['m', kelvinSign, 'v'], ['a', capitalSharpS]]

theorem flatMap_recase_eq_nil_iff {t : Text} : t.flatMap recase = [] ↔ t = [] := by
  cases t with
  | nil => exact iff_of_true rfl rfl
  | cons c t => simp [recase_ne_nil]

/-- A text whose capital is a single letter, by way of lower case, is that letter in either case. -/
theorem map_toLower_of_flatMap_recase {t : Text} {d : Char} (hd : d.toNat < 128)
    (hown : d ∉ sharedCapitals) (h : t.flatMap recase = [d]) :
    t.map Char.toLower = [d.toLower] := by
  cases t with
  | nil => exact absurd h (List.cons_ne_nil _ _).symm
  | cons c t =>
    rw [List.flatMap_cons, List.append_eq_singleton_iff] at h
    rcases h with ⟨hnil, -⟩ | ⟨hc, hrest⟩
    · exact absurd hnil (recase_ne_nil c)
    · rw [flatMap_recase_eq_nil_iff.mp hrest, List.map_singleton, toLower_of_recase hd hown hc]

/-- Only two names have the letter that the Kelvin sign makes. -/
theorem name_of_mem_K {id : FormatId} (h : 'K' ∈ id.name) :
    ∃ d, id.name = ['M', 'K', d] ∧ (d = 'A' ∨ d = 'V') := by
  have hall := FormatId.forall_of_all (P := fun id =>
    !id.name.contains 'K' || id.name == ['M', 'K', 'A'] || id.name == ['M', 'K', 'V'])
    (by decide +kernel) id
  simp only [List.contains_iff_mem.mpr h, Bool.not_true, Bool.false_or, Bool.or_eq_true,
    beq_iff_eq] at hall
  rcases hall with hname | hname
  · exact ⟨'A', hname, .inl rfl⟩
  · exact ⟨'V', hname, .inr rfl⟩

/-- Only one name has the letters that the capital sharp s makes. -/
theorem name_of_infix_SS {id : FormatId} (h : ['S', 'S'] <:+: id.name) :
    id.name = ['A', 'S', 'S'] := by
  have hall := FormatId.forall_of_all (P := fun id =>
    decide (['S', 'S'] <:+: id.name → id.name = ['A', 'S', 'S'])) (by decide +kernel) id
  exact of_decide_eq_true hall h

theorem map_toLower_kelvinSign {p q : Text} {id : FormatId}
    (h : upper (lower (p ++ kelvinSign :: q)) = id.name) :
    (p ++ kelvinSign :: q).map Char.toLower ∈ strayNames := by
  obtain ⟨-, -, hkelvin, -⟩ := recase_irregular
  rw [upper_lower, List.flatMap_append, List.flatMap_cons, hkelvin, List.singleton_append] at h
  obtain ⟨d, hname, hd⟩ := name_of_mem_K (h ▸ List.mem_append_right _ List.mem_cons_self)
  have hown : (d.toNat < 128 ∧ d ∉ sharedCapitals) ∧ 'K' ∉ [d] := by
    rcases hd with rfl | rfl <;> decide
  -- There is a single K in the name, so that what stands on either side of it is known.
  have hsides : ['M'] ++ 'K' :: [d] = p.flatMap recase ++ 'K' :: q.flatMap recase :=
    hname.symm.trans h.symm
  obtain ⟨hp, -, hq⟩ := (List.append_cons_inj_of_notMem (by decide) hown.2).mp hsides
  rw [List.map_append, List.map_cons,
    map_toLower_of_flatMap_recase (by decide) (by decide) hp.symm,
    map_toLower_of_flatMap_recase hown.1.1 hown.1.2 hq.symm]
  rcases hd with rfl | rfl <;> decide

theorem map_toLower_capitalSharpS {p q : Text} {id : FormatId}
    (h : upper (lower (p ++ capitalSharpS :: q)) = id.name) :
    (p ++ capitalSharpS :: q).map Char.toLower ∈ strayNames := by
  obtain ⟨-, -, -, hsharp⟩ := recase_irregular
  rw [upper_lower, List.flatMap_append, List.flatMap_cons, hsharp] at h
  rw [name_of_infix_SS ⟨_, _, (List.append_assoc _ _ _).trans h⟩] at h
  have hsides : p.flatMap recase = ['A'] ∧ q.flatMap recase = [] := by
    generalize p.flatMap recase = u, q.flatMap recase = v at h
    cases u with
    | nil => exact absurd (List.cons.inj h).1 (by decide)
    | cons a u =>
      obtain rfl : a = 'A' := (List.cons.inj h).1
      have hrest : u ++ (['S', 'S'] ++ v) = ['S', 'S'] := (List.cons.inj h).2
      have hlength := congrArg List.length hrest
      simp only [List.length_append, List.length_cons, List.length_nil] at hlength
      rw [List.length_eq_zero_iff.mp (by omega : u.length = 0),
        List.length_eq_zero_iff.mp (by omega : v.length = 0)]
      exact ⟨rfl, rfl⟩
  have hp := map_toLower_of_flatMap_recase (by decide) (by decide) hsides.1
  have hq : q = [] := flatMap_recase_eq_nil_iff.mp hsides.2
  rw [List.map_append, List.map_cons, hp, hq]
  decide

/-- **What names a format by way of lower case only** is a stray name. -/
theorem mem_strayNames_of_upper_lower {t : Text} {id : FormatId}
    (h : upper (lower t) = id.name) (hne : upper t ≠ id.name) :
    t.map Char.toLower ∈ strayNames := by
  rcases mem_of_upper_lower_eq_name h hne with hmem | hmem
  · obtain ⟨p, q, rfl⟩ := List.append_of_mem hmem
    exact map_toLower_kelvinSign h
  · obtain ⟨p, q, rfl⟩ := List.append_of_mem hmem
    exact map_toLower_capitalSharpS h

/-- A stray name names a format by way of lower case, and none on its own. -/
theorem upper_lower_of_mem_strayNames {t : Text} (h : t.map Char.toLower ∈ strayNames) :
    ∃ id : FormatId, upper (lower t) = id.name ∧ upper t ≠ id.name := by
  have hlower : upper (lower t) = (t.map Char.toLower).flatMap recase := by
    rw [upper_lower, List.flatMap_map]
    exact List.flatMap_congr fun c _ => (recase_toLower c).symm
  have hname : ∃ id : FormatId, (t.map Char.toLower).flatMap recase = id.name := by
    generalize t.map Char.toLower = w at h
    simp only [strayNames, List.mem_cons, List.not_mem_nil, or_false] at h
    rcases h with rfl | rfl | rfl
    · exact ⟨.mka, by decide +kernel⟩
    · exact ⟨.mkv, by decide +kernel⟩
    · exact ⟨.ass, by decide +kernel⟩
  obtain ⟨id, hid⟩ := hname
  refine ⟨id, hlower.trans hid, fun hupper => ?_⟩
  -- One of its characters is beyond ASCII and its own upper case.
  have hbeyond : (strayNames.all fun w =>
      w.any fun c => !c.toNat < 128 && upperChar c == [c]) = true := by decide +kernel
  obtain ⟨c, hc, hcheck⟩ := List.any_eq_true.mp (List.all_eq_true.mp hbeyond _ h)
  obtain ⟨e, he, rfl⟩ := List.mem_map.mp hc
  obtain ⟨hascii, hself⟩ : ¬e.toLower.toNat < 128 ∧ upperChar e.toLower = [e.toLower] := by
    simpa using hcheck
  have hsame : e.toLower = e := toLower_of_not_ascii fun he => hascii (ascii_toLower_iff.mpr he)
  rw [hsame] at hascii hself
  have hmem : e ∈ id.name :=
    hupper ▸ List.mem_flatMap.mpr ⟨e, he, hself ▸ List.mem_singleton_self e⟩
  exact hascii (ascii_of_mem_name id e hmem)

/-! ### The statement -/

/-- **Reading a name ignores its case, but for stray names.** A text is always read like its upper
case. And it is read like its lower case as well, unless it is one of the stray names, with white
space around it and the letters of ASCII in any case. -/
theorem readAlike_iff_not_stray (t : Text) :
    ReadAlike [t, upper t] ∧
      (ReadAlike [t, lower t, upper t] ↔ (trim t).map Char.toLower ∉ strayNames) := by
  constructor
  · rw [readAlike_cons_iff, List.forall_mem_singleton, trim_upper, upper_upper]
    exact fun _ => Iff.rfl
  · rw [readAlike_cases_iff]
    constructor
    · intro halike hstray
      obtain ⟨id, hlower, hupper⟩ := upper_lower_of_mem_strayNames hstray
      exact hupper ((halike id).mp hlower)
    · intro hstray id
      refine ⟨fun hlower => ?_, upper_lower_eq_name⟩
      by_contra hupper
      exact hstray (mem_strayNames_of_upper_lower hlower hupper)

/-- With a Kelvin sign for the K, a text names no format while its lower case does. -/
theorem kelvin_not_readAlike :
    let t : Text := ['m', kelvinSign, 'v']
    readId t = .error (.unknownName t) ∧ readId (lower t) = .ok .mkv ∧
      readId (upper t) = .error (.unknownName (upper t)) ∧ ¬ReadAlike [t, lower t, upper t] := by
  intro t
  have ht : readId t = .error (.unknownName t) := by decide +kernel
  have hlower : readId (lower t) = .ok .mkv := by decide +kernel
  refine ⟨ht, hlower, by decide +kernel, ?_⟩
  rintro (⟨id, hall⟩ | hall)
  · cases ht.symm.trans (hall t List.mem_cons_self)
  · cases hlower.symm.trans (hall (lower t) (List.mem_cons_of_mem _ List.mem_cons_self))

end Catalog

end MediaCatalog
