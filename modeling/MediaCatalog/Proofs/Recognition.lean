import MediaCatalog.Catalog
import MediaCatalog.Probe
import MediaCatalog.Proofs.Scheme
import Mathlib.Data.List.Pairwise

/-!
# Which format recognises a resource

A resource is the business of one format: of the declared formats, **at most one recognises it**,
whatever its name. Within the formats that go by the extension this is a fact about dots – the
text after the last dot of a name is unique, and no declared extension holds a dot – and between
those and the format of network streams it is a fact about schemes: a name that starts with one of
the accepted schemes still has a scheme in lower case, and a name with a scheme has no extension.

The second half is not true of every scheme. A scheme with a dotted capital I is lost in lower
case, so that a format that goes by the extension takes the resource for a file
(`MediaCatalog.Scheme.FadesInLowerCase`). That is the only way in which a URI is matched by its
extension, and no accepted scheme of network streams holds such a letter.
-/

namespace MediaCatalog

open Text

/-! ### Schemes that lower case loses -/

namespace Scheme

/-- A name whose scheme lower case loses: a dotted capital I stands before its mark. -/
def FadesInLowerCase (name : Text) : Prop := ∃ p, beforeMark name = some p ∧ dottedCapitalI ∈ p

theorem isSome_ofText_lower_iff_not_fades {name : Text} (h : (ofText name).isSome) :
    (ofText (lower name)).isSome ↔ ¬FadesInLowerCase name := by
  obtain ⟨p, hmark, hp⟩ := isSome_ofText_iff.mp h
  rw [isSome_ofText_lower_iff hmark hp]
  constructor
  · rintro hI ⟨q, hq, hqI⟩
    obtain rfl := Option.some.inj (hmark.symm.trans hq)
    exact hI hqI
  · exact fun hfade hI => hfade ⟨p, hmark, hI⟩

/-- The dotted capital I of a scheme that is lost leaves a combining dot in the lower-cased
scheme. -/
theorem combiningDot_mem_of_fades {name s : Text} (hs : ofText name = some s)
    (hfade : FadesInLowerCase name) : combiningDot ∈ s := by
  obtain ⟨p, hmark, hI⟩ := hfade
  obtain ⟨q, hq, hscheme⟩ := isSome_ofText_iff.mp (hs ▸ rfl : (ofText name).isSome)
  obtain rfl := Option.some.inj (hmark.symm.trans hq)
  have hlow : lower p = s := by simpa [ofText, hmark, hscheme] using hs
  have hsigma : capitalSigma ∉ p := not_mem_of_isScheme hscheme (by decide) (by decide)
  rw [← hlow, lower_of_not_mem hsigma]
  exact List.mem_flatMap.mpr ⟨_, hI, combiningDot_mem_lowerChar⟩

end Scheme

namespace Format

/-! ### Recognition by the extension -/

/-- A file name ends in an extension after a dot, whatever the case of either. -/
def EndsIn (name extension : Text) : Prop := '.' :: lower extension <:+ lower name

theorem findExtension_eq_some {extensions : List Text} {name e : Text}
    (h : findExtension extensions name = some e) :
    (Scheme.ofText (lower name)).isSome = false ∧ e ∈ extensions.map lower ∧
      '.' :: e <:+ lower name := by
  rw [findExtension] at h
  split at h
  · exact absurd h (by simp)
  · next hscheme =>
    exact ⟨Bool.eq_false_iff.mpr hscheme, List.mem_of_find?_eq_some h,
      List.isSuffixOf_iff_suffix.mp (List.find?_some (p := fun e => ('.' :: e).isSuffixOf _) h)⟩

theorem findExtension_eq_none_iff {extensions : List Text} {name : Text} :
    findExtension extensions name = none ↔
      (Scheme.ofText (lower name)).isSome ∨ ∀ e ∈ extensions, ¬EndsIn name e := by
  rw [findExtension]
  split
  · next hscheme => simp [hscheme]
  · next hscheme =>
    simp only [List.find?_eq_none, List.mem_map, List.isSuffixOf_iff_suffix, hscheme,
      Bool.false_eq_true, false_or, forall_exists_index, and_imp, forall_apply_eq_imp_iff₂, EndsIn]

/-- **The text after the last dot is unique**: two dotless extensions in which the same name ends
are the same. -/
theorem eq_of_dot_suffix {d e t : Text} (hd : '.' ∉ d) (he : '.' ∉ e) (hdt : '.' :: d <:+ t)
    (het : '.' :: e <:+ t) : d = e := by
  have key : ∀ {u v : Text}, '.' ∉ v → '.' :: u <:+ '.' :: v → u = v := by
    intro u v hv huv
    rcases List.suffix_cons_iff.mp huv with heq | hsuf
    · exact (List.cons.inj heq).2
    · exact absurd (hsuf.subset List.mem_cons_self) hv
  rcases List.suffix_or_suffix_of_suffix hdt het with h | h
  · exact key he h
  · exact (key hd h).symm

/-! ### Formats that exclude each other -/

theorem find_none (f : Format) : f.find none = none := by
  rw [find]
  cases f.rule <;> rfl

theorem find_of_extension {f : Format} (hf : f.rule = .extension) (name : Text) :
    f.find (some name) = findExtension f.extensions name := by
  rw [find, hf]
  rfl

theorem find_of_scheme {f : Format} {accepted : List Text} (hf : f.rule = .scheme accepted)
    (name : Text) : f.find (some name) = findScheme accepted name := by
  rw [find, hf]
  rfl

/-- No resource is recognised by both of two formats. -/
def Excludes (f g : Format) : Prop := ∀ name, f.find name = none ∨ g.find name = none

theorem Excludes.symm {f g : Format} (h : f.Excludes g) : g.Excludes f := fun name => (h name).symm

/-- A resource without a name is recognised by no format, so that names are what counts. -/
theorem excludes_of_forall {f g : Format}
    (h : ∀ name d, f.find (some name) = some d → g.find (some name) = none) : f.Excludes g := by
  rintro (_ | name)
  · exact Or.inl f.find_none
  · cases hfind : f.find (some name) with
    | none => exact Or.inl rfl
    | some d => exact Or.inr (h name d hfind)

instance : Std.Symm Excludes := ⟨fun _ _ => Excludes.symm⟩

/-- Whether no extension of a format holds a dot. -/
def isDotless (f : Format) : Bool := (f.extensions.map lower).all fun e => !e.contains '.'

/-- Whether what one format goes by is clear of what another goes by: two lists of extensions
without a dot and without a common entry, two lists of schemes without a common entry, or schemes
that lower case does not lose. -/
def isApart (f g : Format) : Bool :=
  match f.rule, g.rule with
  | .extension, .extension => f.isDotless && g.isDotless &&
      (f.extensions.map lower).all fun e => !(g.extensions.map lower).contains e
  | .extension, .scheme accepted => accepted.all fun s => !s.contains Scheme.combiningDot
  | .scheme accepted, .extension => accepted.all fun s => !s.contains Scheme.combiningDot
  | .scheme accepted, .scheme others => accepted.all fun s => !others.contains s

/-- A name that one of the accepted schemes starts has no extension. -/
theorem findExtension_eq_none_of_findScheme {accepted extensions : List Text} {name s : Text}
    (hacc : ∀ a ∈ accepted, Scheme.combiningDot ∉ a) (h : findScheme accepted name = some s) :
    findExtension extensions name = none := by
  obtain ⟨hs, hmem⟩ := Option.filter_eq_some_iff.mp h
  refine findExtension_eq_none_iff.mpr (Or.inl ?_)
  rw [Scheme.isSome_ofText_lower_iff_not_fades (hs ▸ rfl)]
  intro hfade
  exact hacc s (List.contains_iff_mem.mp hmem) (Scheme.combiningDot_mem_of_fades hs hfade)

theorem excludes_of_scheme_of_extension {f g : Format} {accepted : List Text}
    (hf : f.rule = .scheme accepted) (hg : g.rule = .extension)
    (hacc : ∀ a ∈ accepted, Scheme.combiningDot ∉ a) : f.Excludes g := by
  refine excludes_of_forall fun name s hs => ?_
  rw [find_of_scheme hf] at hs
  rw [find_of_extension hg]
  exact findExtension_eq_none_of_findScheme hacc hs

theorem excludes_of_extensions {f g : Format} (hf : f.rule = .extension)
    (hg : g.rule = .extension) (hfdot : f.isDotless) (hgdot : g.isDotless)
    (hdis : ∀ e ∈ f.extensions.map lower, e ∉ g.extensions.map lower) : f.Excludes g := by
  have hnodot : ∀ {h : Format}, h.isDotless → ∀ e ∈ h.extensions.map lower, '.' ∉ e :=
    fun hh e he => by simpa using List.all_eq_true.mp hh e he
  refine excludes_of_forall fun name d hd => ?_
  rw [find_of_extension hf] at hd
  rw [find_of_extension hg, Option.eq_none_iff_forall_ne_some]
  intro e he
  obtain ⟨-, hdmem, hdsuf⟩ := findExtension_eq_some hd
  obtain ⟨-, hemem, hesuf⟩ := findExtension_eq_some he
  have heq : d = e := eq_of_dot_suffix (hnodot hfdot d hdmem) (hnodot hgdot e hemem) hdsuf hesuf
  exact hdis d hdmem (heq ▸ hemem)

theorem excludes_of_schemes {f g : Format} {accepted others : List Text}
    (hf : f.rule = .scheme accepted) (hg : g.rule = .scheme others)
    (hdis : ∀ s ∈ accepted, s ∉ others) : f.Excludes g := by
  refine excludes_of_forall fun name s hs => ?_
  rw [find_of_scheme hf] at hs
  rw [find_of_scheme hg, Option.eq_none_iff_forall_ne_some]
  intro t ht
  obtain ⟨hname, hsmem⟩ := Option.filter_eq_some_iff.mp hs
  obtain ⟨hname', htmem⟩ := Option.filter_eq_some_iff.mp ht
  -- Both found the scheme of the name, which is one and the same.
  obtain rfl := Option.some.inj (hname.symm.trans hname')
  exact hdis s (List.contains_iff_mem.mp hsmem) (List.contains_iff_mem.mp htmem)

/-- **Formats that are apart exclude each other.** -/
theorem excludes_of_isApart {f g : Format} (h : f.isApart g) : f.Excludes g := by
  rw [isApart] at h
  split at h
  · next hf hg =>
    obtain ⟨hdot, hdis⟩ := Bool.and_eq_true_iff.mp h
    obtain ⟨hfdot, hgdot⟩ := Bool.and_eq_true_iff.mp hdot
    exact excludes_of_extensions hf hg hfdot hgdot fun e he => by
      simpa only [Bool.not_eq_true', List.contains_eq_mem, decide_eq_false_iff_not] using
        List.all_eq_true.mp hdis e he
  · next hf hg =>
    exact (excludes_of_scheme_of_extension hg hf (by simpa using h)).symm
  · next hf hg =>
    exact excludes_of_scheme_of_extension hf hg (by simpa using h)
  · next hf hg =>
    exact excludes_of_schemes hf hg (by simpa using h)

end Format

/-! ### The declared formats -/

namespace Catalog

theorem formats_pairwise_excludes : formats.Pairwise Format.Excludes := by
  have hapart : formats.Pairwise fun f g => f.isApart g := by decide +kernel
  exact hapart.imp Format.excludes_of_isApart

/-- Of tests that exclude each other on a list, at most one member passes. -/
theorem length_filter_le_one {α : Type} {p : α → Bool} {l : List α}
    (h : l.Pairwise fun a b => p a = false ∨ p b = false) : (l.filter p).length ≤ 1 := by
  induction l with
  | nil => exact Nat.zero_le 1
  | cons a l ih =>
    obtain ⟨hhead, htail⟩ := List.pairwise_cons.mp h
    cases hp : p a with
    | false =>
      rw [List.filter_cons_of_neg (by simp [hp])]
      exact ih htail
    | true =>
      have hnil : l.filter p = [] := List.filter_eq_nil_iff.mpr fun b hb => by
        simpa [hp] using hhead b hb
      rw [List.filter_cons_of_pos hp, hnil]
      exact Nat.le_refl 1

/-- **At most one of the declared formats recognises a resource**, and in particular no resource is
recognised both by the format of network streams and by a format that goes by the extension. -/
theorem recognised_by_at_most_one (name : Option Text) :
    (formats.filter fun f => (f.find name).isSome).length ≤ 1 ∧
      ∀ f ∈ formats, f ≠ web → f.find name = none ∨ web.find name = none := by
  refine ⟨length_filter_le_one (formats_pairwise_excludes.imp fun h => ?_), fun f hf hne => ?_⟩
  · simpa using h name
  · exact formats_pairwise_excludes.forall hf (by decide +kernel) hne name

/-- A stream whose path ends in an extension is a stream only. -/
theorem recognised_by_at_most_one_stream :
    let name := some "http://host/a.mp3".toList
    (mp3 ∈ formats ∧ mp3 ≠ web) ∧ (web.find name).isSome ∧
      (formats.filter fun f => (f.find name).isSome).length ≤ 1 ∧
      (mp3.find name = none ∨ web.find name = none) := by
  intro name
  have hmem : mp3 ∈ formats := List.mem_cons_self
  have hne : mp3 ≠ web := by decide +kernel
  obtain ⟨hlength, hexcl⟩ := recognised_by_at_most_one name
  exact ⟨⟨hmem, hne⟩, by decide +kernel, hlength, hexcl mp3 hmem hne⟩

end Catalog

/-! ### URIs and extensions -/

namespace Probe

theorem test_eq_iff {p : Probe} {name : Option Text} :
    p.test name = (false, p) ↔ p.find name = none := by
  rw [test]
  cases p.find name with
  | none => simp
  | some e => simp

/-- **A URI is taken for a file in one case only**: lower case loses its scheme, and it ends in a
declared extension. In every other case a probe that goes by the extension finds nothing, does not
match and stays as it is, whatever its state. -/
theorem ignores_uri_iff {p : Probe} {name : Text} (hrule : p.format.rule = .extension)
    (huri : (Scheme.ofText name).isSome) :
    p.find (some name) = none ∧ p.test (some name) = (false, p) ↔
      ¬(Scheme.FadesInLowerCase name ∧ ∃ e ∈ p.format.extensions, Format.EndsIn name e) := by
  have hfind : p.find (some name) = Format.findExtension p.format.extensions name :=
    Format.find_of_extension hrule name
  rw [test_eq_iff, and_self, hfind, Format.findExtension_eq_none_iff,
    Scheme.isSome_ofText_lower_iff_not_fades huri, not_and_or]
  simp

theorem ignores_uri_capital_scheme :
    let p := (ofFormat Catalog.mp3).remember (some "mpa".toList)
    let name := "HTTP://host/a.mp3".toList
    p.format.rule = .extension ∧ (Scheme.ofText name).isSome ∧
      p.find (some name) = none ∧ p.test (some name) = (false, p) := by
  refine ⟨rfl, by decide +kernel, (ignores_uri_iff rfl (by decide +kernel)).mpr ?_⟩
  rintro ⟨⟨q, hq, hI⟩, -⟩
  obtain rfl := Option.some.inj ((by decide +kernel :
    Scheme.beforeMark "HTTP://host/a.mp3".toList = some "HTTP".toList).symm.trans hq)
  exact absurd hI (by decide +kernel)

/-- The case that remains: a URI whose scheme is a dotted capital I is matched by its extension. -/
theorem uri_taken_for_file :
    let p := ofFormat Catalog.mp3
    let name := "\u0130://a.mp3".toList
    (Scheme.ofText name).isSome ∧ p.find (some name) = some "mp3".toList ∧
      p.test (some name) = (true, p.remember (some "mp3".toList)) := by
  decide +kernel

end Probe

end MediaCatalog
