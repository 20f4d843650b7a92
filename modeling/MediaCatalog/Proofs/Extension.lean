import MediaCatalog.Proofs.Recognition

/-!
# The extension of a name

A format that goes by the extension tries its declared extensions one after the other, and the first
in which the name ends after a dot is what it finds. Extensions may be suffixes of one another, and
the name may hold many dots, so that at first sight the order of the trials matters.

It does not where no declared extension holds a dot. Only the **last part** of the name can be found
then, which is what stands after its last dot (`MediaCatalog.Format.IsLastPart`), and it is found if
it is among the declared extensions in lower case: all the trials come down to one look-up
(`MediaCatalog.Format.find_eq_some_iff_isLastPart`).
-/

namespace MediaCatalog

namespace Format

open Text

/-- The last part of a name: the name has a dot, this stands after it, and there is no dot in it. -/
def IsLastPart (e name : Text) : Prop := ∃ stem, name = stem ++ '.' :: e ∧ '.' ∉ e

/-- A name has one last part at most. -/
theorem IsLastPart.unique {d e name : Text} (hd : IsLastPart d name) (he : IsLastPart e name) :
    d = e := by
  obtain ⟨stem, hname, hdot⟩ := hd
  obtain ⟨stem', hname', hdot'⟩ := he
  exact eq_of_dot_suffix hdot hdot' ⟨stem, hname.symm⟩ ⟨stem', hname'.symm⟩

section LookUp

variable {f : Format}

/-- What is found by the extension is the last part of the name. -/
theorem isLastPart_of_find (hrule : f.rule = .extension) (hdotless : ∀ d ∈ f.extensions, '.' ∉ d)
    {name e : Text} (h : f.find (some name) = some e) :
    Scheme.ofText (lower name) = none ∧ IsLastPart e (lower name) ∧
      ∃ d ∈ f.extensions, e = lower d := by
  rw [find_of_extension hrule] at h
  obtain ⟨hscheme, hmem, stem, hname⟩ := findExtension_eq_some h
  obtain ⟨d, hd, rfl⟩ := List.mem_map.mp hmem
  -- Lower case makes no dots, so that what is declared without a dot is looked for without one.
  have hdot : '.' ∉ lower d := by
    rw [mem_lower_iff (by decide) (by decide)]
    exact hdotless d hd
  have hnone : Scheme.ofText (lower name) = none :=
    Option.not_isSome_iff_eq_none.mp (Bool.eq_false_iff.mp hscheme)
  exact ⟨hnone, ⟨stem, hname.symm, hdot⟩, d, hd, rfl⟩

/-- The last part of a name is found if it is declared. -/
theorem find_of_isLastPart (hrule : f.rule = .extension) (hdotless : ∀ d ∈ f.extensions, '.' ∉ d)
    {name d : Text} (hscheme : Scheme.ofText (lower name) = none)
    (hlast : IsLastPart (lower d) (lower name)) (hd : d ∈ f.extensions) :
    f.find (some name) = some (lower d) := by
  cases hfind : f.find (some name) with
  | none =>
    rw [find_of_extension hrule, findExtension_eq_none_iff, hscheme] at hfind
    rcases hfind with hsome | hnone
    · exact absurd hsome Bool.false_ne_true
    · obtain ⟨stem, hname, -⟩ := hlast
      exact absurd ⟨stem, hname.symm⟩ (hnone d hd)
  | some e =>
    obtain ⟨-, hlast', -⟩ := isLastPart_of_find hrule hdotless hfind
    exact congrArg some (hlast'.unique hlast)

theorem find_eq_some_iff (hrule : f.rule = .extension) (hdotless : ∀ d ∈ f.extensions, '.' ∉ d)
    {name e : Text} : f.find (some name) = some e ↔
      Scheme.ofText (lower name) = none ∧ IsLastPart e (lower name) ∧
        ∃ d ∈ f.extensions, e = lower d := by
  constructor
  · exact isLastPart_of_find hrule hdotless
  · rintro ⟨hscheme, hlast, d, hd, rfl⟩
    exact find_of_isLastPart hrule hdotless hscheme hlast hd

/-- **Going by the extension is one look-up.** Where no declared extension holds a dot, what is
found in a name is its last part, in lower case, provided that the name has no scheme in lower case
and that this is the lower case of a declared extension. Neither the order of the declared
extensions nor their repetition has a part in that. -/
theorem find_eq_some_iff_isLastPart (hrule : f.rule = .extension)
    (hdotless : ∀ d ∈ f.extensions, '.' ∉ d) (name : Text) :
    (∀ e, f.find (some name) = some e ↔
      Scheme.ofText (lower name) = none ∧ IsLastPart e (lower name) ∧
        ∃ d ∈ f.extensions, e = lower d) ∧
    ∀ g : Format, g.rule = .extension → (∀ d, d ∈ g.extensions ↔ d ∈ f.extensions) →
      g.find (some name) = f.find (some name) := by
  refine ⟨fun e => find_eq_some_iff hrule hdotless, fun g hgrule hsame => ?_⟩
  have hgdotless : ∀ d ∈ g.extensions, '.' ∉ d := fun d hd => hdotless d ((hsame d).mp hd)
  refine Option.ext fun e => ?_
  rw [find_eq_some_iff hgrule hgdotless, find_eq_some_iff hrule hdotless]
  simp only [hsame]

end LookUp

/-- A format with extensions of which one is the end of another. -/
def drawing : Format where
  name := "Drawing".toList
  id := .custom
  extensions := ["D".toList, "3D".toList, "".toList]

/-- The same extensions in another order, one of them twice, and a name with three dots. -/
theorem find_eq_some_iff_isLastPart_drawing :
    let name := ".A.D.3d".toList
    let again := { drawing with extensions := ["".toList, "3D".toList, "D".toList, "3D".toList] }
    drawing.rule = .extension ∧ (∀ d ∈ drawing.extensions, '.' ∉ d) ∧
      drawing.find (some name) = some "3d".toList ∧ again.find (some name) = some "3d".toList := by
  intro name again
  have hdotless : ∀ d ∈ drawing.extensions, '.' ∉ d := by decide
  obtain ⟨hfound, hsame⟩ := find_eq_some_iff_isLastPart (f := drawing) rfl hdotless name
  have h3d : drawing.find (some name) = some "3d".toList := by
    refine (hfound _).mpr ⟨by decide +kernel, ?_, "3D".toList, by decide, by decide +kernel⟩
    exact ⟨".a.d".toList, by decide +kernel, by decide⟩
  have hdeclared : ∀ d ∈ again.extensions, d ∈ drawing.extensions := by decide
  have hagain : ∀ d ∈ drawing.extensions, d ∈ again.extensions := by decide
  exact ⟨rfl, hdotless, h3d, (hsame again rfl fun d => ⟨hdeclared d, hagain d⟩).trans h3d⟩

end Format

end MediaCatalog
