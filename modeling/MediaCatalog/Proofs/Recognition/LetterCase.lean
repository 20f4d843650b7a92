import MediaCatalog.Proofs.Recognition
import MediaCatalog.Proofs.Scheme.Grammar

/-!
# Recognition without regard to case

No declared format minds the case of a name: names with the same lower case are recognised alike,
and by the same thing (`MediaCatalog.Catalog.find_eq_of_lower_eq`).

For the formats that go by the extension this is how they are defined, since they look at nothing
but the lower-cased name. The format of network streams looks at the name as it is, and lower-cases
the scheme that it has found there. What is taken for a scheme may hold letters beyond ASCII, and
two of them begin with an ASCII letter in lower case: the Kelvin sign becomes a k, and the dotted
capital I an i with a dot. But no accepted scheme holds a k or an i. The accepted schemes are
**ASCII only**, that is in small letters and made from characters that nothing beyond ASCII becomes
(`MediaCatalog.Scheme.IsAsciiOnly`), and for such schemes three things are the same:

* the scheme of the name is one of them;
* the lower-cased name starts with one of them and the mark
  (`MediaCatalog.Format.findScheme_eq_some_iff_lower`);
* the name starts with one of them, in whatever case of its ASCII letters, and the mark
  (`MediaCatalog.Format.findScheme_eq_some_iff_spelled`).
-/

namespace MediaCatalog

open Text

namespace Scheme

/-- Two texts are the same up to the case of ASCII letters. -/
def SameLetters (p q : Text) : Prop := p.map Char.toLower = q.map Char.toLower

/-- A scheme in small letters that nothing but ASCII becomes in lower case. -/
structure IsAsciiOnly (s : Text) : Prop where
  /-- It is a scheme of the grammar. -/
  grammatical : IsGrammatical s
  /-- It holds no capitals. -/
  small : s.map Char.toLower = s
  /-- Nothing beyond ASCII becomes one of its characters. -/
  madeOfAscii : ∀ d ∈ s, isMadeOfAscii d

instance : DecidablePred IsAsciiOnly := fun s =>
  decidable_of_iff (IsGrammatical s ∧ s.map Char.toLower = s ∧ s.all isMadeOfAscii)
    ⟨fun ⟨hg, hs, hm⟩ => ⟨hg, hs, List.all_eq_true.mp hm⟩,
      fun h => ⟨h.grammatical, h.small, List.all_eq_true.mpr h.madeOfAscii⟩⟩

/-- The mark has one spelling. -/
theorem eq_mark_of_map_toLower {m : Text} (h : m.map Char.toLower = mark) : m = mark := by
  have hsign : (mark.all fun d => !d.isAlpha) = true := by decide
  have hself : m.map Char.toLower = m.map id := List.map_congr_left fun c hc =>
    toLower_eq_self (Bool.not_eq_true' _ |>.mp
      (List.all_eq_true.mp hsign _ (h ▸ List.mem_map_of_mem hc)))
  rw [← h, hself, List.map_id]

end Scheme

namespace Format

open Scheme

/-! ### Streams by their scheme -/

section Streams

variable {accepted : List Text} {name s : Text}

/-- The lower-cased name starts with the scheme that is found in the name. -/
theorem prefix_lower_of_findScheme (h : findScheme accepted name = some s) :
    s ∈ accepted ∧ s ++ mark <+: lower name := by
  obtain ⟨hs, hmem⟩ := Option.filter_eq_some_iff.mp h
  have hfound : ofName (some name) = some s := hs
  obtain ⟨p, r, hname, hp, rfl⟩ := ofName_eq_some_iff_isScheme.mp hfound
  obtain rfl := Option.some.inj hname
  obtain ⟨u, hu⟩ := lower_append_mark hp r
  refine ⟨List.contains_iff_mem.mp hmem, u, ?_⟩
  rw [hu, List.append_assoc, lower_of_not_mem (not_mem_of_isScheme hp (by decide) (by decide))]

/-- A scheme at the start of the lower-cased name is spelled out at the start of the name. -/
theorem exists_spelled_of_prefix_lower (hs : IsAsciiOnly s) (h : s ++ mark <+: lower name) :
    ∃ q r, name = q ++ (mark ++ r) ∧ q.map Char.toLower = s := by
  have hascii : ∀ d ∈ s ++ mark, isMadeOfAscii d := List.forall_mem_append.mpr
    ⟨hs.madeOfAscii, List.all_eq_true.mp (by decide)⟩
  obtain ⟨t, r, rfl, ht⟩ := exists_append_of_prefix_lowerAfter hascii h
  obtain ⟨q, m, rfl, rfl, hm⟩ := List.map_eq_append_iff.mp ht
  obtain rfl := eq_mark_of_map_toLower hm
  exact ⟨q, r, List.append_assoc q mark r, rfl⟩

/-- A scheme is found in whatever case of its letters it is spelled. -/
theorem findScheme_of_spelled (hs : IsAsciiOnly s) (hmem : s ∈ accepted) {q : Text}
    (hq : q.map Char.toLower = s) (r : Text) : findScheme accepted (q ++ (mark ++ r)) = some s := by
  have hgrammar : IsGrammatical q := IsGrammatical.of_map_toLower (hq ▸ hs.grammatical)
  have hfound : ofName (some (q ++ (mark ++ r))) = some s := ofName_eq_some_iff_isScheme.mpr
    ⟨q, r, rfl, isScheme_iff.mpr (Or.inl hgrammar), by rw [hgrammar.lower_eq, hq]⟩
  exact Option.filter_eq_some_iff.mpr ⟨hfound, List.contains_iff_mem.mpr hmem⟩

/-- **A stream is recognised by the spelling of its scheme.** -/
theorem findScheme_eq_some_iff_spelled (haccepted : ∀ s ∈ accepted, IsAsciiOnly s) :
    findScheme accepted name = some s ↔
      s ∈ accepted ∧ ∃ q r, name = q ++ (mark ++ r) ∧ q.map Char.toLower = s := by
  constructor
  · intro h
    obtain ⟨hmem, hstart⟩ := prefix_lower_of_findScheme h
    exact ⟨hmem, exists_spelled_of_prefix_lower (haccepted s hmem) hstart⟩
  · rintro ⟨hmem, q, r, rfl, hq⟩
    exact findScheme_of_spelled (haccepted s hmem) hmem hq r

/-- **A stream is recognised by the start of its lower-cased name.** -/
theorem findScheme_eq_some_iff_lower (haccepted : ∀ s ∈ accepted, IsAsciiOnly s) :
    findScheme accepted name = some s ↔ s ∈ accepted ∧ s ++ mark <+: lower name := by
  constructor
  · exact prefix_lower_of_findScheme
  · rintro ⟨hmem, hstart⟩
    obtain ⟨q, r, rfl, hq⟩ := exists_spelled_of_prefix_lower (haccepted s hmem) hstart
    exact findScheme_of_spelled (haccepted s hmem) hmem hq r

end Streams

/-! ### Formats that do not mind the case -/

/-- Names with the same lower case are recognised by the same thing. -/
def IgnoresCase (f : Format) : Prop :=
  ∀ name name', lower name = lower name' → f.find (some name) = f.find (some name')

theorem ignoresCase_of_extension {f : Format} (hf : f.rule = .extension) : f.IgnoresCase := by
  intro name name' hlower
  rw [find_of_extension hf, find_of_extension hf, findExtension, findExtension, hlower]

theorem ignoresCase_of_scheme {f : Format} {accepted : List Text} (hf : f.rule = .scheme accepted)
    (haccepted : ∀ s ∈ accepted, IsAsciiOnly s) : f.IgnoresCase := by
  intro name name' hlower
  rw [find_of_scheme hf, find_of_scheme hf]
  refine Option.ext fun s => ?_
  rw [findScheme_eq_some_iff_lower haccepted, findScheme_eq_some_iff_lower haccepted, hlower]

end Format

/-! ### The declared formats -/

namespace Catalog

open Scheme

theorem isAsciiOnly_of_mem_streamSchemes : ∀ s ∈ streamSchemes, IsAsciiOnly s := by decide +kernel

/-- **A network stream is a name that starts with one of seven schemes**, in whatever case of its
ASCII letters, and the mark. It is recognised by that scheme. -/
theorem find_web_eq_some_iff (name : Option Text) (p : Text) :
    web.find name = some p ↔
      (∃ q r, name = some (q ++ (mark ++ r)) ∧ SameLetters q p) ∧
        p ∈ ["http".toList, "https".toList, "mms".toList, "rtsp".toList, "rtp".toList,
          "udp".toList, "ftp".toList] := by
  cases name with
  | none =>
    rw [Format.find_none]
    refine iff_of_false (by simp) ?_
    rintro ⟨⟨q, r, hname, -⟩, -⟩
    exact absurd hname (by simp)
  | some name =>
    rw [Format.find_of_scheme (rfl : web.rule = .scheme streamSchemes),
      Format.findScheme_eq_some_iff_spelled isAsciiOnly_of_mem_streamSchemes, and_comm]
    refine and_congr_left fun hmem => exists_congr fun q => exists_congr fun r => ?_
    rw [SameLetters, (isAsciiOnly_of_mem_streamSchemes p hmem).small, Option.some_inj]

theorem ignoresCase_of_mem {f : Format} (hf : f ∈ formats) : f.IgnoresCase := by
  cases hrule : f.rule with
  | extension => exact Format.ignoresCase_of_extension hrule
  | scheme accepted =>
    -- The catalogue has one list of schemes only.
    have hschemes : ∀ f ∈ formats, f.rule = .extension ∨ f.rule = .scheme streamSchemes := by
      decide +kernel
    have haccepted : accepted = streamSchemes := by
      simpa [hrule] using hschemes f hf
    refine Format.ignoresCase_of_scheme hrule ?_
    rw [haccepted]
    exact isAsciiOnly_of_mem_streamSchemes

/-- **Recognition pays no regard to case**: names with the same lower case are recognised by the
same thing, whatever the format. So a name is classified as its lower case is. -/
theorem find_eq_of_lower_eq :
    (∀ f ∈ formats, ∀ name name', lower name = lower name' →
      f.find (some name) = f.find (some name')) ∧
    ∀ name, (∀ f ∈ formats, f.find (some (lower name)) = f.find (some name)) ∧
      classify (some (lower name)) = classify (some name) := by
  have hfind : ∀ name, ∀ f ∈ formats, f.find (some (lower name)) = f.find (some name) :=
    fun name f hf => ignoresCase_of_mem hf _ _ (lower_lower name)
  refine ⟨fun f hf => ignoresCase_of_mem hf, fun name => ⟨hfind name, ?_⟩⟩
  exact List.filterMap_congr fun f hf => by rw [hfind name f hf]

/-- The dotted capital I and a small i with a combining dot have the same lower case. -/
theorem find_eq_of_lower_eq_stream :
    let name := "HTTP://\u0130.MP3".toList
    let name' := "http://i\u0307.mp3".toList
    web ∈ formats ∧ lower name = lower name' ∧ web.find (some name) = some "http".toList ∧
      web.find (some name') = some "http".toList := by
  intro name name'
  have hweb : web ∈ formats := by decide +kernel
  have hlower : lower name = lower name' := by decide +kernel
  have hfound : web.find (some name) = some "http".toList := by decide +kernel
  exact ⟨hweb, hlower, hfound, (find_eq_of_lower_eq.1 web hweb name name' hlower) ▸ hfound⟩

end Catalog

end MediaCatalog
