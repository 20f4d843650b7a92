import MediaCatalog.Proofs.Scheme
import Mathlib.Data.List.Basic
import Mathlib.Tactic.Tauto

/-!
# The grammar of schemes

A URI begins with a scheme: an ASCII letter, any number of ASCII letters, digits, `+`, `-` and `.`
after it, and then the mark `://`. This file compares what the library takes for a scheme with that
grammar.

Whatever the grammar has is taken, and its scheme is the one that the grammar gives, in lower case.
Two things more are taken. The search for letters pays no regard to case, and four letters beyond
ASCII are a case of an ASCII letter; and the search for the end of the scheme lets one line feed
stand before it. Such a **loose** scheme (`MediaCatalog.Scheme.IsLoose`) is never one of the
grammar, so that the library agrees with the grammar on exactly the names that have none
(`MediaCatalog.Scheme.ofName_eq_some_iff`).
-/

namespace MediaCatalog

namespace Scheme

open Text

/-! ### The two grammars -/

/-- A text that is made from letters of a kind as a scheme is: one letter, and after it any number
of letters, digits, `+`, `-` and `.`. -/
def IsMadeOf (letter : Char → Prop) (p : Text) : Prop :=
  ∃ c q, p = c :: q ∧ letter c ∧ ∀ d ∈ q, letter d ∨ d.isDigit ∨ d ∈ ['+', '-', '.']

/-- A scheme of the grammar, which knows the ASCII letters only. -/
def IsGrammatical (p : Text) : Prop := IsMadeOf (fun c => c.isAlpha) p

/-- What is no part of a scheme of the grammar and is let pass nevertheless: a letter beyond ASCII
that is a case of an ASCII letter, or a line feed. -/
def IsStray (c : Char) : Prop := c ∈ foreignLetters ∨ c = '\n'

/-- A text that is taken for a scheme, but is none of the grammar: it holds one of four letters
beyond ASCII, or ends in a line feed. -/
def IsLoose (p : Text) : Prop :=
  (∃ q e, p = q ++ e ∧ IsMadeOf (fun c => c.isAlpha ∨ c ∈ foreignLetters) q ∧
    (e = [] ∨ e = ['\n'])) ∧ ∃ c ∈ p, IsStray c

/-- A resource has a scheme by the grammar: its name begins with the scheme, in whatever case, and
the first mark. -/
def Spells (name : Option Text) (s : Text) : Prop :=
  ∃ p r, name = some (p ++ (mark ++ r)) ∧ ¬mark <:+: p ∧ IsGrammatical p ∧ s = p.map Char.toLower

/-- A resource has a loose scheme: its name begins with the scheme, in whatever case, and the first
mark. -/
def SpellsLoosely (name : Option Text) (s : Text) : Prop :=
  ∃ p r, name = some (p ++ (mark ++ r)) ∧ ¬mark <:+: p ∧ IsLoose p ∧ s = lower p

/-! ### Texts made from letters -/

section MadeOf

variable {letter letter' : Char → Prop} {p : Text}

theorem IsMadeOf.imp_of_mem (h : IsMadeOf letter p) (himp : ∀ c ∈ p, letter c → letter' c) :
    IsMadeOf letter' p := by
  obtain ⟨c, q, rfl, hc, hq⟩ := h
  refine ⟨c, q, rfl, himp c List.mem_cons_self hc, fun d hd => ?_⟩
  rcases hq d hd with hletter | hother
  · exact Or.inl (himp d (List.mem_cons_of_mem _ hd) hletter)
  · exact Or.inr hother

/-- A map that takes only letters to letters, and leaves alone what it takes to anything else, makes
no text into one that is made from letters. -/
theorem IsMadeOf.of_map {g : Char → Char} (h : IsMadeOf letter (p.map g))
    (hletter : ∀ c ∈ p, letter (g c) → letter c) (hother : ∀ c ∈ p, ¬letter (g c) → g c = c) :
    IsMadeOf letter p := by
  obtain ⟨d, q, heq, hd, hq⟩ := h
  obtain ⟨c, t, rfl, rfl, rfl⟩ := List.map_eq_cons_iff.mp heq
  refine ⟨c, t, rfl, hletter c List.mem_cons_self hd, fun d hd => ?_⟩
  by_cases hl : letter (g d)
  · exact Or.inl (hletter d (List.mem_cons_of_mem _ hd) hl)
  · rw [← hother d (List.mem_cons_of_mem _ hd) hl]
    exact hq _ (List.mem_map_of_mem hd)

theorem IsMadeOf.cases_of_mem (h : IsMadeOf letter p) {c : Char} (hc : c ∈ p) :
    letter c ∨ c.isDigit ∨ c ∈ ['+', '-', '.'] := by
  obtain ⟨d, q, rfl, hd, hq⟩ := h
  rcases List.mem_cons.mp hc with rfl | hmem
  · exact Or.inl hd
  · exact hq c hmem

end MadeOf

instance {letter : Char → Prop} [DecidablePred letter] : DecidablePred (IsMadeOf letter)
  | [] => isFalse fun ⟨_, _, h, _⟩ => List.cons_ne_nil _ _ h.symm
  | c :: q =>
    decidable_of_iff (letter c ∧ q.all fun d => letter d ∨ d.isDigit ∨ d ∈ ['+', '-', '.'])
      ⟨fun ⟨hc, hq⟩ => ⟨c, q, rfl, hc, fun d hd => of_decide_eq_true (List.all_eq_true.mp hq d hd)⟩,
        fun ⟨_, _, h, hc, hq⟩ => by
          obtain ⟨rfl, rfl⟩ := List.cons.inj h
          exact ⟨hc, List.all_eq_true.mpr fun d hd => decide_eq_true (hq d hd)⟩⟩

instance : DecidablePred IsGrammatical :=
  fun p => inferInstanceAs (Decidable (IsMadeOf (fun c => c.isAlpha) p))

/-- A scheme of the grammar holds nothing stray. -/
theorem IsGrammatical.not_isStray {p : Text} (h : IsGrammatical p) {c : Char} (hc : c ∈ p) :
    ¬IsStray c := by
  have hcases := h.cases_of_mem hc
  rintro (hforeign | rfl)
  · simp only [foreignLetters, List.mem_cons, List.not_mem_nil, or_false] at hforeign
    rcases hforeign with rfl | rfl | rfl | rfl <;> exact absurd hcases (by decide)
  · exact absurd hcases (by decide)

theorem IsGrammatical.ascii {p : Text} (h : IsGrammatical p) {c : Char} (hc : c ∈ p) :
    c.toNat < 128 := by
  rcases h.cases_of_mem hc with halpha | hdigit | hother
  · exact ascii_of_isAlpha halpha
  · exact ascii_of_isDigit hdigit
  · simp only [List.mem_cons, List.not_mem_nil, or_false] at hother
    rcases hother with rfl | rfl | rfl <;> decide

/-- The lower case of a scheme of the grammar is that of its ASCII letters. -/
theorem IsGrammatical.lower_eq {p : Text} (h : IsGrammatical p) : lower p = p.map Char.toLower :=
  lower_of_ascii fun _ => h.ascii

/-- The grammar pays no regard to the case of ASCII letters. -/
theorem IsGrammatical.of_map_toLower {p : Text} (h : IsGrammatical (p.map Char.toLower)) :
    IsGrammatical p :=
  IsMadeOf.of_map h (fun c _ hletter => (isAlpha_toLower c).symm.trans hletter)
    fun _ _ hother => toLower_eq_self (Bool.eq_false_iff.mpr hother)

/-! ### What is taken for a scheme -/

theorem isLetter_iff {c : Char} : isLetter c ↔ c.isAlpha ∨ c ∈ foreignLetters := by
  rw [isLetter, Bool.or_eq_true, List.contains_iff_mem]

theorem isMember_iff {c : Char} :
    isMember c ↔ (c.isAlpha ∨ c ∈ foreignLetters) ∨ c.isDigit ∨ c ∈ ['+', '-', '.'] := by
  simp only [isMember, Bool.or_eq_true, isLetter_iff, beq_iff_eq, List.mem_cons, List.not_mem_nil,
    or_false]
  tauto

theorem isTail_iff {t : Text} :
    isTail t ↔ ∃ q e, t = q ++ e ∧ (∀ d ∈ q, isMember d) ∧ (e = [] ∨ e = ['\n']) := by
  constructor
  · intro h
    fun_induction isTail t with
    | case1 => exact ⟨[], [], rfl, by simp, Or.inl rfl⟩
    | case2 => exact ⟨[], ['\n'], rfl, by simp, Or.inr rfl⟩
    | case3 c t _ ih =>
      obtain ⟨hc, ht⟩ := Bool.and_eq_true_iff.mp h
      obtain ⟨q, e, rfl, hq, he⟩ := ih ht
      exact ⟨c :: q, e, rfl, List.forall_mem_cons.mpr ⟨hc, hq⟩, he⟩
  · rintro ⟨q, e, rfl, hq, he⟩
    induction q with
    | nil => rcases he with rfl | rfl <;> rfl
    | cons c q ih =>
      obtain ⟨hc, hq⟩ := List.forall_mem_cons.mp hq
      exact isTail_cons hc (ih hq)

/-- **What is taken for a scheme** is made from the ASCII letters and four others, with a line feed
at the end or without. -/
theorem isScheme_iff_madeOf {p : Text} :
    isScheme p ↔ ∃ q e, p = q ++ e ∧ IsMadeOf (fun c => c.isAlpha ∨ c ∈ foreignLetters) q ∧
      (e = [] ∨ e = ['\n']) := by
  constructor
  · intro h
    cases p with
    | nil => exact absurd h (by decide)
    | cons c t =>
      obtain ⟨hc, ht⟩ := Bool.and_eq_true_iff.mp h
      obtain ⟨q, e, rfl, hq, he⟩ := isTail_iff.mp ht
      exact ⟨c :: q, e, rfl, ⟨c, q, rfl, isLetter_iff.mp hc, fun d hd => isMember_iff.mp (hq d hd)⟩,
        he⟩
  · rintro ⟨-, e, rfl, ⟨c, q, rfl, hc, hq⟩, he⟩
    have ht : isTail (q ++ e) :=
      isTail_iff.mpr ⟨q, e, rfl, fun d hd => isMember_iff.mpr (hq d hd), he⟩
    exact Bool.and_eq_true_iff.mpr ⟨isLetter_iff.mpr hc, ht⟩

theorem isScheme_iff {p : Text} : isScheme p ↔ IsGrammatical p ∨ IsLoose p := by
  rw [isScheme_iff_madeOf]
  constructor
  · rintro ⟨q, e, rfl, hq, he⟩
    by_cases hstray : ∃ c ∈ q ++ e, IsStray c
    · exact Or.inr ⟨⟨q, e, rfl, hq, he⟩, hstray⟩
    · rw [not_exists] at hstray
      -- Nothing is stray, so that there is no line feed and every letter is an ASCII letter.
      rcases he with rfl | rfl
      · rw [List.append_nil] at hstray ⊢
        refine Or.inl (hq.imp_of_mem fun c hc hletter => ?_)
        exact hletter.resolve_right fun hforeign => hstray c ⟨hc, Or.inl hforeign⟩
      · exact absurd ⟨List.mem_append_right _ List.mem_cons_self, Or.inr rfl⟩ (hstray '\n')
  · rintro (hgrammar | ⟨hmade, -⟩)
    · exact ⟨p, [], (List.append_nil p).symm, hgrammar.imp_of_mem fun _ _ => Or.inl, Or.inl rfl⟩
    · exact hmade

/-! ### The scheme of a name -/

/-- A scheme does not hold the mark, so that the mark after it is the first. -/
theorem not_mark_infix_of_isScheme {p : Text} (hp : isScheme p) : ¬mark <:+: p := by
  intro hmark
  have hcolon : ':' ∈ p := hmark.subset List.mem_cons_self
  exact not_mem_of_isScheme hp (by decide) (by decide) hcolon

theorem beforeMark_of_isScheme {p : Text} (hp : isScheme p) (r : Text) :
    beforeMark (p ++ (mark ++ r)) = some p :=
  beforeMark_append (not_mem_of_isScheme hp (by decide) (by decide)) r

theorem ofName_eq_some_iff_isScheme {name : Option Text} {s : Text} :
    ofName name = some s ↔ ∃ p r, name = some (p ++ (mark ++ r)) ∧ isScheme p ∧ s = lower p := by
  constructor
  · intro h
    obtain ⟨t, rfl, ht⟩ := Option.bind_eq_some_iff.mp h
    obtain ⟨p, hmark, hp⟩ := isSome_ofText_iff.mp (ht ▸ rfl : (ofText t).isSome)
    obtain ⟨r, rfl⟩ := eq_append_of_beforeMark hmark
    rw [ofText, hmark] at ht
    simp only [hp, if_true] at ht
    exact ⟨p, r, rfl, hp, (Option.some.inj ht).symm⟩
  · rintro ⟨p, r, rfl, hp, rfl⟩
    rw [ofName, Option.bind_some, ofText, beforeMark_of_isScheme hp]
    simp only [hp, if_true]

/-- A name with something stray before its first mark has no scheme by the grammar. -/
theorem not_spells_of_isStray {t p : Text} (hmark : beforeMark t = some p) {c : Char} (hc : c ∈ p)
    (hstray : IsStray c) (s : Text) : ¬Spells (some t) s := by
  rintro ⟨q, r, hname, -, hgrammar, -⟩
  obtain rfl := Option.some.inj hname
  rw [beforeMark_of_isScheme (isScheme_iff.mpr (Or.inl hgrammar))] at hmark
  obtain rfl := Option.some.inj hmark
  exact hgrammar.not_isStray hc hstray

/-- A name with a loose scheme has no scheme by the grammar. -/
theorem SpellsLoosely.not_spells {name : Option Text} {s : Text} (h : SpellsLoosely name s)
    (s' : Text) : ¬Spells name s' := by
  obtain ⟨p, r, rfl, -, hloose, -⟩ := h
  have hmark := beforeMark_of_isScheme (isScheme_iff.mpr (Or.inr hloose)) r
  obtain ⟨-, c, hc, hstray⟩ := hloose
  exact not_spells_of_isStray hmark hc hstray s'

/-- **The scheme of a resource.** What is found is the scheme by the grammar or a loose one. So the
grammar says of a name what is found in it, and finds nothing where nothing is found, exactly if the
name has no loose scheme. -/
theorem ofName_eq_some_iff (name : Option Text) :
    (∀ s, ofName name = some s ↔ Spells name s ∨ SpellsLoosely name s) ∧
    ((∀ s, ofName name = some s ↔ Spells name s) ↔ ∀ s, ¬SpellsLoosely name s) := by
  have hfound : ∀ s, ofName name = some s ↔ Spells name s ∨ SpellsLoosely name s := by
    intro s
    rw [ofName_eq_some_iff_isScheme]
    constructor
    · rintro ⟨p, r, hname, hp, rfl⟩
      have hfirst := not_mark_infix_of_isScheme hp
      rcases isScheme_iff.mp hp with hgrammar | hloose
      · exact Or.inl ⟨p, r, hname, hfirst, hgrammar, hgrammar.lower_eq⟩
      · exact Or.inr ⟨p, r, hname, hfirst, hloose, rfl⟩
    · rintro (⟨p, r, hname, -, hgrammar, rfl⟩ | ⟨p, r, hname, -, hloose, rfl⟩)
      · exact ⟨p, r, hname, isScheme_iff.mpr (Or.inl hgrammar), hgrammar.lower_eq.symm⟩
      · exact ⟨p, r, hname, isScheme_iff.mpr (Or.inr hloose), rfl⟩
  refine ⟨hfound, fun hagree s hloose => ?_, fun hnone s => ?_⟩
  · exact hloose.not_spells s ((hagree s).mp ((hfound s).mpr (Or.inr hloose)))
  · rw [hfound s]
    exact or_iff_left (hnone s)

/-- Two resources with a loose scheme, which is found although the grammar has none: the Kelvin sign
is taken for a letter, and a line feed may end a scheme. -/
theorem loose_schemes_found :
    (ofName (some "\u212A://x".toList) = some "k".toList ∧
      ∀ s, ¬Spells (some "\u212A://x".toList) s) ∧
    (ofName (some "http\n://x".toList) = some "http\n".toList ∧
      ∀ s, ¬Spells (some "http\n://x".toList) s) := by
  have hkelvin : beforeMark "\u212A://x".toList = some ['\u212A'] := by decide +kernel
  have hhttp : beforeMark "http\n://x".toList = some "http\n".toList := by decide +kernel
  refine ⟨⟨by decide +kernel, ?_⟩, by decide +kernel, ?_⟩
  · exact not_spells_of_isStray hkelvin List.mem_cons_self (Or.inl (by decide))
  · exact not_spells_of_isStray hhttp (c := '\n') (by decide) (Or.inr rfl)

end Scheme

end MediaCatalog
