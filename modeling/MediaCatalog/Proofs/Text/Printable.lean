import MediaCatalog.Text.Quoted
import Mathlib.Tactic.SplitIfs

/-!
# Printable texts

Quoting is what makes any text safe to write on a line. Every character that is not printable is
replaced by an escape, and an escape is made of a backslash, a letter and hexadecimal digits, so
that **a quoted text is printable** whatever it was made from
(`MediaCatalog.Text.printable_quote`).
-/

namespace MediaCatalog

namespace Text

/-- A text of printable characters only. -/
def Printable (t : Text) : Prop := ∀ c ∈ t, isPrintable c = true

theorem printable_nil : Printable [] := List.forall_mem_nil _

theorem printable_cons_iff {c : Char} {t : Text} :
    Printable (c :: t) ↔ isPrintable c = true ∧ Printable t := List.forall_mem_cons

theorem printable_append_iff {t u : Text} : Printable (t ++ u) ↔ Printable t ∧ Printable u :=
  List.forall_mem_append

/-- Printable texts joined by a printable separator are printable. -/
theorem printable_join {separator : Text} (hseparator : Printable separator) {ts : List Text}
    (h : ∀ t ∈ ts, Printable t) : Printable (join separator ts) := by
  induction ts with
  | nil => exact printable_nil
  | cons t ts ih =>
    obtain ⟨ht, hts⟩ := List.forall_mem_cons.mp h
    cases ts with
    | nil => exact ht
    | cons u ts =>
      rw [join, printable_append_iff, printable_append_iff]
      exact ⟨⟨ht, hseparator⟩, ih hts⟩

/-! ### ASCII -/

/-- Whether a character is an ASCII character that is printable. -/
def isPlain (c : Char) : Bool := ' '.toNat ≤ c.toNat && c.toNat ≤ '~'.toNat

theorem isPrintable_of_isPlain {c : Char} (h : isPlain c = true) : isPrintable c = true := by
  have htable : ∀ r ∈ unprintableRanges, r.2 < ' '.toNat ∨ '~'.toNat < r.1 := by decide +kernel
  obtain ⟨hlow, hhigh⟩ : ' '.toNat ≤ c.toNat ∧ c.toNat ≤ '~'.toNat := by
    simpa only [isPlain, Bool.and_eq_true, decide_eq_true_eq] using h
  rw [isPrintable, CodeRanges.holds, Bool.not_eq_true', List.any_eq_false]
  intro r hr hin
  obtain ⟨hfirst, hlast⟩ : r.1 ≤ c.toNat ∧ c.toNat ≤ r.2 := by
    simpa only [Bool.and_eq_true, decide_eq_true_eq] using hin
  rcases htable r hr with hbefore | hafter <;> omega

theorem printable_of_isPlain {t : Text} (h : t.all isPlain = true) : Printable t := fun c hc =>
  isPrintable_of_isPlain (List.all_eq_true.mp h c hc)

/-! ### Escapes -/

/-- The digits of a number are printable, to any base that has digits. -/
theorem printable_digits {base : Nat} (hpos : 0 < base) (hle : base ≤ 16) (width n : Nat) :
    Printable (digits base width n) := by
  have hdigit : ∀ d < 16, isPlain (digit d) = true := by decide
  induction width generalizing n with
  | zero => exact printable_nil
  | succ width ih =>
    have hlast : n % base < 16 := Nat.lt_of_lt_of_le (Nat.mod_lt n hpos) hle
    rw [digits, printable_append_iff, printable_cons_iff]
    exact ⟨ih (n / base), isPrintable_of_isPlain (hdigit _ hlast), printable_nil⟩

theorem printable_escapeCode (c : Char) : Printable (escapeCode c) := by
  have hescape {d : Char} (hd : isPlain d = true) (width : Nat) :
      Printable ([backslash, d] ++ digits 16 width c.toNat) := by
    have hlead : [backslash, d].all isPlain = true := by
      rw [List.all_cons, List.all_cons, hd]
      rfl
    exact printable_append_iff.mpr
      ⟨printable_of_isPlain hlead, printable_digits (by decide) (by decide) width c.toNat⟩
  rw [escapeCode]
  split
  · exact hescape (d := 'x') (by decide) 2
  · split
    · exact hescape (d := 'u') (by decide) 4
    · exact hescape (d := 'U') (by decide) 8

theorem printable_escapeChar {mark : Char} (hmark : isPrintable mark = true) (c : Char) :
    Printable (escapeChar mark c) := by
  have hbackslash : isPrintable backslash = true := isPrintable_of_isPlain (by decide)
  rw [escapeChar]
  -- The quotes and the backslash, the controls with a letter, what is printable, and all the rest.
  split_ifs with hquote htab hfeed hreturn hprintable
  · rw [printable_cons_iff, printable_cons_iff]
    refine ⟨hbackslash, ?_, printable_nil⟩
    rcases hquote with rfl | rfl
    · exact hmark
    · exact hbackslash
  · exact printable_of_isPlain (by decide)
  · exact printable_of_isPlain (by decide)
  · exact printable_of_isPlain (by decide)
  · exact printable_cons_iff.mpr ⟨hprintable, printable_nil⟩
  · exact printable_escapeCode c

/-- **A quoted text is printable**, whatever it was made from. -/
theorem printable_quote (t : Text) : Printable (quote t) := by
  have hmark : isPrintable (quoteMark t) = true := by
    rw [quoteMark]
    split <;> exact isPrintable_of_isPlain (by decide)
  have hbody : Printable (t.flatMap (escapeChar (quoteMark t))) := by
    intro d hd
    obtain ⟨c, -, hc⟩ := List.mem_flatMap.mp hd
    exact printable_escapeChar hmark c d hc
  rw [quote, List.cons_append, printable_cons_iff, printable_append_iff, printable_cons_iff]
  exact ⟨hmark, hbody, hmark, printable_nil⟩

end Text

end MediaCatalog
