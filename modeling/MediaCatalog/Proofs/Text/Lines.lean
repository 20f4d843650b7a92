import MediaCatalog.Proofs.Text.Printable

/-!
# Lines

A text that is read line by line may be divided at more than line feeds: there are ten characters
that end a line, some of them far beyond ASCII. A carriage return with a line feed after it ends one
line, not two.

None of the ten is printable, so that printable texts, each with a line feed at its end, are the
lines of what they make together (`MediaCatalog.Text.splitLines_flatMap`).
-/

namespace MediaCatalog

namespace Text

/-- The characters that end a line: the line feed, the vertical tab, the form feed, the carriage
return, the file, group and record separators, the next-line control, and the line and paragraph
separators. -/
def lineBreaks : List Char :=
  ['\n', '\x0b', '\x0c', '\r', '\x1c', '\x1d', '\x1e', '\u0085', '\u2028', '\u2029']

/-- The lines of a text, without what ends them. After the last end of a line there is a line only
if there is something left. -/
def splitLines : Text → List Text
  | [] => []
  | '\r' :: '\n' :: rest => [] :: splitLines rest
  | c :: rest =>
    if c ∈ lineBreaks then [] :: splitLines rest
    else match splitLines rest with
      | line :: lines => (c :: line) :: lines
      | [] => [[c]]

theorem not_mem_lineBreaks_of_isPrintable {c : Char} (h : isPrintable c = true) :
    c ∉ lineBreaks := by
  have hbreaks : (lineBreaks.all fun c => !isPrintable c) = true := by decide +kernel
  intro hmem
  have hnot : (!isPrintable c) = true := List.all_eq_true.mp hbreaks c hmem
  rw [h] at hnot
  exact Bool.false_ne_true hnot

theorem splitLines_cons {c : Char} (hc : c ∉ lineBreaks) {t line : Text} {lines : List Text}
    (h : splitLines t = line :: lines) : splitLines (c :: t) = (c :: line) :: lines := by
  rw [splitLines, if_neg hc, h]
  rintro rest rfl -
  exact hc (by decide)

/-- A printable text that a line feed ends is a line. -/
theorem splitLines_append_lineFeed {t : Text} (ht : Printable t) (rest : Text) :
    splitLines (t ++ '\n' :: rest) = t :: splitLines rest := by
  induction t with
  | nil => rfl
  | cons c t ih =>
    obtain ⟨hc, ht⟩ := printable_cons_iff.mp ht
    exact splitLines_cons (not_mem_lineBreaks_of_isPrintable hc) (ih ht)

/-- **Printable texts on lines of their own are read back as these lines.** -/
theorem splitLines_flatMap {ts : List Text} (h : ∀ t ∈ ts, Printable t) :
    splitLines (ts.flatMap fun t => t ++ ['\n']) = ts := by
  induction ts with
  | nil => rfl
  | cons t ts ih =>
    obtain ⟨ht, hts⟩ := List.forall_mem_cons.mp h
    rw [List.flatMap_cons, List.append_assoc, List.singleton_append, splitLines_append_lineFeed ht,
      ih hts]

end Text

end MediaCatalog
