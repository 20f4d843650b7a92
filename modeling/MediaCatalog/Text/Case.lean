import MediaCatalog.Text.Basic
import MediaCatalog.Text.Case.Context
import MediaCatalog.Text.Case.LowerRuns
import MediaCatalog.Text.Case.UpperRuns

/-!
# Lower and upper case

The full case mappings of Unicode. Both may change the length of a text: the dotted capital I
becomes a small i and a combining dot, and the sharp s becomes two capitals.

Lower-casing looks beyond a single character in one place only: a capital sigma becomes the
**final** small sigma when a cased character stands before it and none stands after it, in both
directions passing over the case-ignorable characters. So the recursion carries one bit, whether
the nearest character before that counts is cased.
-/

namespace MediaCatalog.Text

/-- The capital sigma, the only letter whose small form depends on its neighbours. -/
def capitalSigma : Char := '\u03A3'

/-- The small sigma inside a word. -/
def smallSigma : Char := '\u03C3'

/-- The small sigma at the end of a word. -/
def finalSigma : Char := '\u03C2'

/-- The capital I with a dot above, whose small form is two characters. -/
def dottedCapitalI : Char := '\u0130'

/-- The small form of a character on its own. -/
def lowerChar (c : Char) : Text :=
  if c = dottedCapitalI then ['i', '\u0307']
  else if c = capitalSigma then [smallSigma]
  else [Char.ofNat (moveBy lowerRuns c.toNat)]

/-- Whether the first character that is not case-ignorable is cased. -/
def startsCased : Text → Bool
  | [] => false
  | c :: rest => if isCaseIgnorable c then startsCased rest else isCased c

/-- The lower case of a text that follows other characters, where `afterCased` says whether the
nearest of them that is not case-ignorable is cased. -/
def lowerAfter (afterCased : Bool) : Text → Text
  | [] => []
  | c :: rest =>
    (if c = capitalSigma ∧ afterCased ∧ startsCased rest = false then [finalSigma]
      else lowerChar c)
      ++ lowerAfter (if isCaseIgnorable c then afterCased else isCased c) rest

/-- The lower case of a text. -/
def lower (t : Text) : Text := lowerAfter false t

/-- The capital form of a character. -/
def upperChar (c : Char) : Text :=
  match upperExpansions.lookup c.toNat with
  | some codes => codes.map Char.ofNat
  | none => [Char.ofNat (moveBy upperRuns c.toNat)]

/-- The upper case of a text. -/
def upper (t : Text) : Text := t.flatMap upperChar

end MediaCatalog.Text
