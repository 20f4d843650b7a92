/-!
# Tables over code points

The classes and the case mappings of characters are data of Unicode 14, carried as tables of
ranges. A class is a list of closed ranges; a case mapping is a list of runs, each of which moves
evenly spaced code points by the same distance. Both are looked up by the code point.
-/

namespace MediaCatalog.Text

/-- A class of characters, as closed ranges of code points. -/
abbrev CodeRanges := List (Nat × Nat)

/-- Whether a code point lies in one of the ranges. -/
def CodeRanges.holds (ranges : CodeRanges) (n : Nat) : Bool :=
  ranges.any fun r => r.1 ≤ n && n ≤ r.2

/-- Evenly spaced code points that a case mapping moves by the same distance: the `count` code
points `first`, `first + stride`, …, the first of which becomes `image`. -/
structure CaseRun where
  /-- The least code point that is moved. -/
  first : Nat
  /-- How many code points are moved. -/
  count : Nat
  /-- The distance of two neighbouring ones. -/
  stride : Nat
  /-- What the least one becomes. -/
  image : Nat
deriving DecidableEq, Repr

namespace CaseRun

/-- Whether the run moves a code point. -/
def covers (r : CaseRun) (n : Nat) : Bool :=
  r.first ≤ n && n < r.first + r.count * r.stride && (n - r.first) % r.stride == 0

/-- Where the run moves a code point that it covers. -/
def apply (r : CaseRun) (n : Nat) : Nat := r.image + (n - r.first)

end CaseRun

/-- The image of a code point under the runs of a case mapping. A code point that no run covers
stays as it is. -/
def moveBy (runs : List CaseRun) (n : Nat) : Nat :=
  match runs.find? fun r => r.covers n with
  | some r => r.apply n
  | none => n

end MediaCatalog.Text
