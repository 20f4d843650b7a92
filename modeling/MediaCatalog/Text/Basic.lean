/-!
# Texts

Everything the catalogue reads or writes is a `Text`, a list of characters. Lengths and columns
count characters, and the functions on texts recurse on the list, so that they can be reasoned
about by induction. A string literal becomes a text by `String.toList`.

The characters are the scalar values of Unicode, so that a surrogate is not among them. A text with
a surrogate on its own, which stands for a byte that could not be decoded, is no `Text`: nothing is
said here of arguments and variables that are not well-formed.
-/

namespace MediaCatalog

/-- A text, as the list of its characters. -/
abbrev Text := List Char

namespace Text

/-- The decimal form of an integer, with a minus sign when it is negative. -/
def ofInt (n : Int) : Text := (toString n).toList

/-- The digit of a number below sixteen, as a figure or a small letter. -/
def digit (d : Nat) : Char := if d < 10 then Char.ofNat (0x30 + d) else Char.ofNat (0x57 + d)

/-- The last `width` digits of a number to a base, the most significant first. -/
def digits (base : Nat) : Nat → Nat → Text
  | 0, _ => []
  | width + 1, n => digits base width (n / base) ++ [digit (n % base)]

/-- The texts of a list, one after the other with `separator` between neighbours. -/
def join (separator : Text) : List Text → Text
  | [] => []
  | [t] => t
  | t :: u :: rest => t ++ separator ++ join separator (u :: rest)

/-- A text filled up with spaces on the right to `width` characters. A longer text is kept. -/
def padRight (width : Nat) (t : Text) : Text := t ++ List.replicate (width - t.length) ' '

/-- The pieces of a text between the occurrences of a character. There is always one piece more
than there are occurrences. -/
def cut (separator : Char) : Text → List Text
  | [] => [[]]
  | c :: rest =>
    if c = separator then [] :: cut separator rest
    else match cut separator rest with
      | piece :: pieces => (c :: piece) :: pieces
      | [] => [[c]]

end Text

end MediaCatalog
