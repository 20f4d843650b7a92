import MediaCatalog.Text.Basic
import MediaCatalog.Text.CodePoints

/-!
# White space

The white space that separates words: the Unicode property, and the four information separators
U+001C to U+001F. The zero-width space is not white space.
-/

namespace MediaCatalog.Text

/-- The characters of white space. -/
def blankRanges : CodeRanges :=
  [(0x09, 0x0D), (0x1C, 0x20), (0x85, 0x85), (0xA0, 0xA0), (0x1680, 0x1680), (0x2000, 0x200A),
   (0x2028, 0x2029), (0x202F, 0x202F), (0x205F, 0x205F), (0x3000, 0x3000)]

/-- Whether a character is white space. -/
def isBlank (c : Char) : Bool := blankRanges.holds c.toNat

/-- A text without the white space it starts with. -/
def trimLeft (t : Text) : Text := t.dropWhile isBlank

/-- A text without the white space it starts and ends with. -/
def trim (t : Text) : Text := (trimLeft (trimLeft t).reverse).reverse

/-- Whether a text holds nothing but white space. -/
def isBlankText (t : Text) : Bool := t.all isBlank

end MediaCatalog.Text
