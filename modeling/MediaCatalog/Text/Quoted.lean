import MediaCatalog.Text.Basic
import MediaCatalog.Text.Printable

/-!
# Quoted texts

A text is quoted for a log or a listing so that it stays on one line and shows what it holds:
between single quotes, or between double quotes if it holds a single and no double one. The
backslash, the quote in use and the common line controls get a backslash; any other character
that is not printable is written by its code point, in the least of the widths two, four and
eight.
-/

namespace MediaCatalog.Text

/-- The single quote. -/
def singleQuote : Char := '\x27'

/-- The double quote. -/
def doubleQuote : Char := '\x22'

/-- The backslash, which starts every escape. -/
def backslash : Char := '\x5c'

/-- A character written by its code point. -/
def escapeCode (c : Char) : Text :=
  if c.toNat < 0x100 then backslash :: 'x' :: digits 16 2 c.toNat
  else if c.toNat < 0x10000 then backslash :: 'u' :: digits 16 4 c.toNat
  else backslash :: 'U' :: digits 16 8 c.toNat

/-- A character as it is written between the quotes `mark`. -/
def escapeChar (mark : Char) (c : Char) : Text :=
  if c = mark ∨ c = backslash then [backslash, c]
  else if c = '\t' then [backslash, 't']
  else if c = '\n' then [backslash, 'n']
  else if c = '\r' then [backslash, 'r']
  else if isPrintable c then [c]
  else escapeCode c

/-- The quotes that a text is written between. -/
def quoteMark (t : Text) : Char :=
  if singleQuote ∈ t ∧ doubleQuote ∉ t then doubleQuote else singleQuote

/-- A text between quotes. -/
def quote (t : Text) : Text :=
  quoteMark t :: t.flatMap (escapeChar (quoteMark t)) ++ [quoteMark t]

end MediaCatalog.Text
