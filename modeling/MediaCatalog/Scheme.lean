import MediaCatalog.Text.Case

/-!
# The scheme of a resource name

A resource name is a URI when it starts with a scheme and the mark `://`. Anything else – a path, a
drive letter, a bare `name:tag` – is the name of a file.

Scheme letters are compared without regard to case, so that beside the ASCII letters there are four
others among them: the dotted capital I and the dotless small i are cases of i, the long s is a case
of s and the Kelvin sign is a case of k. A scheme may be closed by one line feed.
-/

namespace MediaCatalog.Scheme

/-- What stands before the first `://` of a text, if there is one. -/
def beforeMark : Text → Option Text
  | [] => none
  | c :: rest =>
    if c = ':' ∧ ['/', '/'].isPrefixOf rest then some []
    else (beforeMark rest).map (c :: ·)

/-- The characters beyond ASCII that are a case of an ASCII letter. -/
def foreignLetters : List Char := ['\u0130', '\u0131', '\u017F', '\u212A']

/-- Whether a character can start a scheme. -/
def isLetter (c : Char) : Bool := c.isAlpha || foreignLetters.contains c

/-- Whether a character can stand in a scheme after the first. -/
def isMember (c : Char) : Bool :=
  isLetter c || c.isDigit || c == '+' || c == '.' || c == '-'

/-- Whether a text can follow the first letter of a scheme. -/
def isTail : Text → Bool
  | [] => true
  | ['\n'] => true
  | c :: rest => isMember c && isTail rest

/-- Whether a text is a scheme. -/
def isScheme : Text → Bool
  | [] => false
  | c :: rest => isLetter c && isTail rest

/-- The scheme of a resource name, in lower case. -/
def ofText (t : Text) : Option Text :=
  match beforeMark t with
  | some scheme => if isScheme scheme then some (Text.lower scheme) else none
  | none => none

/-- The scheme of a resource that may have no name. -/
def ofName (name : Option Text) : Option Text := name.bind ofText

end MediaCatalog.Scheme
