import MediaCatalog.CommandLine.Misuse
import MediaCatalog.Text.Digit

/-!
# Tokens of the command line

What a single argument means on a page, before its place among the other arguments is looked at. An
argument that starts with a dash is a switch or is meant to be one, with these exceptions: a dash
alone, what looks like a negative number, and what holds a space and begins like no switch of the
page.

Letters of switches can be joined behind one dash, and the value of the last switch can be joined
to its letter. A long spelling can be abbreviated as long as that leaves one switch, and takes its
value after an equals sign. A value that is attached in one of these ways and reads like the mark
`--` is dropped like the mark: the switch is given, but its value has no text. Readers of arguments
do not agree in this. The older ones of the kind that is followed here drop the mark wherever it
stands, as described; the newer ones leave an attached one to its switch, with `--` for its text.
-/

namespace MediaCatalog.CommandLine

/-- The meaning of an argument on a page. -/
inductive Token
  /-- An operand, or the value of the switch before. -/
  | plain (t : Text)
  /-- The mark after which no argument is a switch. -/
  | terminator
  /-- Switches without a value, and a last one with the value that is attached to it, if any. -/
  | switches (flags : List Switch) (last : Switch) (value : Option Text)
  /-- A switch that the page does not have. -/
  | unknown (t : Text)
  /-- An abbreviation of several switches. -/
  | ambiguous (candidates : List Switch)
  /-- Switches that are misused. -/
  | misused (m : Misuse)
deriving DecidableEq, Repr

namespace Token

/-- The mark after which no argument is a switch. -/
def mark : Text := ['-', '-']

/-- Whether a text can end a number: one line feed is allowed for. -/
def isNumberEnd (t : Text) : Bool := t.isEmpty || t == ['\n']

/-- Whether a text is a whole number without a sign. -/
def isWhole (t : Text) : Bool :=
  t.head?.any Text.isDecimalDigit && isNumberEnd (t.dropWhile Text.isDecimalDigit)

/-- Whether a text is a number without a sign: a whole number, or a decimal point with digits after
it and possibly before it. -/
def isNumber (t : Text) : Bool :=
  isWhole t ||
    match t.dropWhile Text.isDecimalDigit with
    | '.' :: rest => isWhole rest
    | _ => false

/-- An argument that is none of the switches of the page. -/
def stray (arg : Text) : Token :=
  if isNumber (arg.drop 1) || arg.contains ' ' then plain arg else unknown arg

/-- The switches that are joined to a switch by their letters. The first of them that takes a value
takes the rest. -/
def joined (p : Page) (flags : List Switch) (s : Switch) : Text → Token
  | [] => switches flags s none
  | c :: rest =>
    if s.takesValue then switches flags s (some (c :: rest))
    else match p.switches.find? fun t => t.letter = c with
      | some t => joined p (flags ++ [s]) t rest
      | none => misused (.valueIgnored s (c :: rest))

/-- A switch that is spelled by its letter, with what follows in the argument. -/
def short (p : Page) (s : Switch) : Text → Token
  | '=' :: value =>
    if s.takesValue then switches [] s (some value)
    else if value.isEmpty then misused (.valueIgnored s value)
    else joined p [] s value
  | rest => joined p [] s rest

/-- The switches that a word can stand for: the one with this word or else all that begin with
it. -/
def candidates (p : Page) (word : Text) : List Switch :=
  match p.switches.find? fun s => s.word = word with
  | some s => [s]
  | none => p.switches.filter fun s => word.isPrefixOf s.word

/-- The value that is attached to a long spelling: what follows the first equals sign. -/
def attached (t : Text) : Option Text :=
  match t.dropWhile (· ≠ '=') with
  | _ :: value => some value
  | [] => none

/-- The text of a value that is attached to a switch. The mark has none: it is dropped, as the older
readers of arguments do it. -/
def attachedText (value : Text) : Option Text := if value = mark then none else some value

/-- A switch that is spelled by its word, with the value that is attached to it. -/
def long (s : Switch) : Option Text → Token
  | none => switches [] s none
  | some value =>
    if s.takesValue then switches [] s (some value) else misused (.valueIgnored s value)

/-- The meaning of an argument on a page. -/
def ofArg (p : Page) (arg : Text) : Token :=
  match arg with
  | ['-', '-'] => terminator
  | '-' :: '-' :: rest =>
    match candidates p (rest.takeWhile (· ≠ '=')) with
    | [] => stray arg
    | [s] => long s (attached rest)
    | several => ambiguous several
  | '-' :: c :: rest =>
    match p.switches.find? fun s => s.letter = c with
    | some s => short p s rest
    | none => stray arg
  | _ => plain arg

end Token

end MediaCatalog.CommandLine
