import MediaCatalog.CommandLine.Help
import MediaCatalog.Text.Quoted

/-!
# Misuse of the command line

The ways in which arguments can be wrong. A complaint names the page it is about, under the usage of
that page.
-/

namespace MediaCatalog.CommandLine

/-- What is wrong with the arguments. -/
inductive Misuse
  /-- An abbreviation stands for several switches. -/
  | ambiguous (arg : Text) (candidates : List Switch)
  /-- A switch lacks its value. -/
  | valueMissing (s : Switch)
  /-- A switch that takes no value is given one. -/
  | valueIgnored (s : Switch) (value : Text)
  /-- Operands or switches that have to be given are not. -/
  | required (names : List Text)
  /-- There is no such command. -/
  | unknownCommand (name : Text)
  /-- Arguments are left over. -/
  | unrecognized (args : List Text)
deriving DecidableEq, Repr

namespace Misuse

/-- The separator of the items of a list in a message. -/
def comma : Text := [',', ' ']

/-- What is said about a misuse. -/
def message : Misuse → Text
  | ambiguous arg candidates =>
    "ambiguous option: ".toList ++ arg ++ " could match ".toList
      ++ Text.join comma (candidates.map Switch.long)
  | valueMissing s => "argument ".toList ++ s.label ++ ": expected one argument".toList
  | valueIgnored s value =>
    "argument ".toList ++ s.label ++ ": ignored explicit argument ".toList ++ Text.quote value
  | required names =>
    "the following arguments are required: ".toList ++ Text.join comma names
  | unknownCommand name =>
    "argument command: invalid choice: ".toList ++ Text.quote name ++ " (choose from ".toList
      ++ Text.join comma (CommandName.all.map fun c => Text.quote c.spelling) ++ [')']
  | unrecognized args => "unrecognized arguments: ".toList ++ Text.join [' '] args

/-- A misuse as it is reported about a page. -/
def report (m : Misuse) (p : Page) : Text :=
  p.usage ++ p.name ++ ": error: ".toList ++ m.message ++ ['\n']

end Misuse

end MediaCatalog.CommandLine
