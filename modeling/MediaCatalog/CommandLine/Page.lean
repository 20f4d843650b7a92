import MediaCatalog.Text.Basic

/-!
# The pages of the command line

The command line has a page for the program itself and one for each of its commands. A page has
switches, each with a short and a long spelling, and may have an operand, which is given by its
position alone. On the page of the program the operand is a command, and what follows it belongs to
the page of that command.
-/

namespace MediaCatalog.CommandLine

/-- The name of the program. -/
def programName : Text := "media-formats".toList

/-- The version of the program. -/
def version : Text := "0.3.0".toList

/-- A switch. -/
inductive Switch
  | help
  | version
  | verbose
  | format
  | skip
deriving DecidableEq, Repr

namespace Switch

/-- The letter of a switch. -/
def letter : Switch → Char
  | help => 'h'
  | version => 'V'
  | verbose => 'v'
  | format => 'f'
  | skip => 's'

/-- The word of a switch. -/
def word : Switch → Text
  | help => "help".toList
  | version => "version".toList
  | verbose => "verbose".toList
  | format => "format".toList
  | skip => "skip".toList

/-- The short spelling of a switch. -/
def short (s : Switch) : Text := ['-', s.letter]

/-- The long spelling of a switch. -/
def long (s : Switch) : Text := '-' :: '-' :: s.word

/-- A switch as messages name it. -/
def label (s : Switch) : Text := s.short ++ ['/'] ++ s.long

/-- Whether a switch is followed by a value. -/
def takesValue : Switch → Bool
  | format | skip => true
  | help | version | verbose => false

end Switch

/-- The name of a command. -/
inductive CommandName
  | matching
  | compatible
  | types
  | coverSupplier
deriving DecidableEq, Repr

namespace CommandName

/-- The commands. -/
def all : List CommandName := [matching, compatible, types, coverSupplier]

/-- The name of a command as it is typed. -/
def spelling : CommandName → Text
  | matching => "match".toList
  | compatible => "compatible".toList
  | types => "types".toList
  | coverSupplier => "cover-supplier".toList

/-- The command of a spelling. -/
def ofSpelling? (t : Text) : Option CommandName := all.find? fun c => c.spelling == t

end CommandName

/-- A page of the command line. -/
inductive Page
  /-- The page of the program. -/
  | program
  /-- The page of a command. -/
  | command (name : CommandName)
deriving DecidableEq, Repr

namespace Page

/-- What a page is called in messages. -/
def name : Page → Text
  | program => programName
  | command c => programName ++ [' '] ++ c.spelling

/-- The switches of a page, in the order in which they are listed. -/
def switches : Page → List Switch
  | program => [.help, .version, .verbose]
  | command .matching => [.help, .format, .skip]
  | command .compatible => [.help, .format]
  | command .types | command .coverSupplier => [.help]

/-- The operand of a page, if it has one. -/
def operand : Page → Option Text
  | program => some "command".toList
  | command .matching | command .compatible => some "filename".toList
  | command .types => none
  | command .coverSupplier => some "value".toList

end Page

end MediaCatalog.CommandLine
