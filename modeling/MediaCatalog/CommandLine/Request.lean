import MediaCatalog.CommandLine.Token

/-!
# Requests

A request is what the arguments ask for: a command with its operands, and whether the log is to be
verbose. Reading the arguments may also end early, in a help text, in the version or in a complaint.

The arguments are read from the left. Switches and the operand may come in any order; an argument
that has no place is set aside, and is complained about only when all else is in order. An ambiguous
abbreviation is found out first: a page looks for one before it reads anything.
-/

namespace MediaCatalog.CommandLine

/-- A command with its operands. -/
inductive Command
  /-- Match a name against a format, and consult skip lists. The format and the lists may lack a
  text. -/
  | matching (name : Text) (format : Option Text) (groups : List (Option Text))
  /-- Ask whether the default renderer plays a resource as it is. The format may lack a text. -/
  | compatible (name : Text) (format : Option Text)
  /-- List the categories. -/
  | types
  /-- Name the supplier of cover art that a setting stands for. -/
  | coverSupplier (value : Text)
deriving DecidableEq, Repr

/-- What the arguments ask for. -/
structure Request where
  /-- Whether all log records are to be written. -/
  verbose : Bool
  /-- The command. -/
  command : Command
deriving DecidableEq, Repr

/-- How reading the arguments ends early. -/
inductive Halt
  /-- In the help of a page. -/
  | help (p : Page)
  /-- In the version. -/
  | version
  /-- In a complaint about a page. -/
  | misuse (p : Page) (m : Misuse)
deriving DecidableEq, Repr

/-- What has been read of the arguments of a page. -/
structure Findings where
  /-- Whether all log records are to be written. -/
  verbose : Bool := false
  /-- The operand. -/
  operand : Option Text := none
  /-- The last format that was given, and its text, if it has one. -/
  format : Option (Option Text) := none
  /-- The texts of the skip lists, as far as they have one, in the order given. -/
  groups : List (Option Text) := []
  /-- The arguments that have no place. -/
  extras : List Text := []
deriving DecidableEq, Repr

namespace Findings

/-- Sets arguments aside. -/
def setAside (found : Findings) (args : List Text) : Findings :=
  { found with extras := found.extras ++ args }

/-- Takes note of a switch without a value. -/
def flag (found : Findings) (p : Page) : Switch → Except Halt Findings
  | .help => .error (.help p)
  | .version => .error .version
  | .verbose => .ok { found with verbose := true }
  | .format | .skip => .ok found

/-- Takes note of switches without a value. -/
def flags (found : Findings) (p : Page) : List Switch → Except Halt Findings
  | [] => .ok found
  | s :: rest => do
    let next ← found.flag p s
    next.flags p rest

/-- Takes note of the value of a switch, which may lack a text. -/
def value (found : Findings) (v : Option Text) : Switch → Findings
  | .format => { found with format := some v }
  | .skip => { found with groups := found.groups ++ [v] }
  | .help | .version | .verbose => found

/-- What a page misses among what was found: the operand and the format, where it has them. -/
def missing (found : Findings) (p : Page) : List Text :=
  (p.operand.filter fun _ => found.operand.isNone).toList
    ++ if p.switches.contains .format && found.format.isNone then [Switch.format.label] else []

end Findings

/-! ### The page of a command -/

/-- The place in the arguments of a command. -/
inductive Place
  /-- Anything may come. -/
  | free
  /-- The operand has just been read, and takes a mark that follows it. -/
  | afterOperand
  /-- The value of a switch has to come, after which the switches before it take effect. -/
  | beforeValue (flags : List Switch) (s : Switch)
deriving DecidableEq, Repr

/-- Reads the arguments of a command. -/
def scan (p : Page) (found : Findings) : Place → List Text → Except Halt Findings
  | .beforeValue _ s, [] => .error (.misuse p (.valueMissing s))
  | .beforeValue flags s, arg :: rest =>
    match Token.ofArg p arg with
    | .plain v => do
      let next ← found.flags p flags
      scan p (next.value (some v) s) .free rest
    | _ => .error (.misuse p (.valueMissing s))
  | _, [] => .ok found
  | place, arg :: rest =>
    match Token.ofArg p arg with
    | .plain t =>
      if p.operand.isSome && found.operand.isNone then
        scan p { found with operand := some t } .afterOperand rest
      else scan p (found.setAside [t]) .free rest
    | .terminator =>
      if p.operand.isSome && found.operand.isNone then
        match rest with
        | [] => .ok (found.setAside [arg])
        | t :: others => .ok ({ found with operand := some t }.setAside others)
      else if place = .afterOperand then .ok (found.setAside rest)
      else .ok (found.setAside (arg :: rest))
    | .unknown t => scan p (found.setAside [t]) .free rest
    | .switches flags s none =>
      if s.takesValue then scan p found (.beforeValue flags s) rest
      else do
        let next ← found.flags p (flags ++ [s])
        scan p next .free rest
    | .switches flags s (some v) => do
      let next ← found.flags p flags
      scan p (next.value (Token.attachedText v) s) .free rest
    | .ambiguous candidates => .error (.misuse p (.ambiguous arg candidates))
    | .misused m => .error (.misuse p m)

/-- The first ambiguous abbreviation among the arguments before the mark. -/
def ambiguity (p : Page) : List Text → Option Misuse
  | [] => none
  | arg :: rest =>
    match Token.ofArg p arg with
    | .terminator => none
    | .ambiguous candidates => some (.ambiguous arg candidates)
    | _ => ambiguity p rest

/-- Refuses ambiguous abbreviations. -/
def checkAbbreviations (p : Page) (args : List Text) : Except Halt Unit :=
  match ambiguity p args with
  | some m => .error (.misuse p m)
  | none => .ok ()

/-- The command that is asked for by what was found, unless something is missing. -/
def Command.ofFindings? (found : Findings) : CommandName → Option Command
  | .matching => do return .matching (← found.operand) (← found.format) found.groups
  | .compatible => do return .compatible (← found.operand) (← found.format)
  | .types => some .types
  | .coverSupplier => found.operand.map .coverSupplier

/-- Reads the arguments of a command. What is left over comes with it. -/
def readPage (c : CommandName) (args : List Text) : Except Halt (Command × List Text) := do
  checkAbbreviations (.command c) args
  let found ← scan (.command c) {} .free args
  match Command.ofFindings? found c with
  | some command => return (command, found.extras)
  | none => throw (.misuse (.command c) (.required (found.missing (.command c))))

/-! ### The page of the program -/

/-- The arguments of the program, divided at the command. -/
structure Division where
  /-- What was found before the command. -/
  found : Findings
  /-- The name of the command and the arguments that follow it. -/
  command : Option (Text × List Text)
deriving DecidableEq, Repr

/-- Reads the arguments of the program up to the command. -/
def divide (found : Findings) : List Text → Except Halt Division
  | [] => .ok ⟨found, none⟩
  | arg :: rest =>
    match Token.ofArg .program arg with
    | .plain t => .ok ⟨found, some (t, rest)⟩
    | .terminator =>
      match rest with
      | [] => .ok ⟨found.setAside [arg], none⟩
      | _ :: _ => .ok ⟨found, some (arg, rest)⟩
    | .unknown t => divide (found.setAside [t]) rest
    | .switches flags s _ => do
      let next ← found.flags .program (flags ++ [s])
      divide next rest
    | .ambiguous candidates => .error (.misuse .program (.ambiguous arg candidates))
    | .misused m => .error (.misuse .program m)

/-- Reads the arguments that follow the name of a command. -/
def readCommand (name : Text) (args : List Text) : Except Halt (Command × List Text) :=
  match CommandName.ofSpelling? name with
  | some c => readPage c args
  | none => .error (.misuse .program (.unknownCommand name))

/-- Complains about arguments that have no place. -/
def refuseExtras : List Text → Except Halt Unit
  | [] => .ok ()
  | extras => .error (.misuse .program (.unrecognized extras))

/-- What the arguments ask for. Without a command they ask for the help of the program. -/
def Request.ofArgs (args : List Text) : Except Halt Request := do
  checkAbbreviations .program args
  let division ← divide {} args
  match division.command with
  | none =>
    refuseExtras division.found.extras
    throw (.help .program)
  | some (name, rest) =>
    let (command, extras) ← readCommand name rest
    refuseExtras (division.found.extras ++ extras)
    return ⟨division.found.verbose, command⟩

end MediaCatalog.CommandLine
