import MediaCatalog.Catalog
import MediaCatalog.CommandLine.Request
import MediaCatalog.Display
import MediaCatalog.Store
import MediaCatalog.Supplier

/-!
# Reports

What the commands answer: a report shows a table or a message, may leave a record in the log and
ends in an exit code. A command that works on a format fails where the name of the format cannot
be looked up, and one that asks the default renderer fails where none is installed.

A format or a skip list that lacks a text is not provided for. Looking up such a format breaks off
at once, and such a skip list breaks off when it has to be split, which is never before something
has matched and no list before it has skipped that.
-/

namespace MediaCatalog.CommandLine

/-- How a run ends, as other programs see it. -/
inductive ExitCode
  /-- The command has been carried out. -/
  | success
  /-- The library has refused. -/
  | generalError
  /-- Something has failed that nobody has foreseen. -/
  | unexpectedError
  /-- The name does not match the format. -/
  | noMatch
  /-- The user has interrupted the run. -/
  | keyboardInterrupt
deriving DecidableEq, Repr

namespace ExitCode

/-- The exit codes. -/
def all : List ExitCode := [success, generalError, unexpectedError, noMatch, keyboardInterrupt]

/-- The name of an exit code. -/
def name : ExitCode → Text
  | success => "SUCCESS".toList
  | generalError => "GENERAL_ERROR".toList
  | unexpectedError => "UNEXPECTED_ERROR".toList
  | noMatch => "NO_MATCH".toList
  | keyboardInterrupt => "KEYBOARD_INTERRUPT".toList

/-- The number of an exit code. -/
def value : ExitCode → Int
  | success => 0
  | generalError => 1
  | unexpectedError => 2
  | noMatch => 3
  | keyboardInterrupt => 130

end ExitCode

/-- What a command answers. -/
structure Report where
  /-- The log records. -/
  log : List LogRecord := []
  /-- What is shown. -/
  shown : List Display
  /-- How the run ends. -/
  code : ExitCode := .success
  /-- The error that nobody has foreseen, if the command has broken off. -/
  crash : Option Crash := none
deriving DecidableEq, Repr

namespace Report

/-- A verdict in a table. -/
def yesNo (b : Bool) : Text := if b then "yes".toList else "no".toList

/-- A verdict in the log. -/
def trueFalse (b : Bool) : Text := if b then "True".toList else "False".toList

/-- A format without a text is looked up. -/
def formatTextMissing : Crash :=
  ⟨"AttributeError".toList, "'list' object has no attribute 'strip'".toList⟩

/-- A skip list without a text is split. -/
def skipTextMissing : Crash :=
  ⟨"TypeError".toList, "expected string or bytes-like object, got 'list'".toList⟩

/-- The report on a command that breaks off, with the log records that it leaves. -/
def brokenOff (crash : Crash) (log : List LogRecord) : Report where
  log := log
  shown := []
  code := .unexpectedError
  crash := some crash

/-! ### Matching -/

/-- What stands in the place of an extension that is missing or empty. -/
def noExtension : Text := ['-']

/-- The extension that a probe has matched by, as a table shows it. -/
def extensionCell (p : Probe) : Text :=
  match p.matched with
  | none | some [] => noExtension
  | some extension => extension

/-- The rows on a probe that has been tested. -/
def matchRows (name : Text) (matched : Bool) (p : Probe) : List (List Text) :=
  [["Filename".toList, name],
   ["Format".toList, p.format.name],
   ["Matched".toList, yesNo matched],
   ["Extension".toList, extensionCell p],
   ["Type".toList, p.label],
   ["MIME type".toList, p.mimeType],
   ["Transcodable".toList, yesNo p.format.transcodable]]

/-- Whether skip lists, as they are given, skip what a probe has matched. They are consulted in
their order, up to the first that skips it. -/
def skipVerdict (p : Probe) : List (Option Text) → Except Crash Bool
  | [] => .ok false
  | some group :: rest => if p.skips [some group] then .ok true else skipVerdict p rest
  | none :: rest => if p.matched.isSome then .error skipTextMissing else skipVerdict p rest

/-- The row on the skip lists, if there are any. -/
def skipRow (p : Probe) : List (Option Text) → Except Crash (List (List Text))
  | [] => .ok []
  | groups => (skipVerdict p groups).map fun skipped => [["Skip".toList, yesNo skipped]]

/-- The log record of a test. -/
def tested (name : Text) (matched : Bool) (p : Probe) : LogRecord where
  level := .info
  source := .commandLine
  message := "Matched ".toList ++ Text.quote name ++ " against ".toList ++ p.format.name
    ++ ": ".toList ++ trueFalse matched

/-- The report on a test. -/
def ofTest (name : Text) (groups : List (Option Text)) (matched : Bool) (p : Probe) : Report :=
  match skipRow p groups with
  | .ok skip =>
    { log := [tested name matched p]
      shown := [.table
        ⟨"Format match".toList, ["Field".toList, "Value".toList],
          matchRows name matched p ++ skip⟩]
      code := if matched then .success else .noMatch }
  | .error crash => brokenOff crash [tested name matched p]

/-- The report on a name that is matched against a format. -/
def matching (name : Text) (f : Format) (groups : List (Option Text)) : Report :=
  let (matched, p) := (Probe.ofFormat f).test (some name)
  ofTest name groups matched p

/-! ### The other commands -/

/-- The report on how a renderer plays a resource. -/
def compatible (name : Text) (f : Format) (r : Renderer) : Report where
  shown := [.message <|
    if r.plays (some name) f then name ++ ": streamed natively as ".toList ++ f.name
    else name ++ ": ".toList ++ f.name ++ " needs transcoding".toList]

/-- The row on a mask. -/
def maskRow (name : Text) (mask : Nat) : List Text :=
  [name, Text.ofInt mask, Mask.label mask, Mask.mimeType mask]

/-- The report on the masks. -/
def types : Report where
  shown := [.table
    ⟨"Media type flags".toList,
      ["Flag".toList, "Value".toList, "Label".toList, "MIME type".toList],
      Mask.named.map fun (name, mask) => maskRow name mask⟩]

/-- The supplier of cover art in the place of one that a setting does not name. -/
def defaultSupplier : Supplier := .none

/-- The report on a setting that should name a supplier of cover art. -/
def coverSupplier (value : Text) : Except Error Report := do
  let supplier := Supplier.ofSetting (.text value) defaultSupplier
  let stored ← supplier.toStored
  return { shown := [.message (supplier.label ++ " (".toList ++ Text.ofInt stored ++ [')'])] }

/-- The report on a format that is looked up by its name. -/
def onFormat (format : Option Text) (report : Format → Except Error Report) : Except Error Report :=
  match format with
  | none => return brokenOff formatTextMissing []
  | some name => do
    let f ← Catalog.lookup name
    report f

/-- The report on a command, given the store with the renderer that is asked. -/
def ofCommand (s : Store) : Command → Except Error Report
  | .matching name format groups => onFormat format fun f => return matching name f groups
  | .compatible name format => onFormat format fun f => do
    let r ← s.standard?
    return compatible name f r
  | .types => return types
  | .coverSupplier value => coverSupplier value

end Report

end MediaCatalog.CommandLine
