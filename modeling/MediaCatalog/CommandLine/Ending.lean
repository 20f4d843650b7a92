import MediaCatalog.CommandLine.Report

/-!
# Endings

How a run can end, and what the user is told about it. An error of the library is told with its
message and, where there is one, a hint. Style tags mark the words that stand out; where nothing
draws them they are shown as they are.
-/

namespace MediaCatalog.CommandLine

/-- How a run ends. -/
inductive Ending
  /-- With an exit code. -/
  | finished (code : Int)
  /-- With an error of the library, which has a message and maybe a hint. -/
  | refused (message : Text) (hint : Option Text)
  /-- With an interruption by the user. -/
  | interrupted
  /-- With an error that nobody has foreseen. -/
  | crashed (c : Crash)
deriving DecidableEq, Repr

namespace Ending

/-- The ending with an error of the library. -/
def ofError (e : Error) : Ending := refused e.message e.hint

/-- The ending that a report comes to. -/
def ofReport (report : Report) : Ending :=
  match report.crash with
  | some crash => crashed crash
  | none => finished report.code.value

/-- The exit code of an ending. -/
def code : Ending → Int
  | finished code => code
  | refused .. => ExitCode.generalError.value
  | interrupted => ExitCode.keyboardInterrupt.value
  | crashed _ => ExitCode.unexpectedError.value

/-- What the user is told about a hint. An empty hint is none. -/
def hintShown : Option Text → List Display
  | none | some [] => []
  | some hint => [.message ("[yellow]Hint:[/yellow] ".toList ++ hint)]

/-- What the user is told about an ending. -/
def shown : Ending → List Display
  | finished _ => []
  | refused message hint =>
    .message ("[bold red]Error:[/bold red] ".toList ++ message) :: hintShown hint
  | interrupted => [.message "\n[yellow]Aborted by user.[/yellow]".toList]
  | crashed c =>
    [.message ("[bold red]Unexpected error.[/bold red] Please report this issue.\n  ".toList
      ++ c.kind ++ ": ".toList ++ c.text)]

end Ending

end MediaCatalog.CommandLine
