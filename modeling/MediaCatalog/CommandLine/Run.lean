import MediaCatalog.CommandLine.Ending
import MediaCatalog.Settings

/-!
# Runs

A run reads the arguments, then the settings, installs the default renderer and carries out the
command. Arguments that ask for no command, or are wrong, leave the settings unread; settings that
cannot be read leave the renderer uninstalled. What is shown goes to the terminal, complaints about
the arguments and the log go beside it.

An error that comes up while the run shows its results is told to the user like any other that
nobody has foreseen. One that comes up while an ending is told is past help: nobody catches it, and
it ends the run.
-/

namespace MediaCatalog.CommandLine

/-- What a run finds where it takes place. -/
structure Host where
  /-- The drawing library. -/
  drawing : DrawingMode := .absent
  /-- The clock. -/
  clock : Clock := fun _ => .epoch

/-- What a run leaves. -/
structure Transcript where
  /-- The exit code. -/
  code : Int
  /-- The text that was printed, with what the drawing library has written. -/
  printed : Text := []
  /-- What the drawing library was asked for. -/
  drawn : List DrawCall := []
  /-- The text that the run has printed beside it: a complaint or the log. -/
  aside : Text := []
  /-- The error that nobody has caught, if there is one. -/
  uncaught : Option Crash := none
  /-- The default renderer at the end of the run. -/
  installed : Option Renderer := none
deriving DecidableEq

/-- The exit code of a run whose arguments are wrong. -/
def misuseCode : Int := 2

/-- The exit code of a run with an error that nobody has caught. -/
def uncaughtCode : Int := 1

/-- How a run is concluded that shows something. -/
structure Conclusion where
  /-- The exit code. -/
  code : Int
  /-- What is on the screen. -/
  screen : Screen
  /-- The error that nobody has caught, if there is one. -/
  uncaught : Option Crash := none
deriving DecidableEq

/-- Tells the user about an ending. Nobody catches an error that is raised meanwhile. -/
def tell (mode : DrawingMode) (ending : Ending) (screen : Screen) : Conclusion :=
  match (Display.showAll mode ending.shown).run screen with
  | .ok _ screen => ⟨ending.code, screen, none⟩
  | .error crash screen => ⟨uncaughtCode, screen, some crash⟩

/-- What comes of a list of things to be shown and the ending after them. A display that fails ends
the run in its place. -/
def conclude (mode : DrawingMode) (displays : List Display) (ending : Ending) : Conclusion :=
  match (Display.showAll mode displays).run {} with
  | .ok _ screen => tell mode ending screen
  | .error crash screen => tell mode (.crashed crash) screen

namespace Transcript

/-- All that is printed beside what is shown. An error that nobody has caught is reported there with
its trace, for which the run has no words of its own. -/
def beside (trace : Crash → Text) (t : Transcript) : Text :=
  t.aside ++ (t.uncaught.map trace).getD []

/-- The transcript of a conclusion. -/
def ofConclusion (c : Conclusion) : Transcript where
  code := c.code
  printed := c.screen.printed
  drawn := c.screen.drawn
  uncaught := c.uncaught

/-- The transcript of displays and an ending. -/
def ofShown (mode : DrawingMode) (displays : List Display) (ending : Ending) : Transcript :=
  ofConclusion (conclude mode displays ending)

/-- The transcript of an ending. -/
def ofEnding (mode : DrawingMode) (ending : Ending) : Transcript := ofShown mode [] ending

/-- The transcript of arguments that ask for no command. -/
def ofHalt : Halt → Transcript
  | .help p => { code := ExitCode.success.value, printed := p.help }
  | .version => { code := ExitCode.success.value, printed := versionLine }
  | .misuse p m => { code := misuseCode, aside := m.report p }

end Transcript

/-- The default renderer that the settings ask for. -/
def deviceOf (s : Settings) : Renderer := .device (Profile.ofList s.rendererName s.rendererFormats)

/-- The least level of the log records that are written. -/
def leastLevel (s : Settings) (verbose : Bool) : LogLevel := if verbose then .debug else s.logLevel

/-- The transcript of a command that has been carried out, or has failed. -/
def Transcript.ofReport (mode : DrawingMode) : Except Error Report → Transcript
  | .ok report => ofShown mode report.shown (.ofReport report)
  | .error e => ofEnding mode (.ofError e)

/-- The log records of a command that has been carried out. One that has failed leaves none. -/
def logOf : Except Error Report → List LogRecord
  | .ok report => report.log
  | .error _ => []

/-- Carries out a request under settings: first the default renderer is installed in a new store. -/
def perform (host : Host) (s : Settings) (request : Request) : Transcript :=
  let (event, store) := ({} : Store).step (.install (deviceOf s))
  let report := Report.ofCommand store request.command
  let entries := LogRecord.stamp host.clock (event.log ++ logOf report)
  { Transcript.ofReport host.drawing report with
    aside := LogEntry.write (leastLevel s request.verbose) entries
    installed := store.standard }

/-- Carries out a run. -/
def run (host : Host) (env : Environment) (args : List Text) : Transcript :=
  match Request.ofArgs args with
  | .error halt => .ofHalt halt
  | .ok request =>
    match Settings.load env with
    | .error e => .ofEnding host.drawing (.ofError e)
    | .ok s => perform host s request

end MediaCatalog.CommandLine
