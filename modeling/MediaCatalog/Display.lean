import MediaCatalog.Error
import MediaCatalog.Table

/-!
# What is shown to the user

A run shows messages and tables. Where a library that draws on the terminal is installed, it is
asked to draw them; where it is not, they are printed plainly. A message may carry style tags in
square brackets, which only the drawing library takes for tags.

The library is not a part of the catalogue. What it writes is its own affair, and so is whether it
raises an error: it reads the tags in whatever it is handed, the user's texts included, and may come
upon one that it cannot make sense of. So showing something may break off halfway. What is on the
screen then stays there.
-/

namespace MediaCatalog

/-- An error that nobody has foreseen: its kind and what it says. -/
structure Crash where
  /-- The kind of error. -/
  kind : Text
  /-- What it says. -/
  text : Text
deriving DecidableEq, Repr

/-- A row of a table has no cell for some column. -/
def Crash.shortRow : Crash := ⟨"IndexError".toList, "list index out of range".toList⟩

/-! ### The drawing library -/

/-- The style of a drawn table. -/
structure TableStyle where
  /-- Whether the headers are shown. -/
  showHeader : Bool := true
  /-- The style of the headers. -/
  header : Text := "bold cyan".toList
  /-- The style of the borders. -/
  border : Text := "dim".toList
deriving DecidableEq, Repr

/-- What the drawing library is asked for. -/
inductive DrawCall
  /-- Start a table. -/
  | table (title : Text) (style : TableStyle)
  /-- Add a column to the table. -/
  | column (header : Text) (style : Option Text)
  /-- Add a row to the table. -/
  | row (cells : List Text)
  /-- Print an empty line. -/
  | printBlank
  /-- Print a message, its style tags included. -/
  | printMessage (message : Text)
  /-- Print the table. -/
  | printTable
deriving DecidableEq, Repr

/-- What comes of asking the drawing library for something. -/
structure Response where
  /-- What it writes on the terminal. -/
  written : Text := []
  /-- The error that it raises, if it raises one. -/
  fault : Option Crash := none
deriving DecidableEq, Repr

/-- A library that draws on the terminal. Its response may depend on all that it has been asked for
before, such as the rows of the table that it is to print. -/
structure DrawingLibrary where
  /-- What comes of a call after other calls. -/
  respond : List DrawCall → DrawCall → Response

/-- The library that writes nothing and raises no error. -/
def DrawingLibrary.silent : DrawingLibrary := ⟨fun _ _ => {}⟩

/-- Whether a library that draws on the terminal is installed. -/
inductive DrawingMode
  /-- There is none. -/
  | absent
  /-- There is one. -/
  | present (library : DrawingLibrary)

/-- What is needed of the drawing library. -/
inductive DrawingTool
  | table
  | console
deriving DecidableEq, Repr

namespace DrawingTool

/-- The name of a tool. -/
def name : DrawingTool → Text
  | table => "Table".toList
  | console => "Console".toList

/-- A tool and the library that it belongs to, where that is installed. -/
def load (mode : DrawingMode) (tool : DrawingTool) : Except Error (DrawingTool × DrawingLibrary) :=
  match mode with
  | .present library => .ok (tool, library)
  | .absent => .error .noDrawing

end DrawingTool

/-! ### Showing -/

/-- What has been shown: the text that was printed, and what the drawing library was asked for. -/
structure Screen where
  /-- The printed text, with what the drawing library has written. -/
  printed : Text := []
  /-- What the drawing library was asked for. -/
  drawn : List DrawCall := []
deriving DecidableEq, Repr

namespace Screen

/-- What is shown by one and then by another. -/
def append (s t : Screen) : Screen := ⟨s.printed ++ t.printed, s.drawn ++ t.drawn⟩

/-- A screen with these lines printed. -/
def ofLines (lines : List Text) : Screen := ⟨lines.flatMap (· ++ ['\n']), []⟩

end Screen

/-- Showing something on a screen. What has been shown stays if that breaks off with an error. -/
abbrev Showing := EStateM Crash Screen

namespace Showing

/-- Prints lines. -/
def print (lines : List Text) : Showing Unit := modify (·.append (Screen.ofLines lines))

/-- Asks the drawing library for something, after all that it has been asked for. -/
def ask (library : DrawingLibrary) (call : DrawCall) : Showing Unit := do
  let screen ← get
  let response := library.respond screen.drawn call
  set (screen.append ⟨response.written, [call]⟩)
  match response.fault with
  | some crash => throw crash
  | none => return

/-- What is left on an empty screen, and the error, if showing breaks off. -/
def result (p : Showing Unit) : Screen × Option Crash :=
  match p.run {} with
  | .ok _ screen => (screen, none)
  | .error crash screen => (screen, some crash)

end Showing

namespace Table

/-- How a table is drawn: the first column is in bold. -/
def drawing (t : Table) : List DrawCall :=
  .table t.title {}
    :: (t.headers.zipIdx.map fun (header, i) =>
        .column header (if i = 0 then some "bold".toList else none))
    ++ t.rows.map .row ++ [.printBlank, .printTable, .printBlank]

end Table

/-- What a run shows. -/
inductive Display
  /-- A message, with or without style tags. -/
  | message (text : Text)
  /-- A table. -/
  | table (t : Table)
deriving DecidableEq, Repr

namespace Display

/-- What is needed to draw a display. -/
def tool : Display → DrawingTool
  | message _ => .console
  | table _ => .table

/-- What the library is asked for to draw a display. -/
def calls : Display → List DrawCall
  | message text => [.printMessage text]
  | table t => t.drawing

/-- The lines that are printed where a display is not drawn, unless a row of a table is too
short. -/
def lines? : Display → Option (List Text)
  | message text => some [text]
  | table t => t.lines

/-- Shows a display: it is drawn by the library or, where that is not installed, printed plainly. -/
def showing (mode : DrawingMode) (d : Display) : Showing Unit :=
  match DrawingTool.load mode d.tool with
  | .ok (_, library) => forM d.calls (Showing.ask library)
  | .error _ =>
    match d.lines? with
    | some lines => Showing.print lines
    | none => throw Crash.shortRow

/-- Shows several displays, one after the other, up to the first that fails. -/
def showAll (mode : DrawingMode) (displays : List Display) : Showing Unit :=
  forM displays (showing mode)

end Display

end MediaCatalog
