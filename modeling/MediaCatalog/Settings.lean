import MediaCatalog.Catalog

/-!
# Settings

What a run is configured with: the least level of the log records that are written, and the name and
the formats of the default renderer. Each comes from a variable of the environment and has a default
where the variable is unset. A variable that is set but empty is not unset: an empty list of formats
means no formats.
-/

namespace MediaCatalog

/-- The settings of a run. -/
structure Settings where
  /-- The least level of the log records that are written. -/
  logLevel : LogLevel
  /-- The name of the default renderer. -/
  rendererName : Text
  /-- The formats that the default renderer plays, in the order given. -/
  rendererFormats : List FormatId
deriving DecidableEq, Repr

namespace Settings

/-- The level of the log records that are written by default. -/
def defaultLogLevel : LogLevel := .warning

/-- The name of the default renderer by default. -/
def defaultRendererName : Text := "Generic DLNA renderer".toList

/-- The formats of the default renderer by default. -/
def defaultRendererFormats : List FormatId := [.mp3, .flac, .jpg, .mpg, .mkv, .subrip]

/-- The level that a text names, whatever the case and the white space around it. -/
def readLevel (raw : Text) : Except Error LogLevel :=
  match LogLevel.ofName? (Text.upper (Text.trim raw)) with
  | some level => .ok level
  | none => .error (.badLogLevel raw)

/-- The formats that the entries of a list name. The first entry that names none is refused. -/
def readEntries : List Text → Except Error (List FormatId)
  | [] => .ok []
  | entry :: rest =>
    match Catalog.readId entry with
    | .error _ => .error (.badFormatEntry entry)
    | .ok id => (readEntries rest).map (id :: ·)

/-- The formats that a list separated by commas names. Blank entries stand for nothing. -/
def readFormats (raw : Text) : Except Error (List FormatId) :=
  readEntries ((Text.cut ',' raw).filter fun entry => !Text.isBlankText entry)

/-- The settings that an environment asks for. A fault in the formats is reported before one in the
log level. -/
def load (env : Environment) : Except Error Settings := do
  let formats ← match env.rendererFormats with
    | some raw => readFormats raw
    | none => .ok defaultRendererFormats
  let level ← match env.logLevel with
    | some raw => readLevel raw
    | none => .ok defaultLogLevel
  return ⟨level, env.rendererName.getD defaultRendererName, formats⟩

end Settings

end MediaCatalog
