import MediaCatalog.Text.Basic

/-!
# The environment

The three variables that configure a run, each of which may be unset.
-/

namespace MediaCatalog

/-- A variable that configures a run. -/
inductive Variable
  | logLevel
  | rendererName
  | rendererFormats
deriving DecidableEq, Repr

namespace Variable

/-- The variables. -/
def all : List Variable := [logLevel, rendererName, rendererFormats]

/-- The name of a variable. -/
def name : Variable → Text
  | logLevel => "MEDIA_FORMATS_LOG_LEVEL".toList
  | rendererName => "MEDIA_FORMATS_RENDERER_NAME".toList
  | rendererFormats => "MEDIA_FORMATS_RENDERER_FORMATS".toList

end Variable

/-- The values of the variables, as far as they are set. -/
structure Environment where
  /-- The least level of the log records that are written. -/
  logLevel : Option Text := none
  /-- The name of the default renderer. -/
  rendererName : Option Text := none
  /-- The formats that the default renderer plays, separated by commas. -/
  rendererFormats : Option Text := none
deriving DecidableEq, Repr

end MediaCatalog
