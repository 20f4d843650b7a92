import MediaCatalog.Environment
import MediaCatalog.FormatId
import MediaCatalog.Log

/-!
# Errors

The causes for which the library refuses, each with the data it has to name. The wording is in one
place: a message, and for some causes a hint at what to do about it.
-/

namespace MediaCatalog

/-- The cause of a refusal. -/
inductive Error
  /-- No identifier has this name. -/
  | unknownName (name : Text)
  /-- The identifier is known, but no format is declared for it. -/
  | undeclared (id : FormatId)
  /-- A probe of the named format could not be copied. -/
  | notCopied (format : Text) (reason : Text)
  /-- A cover supplier has a code without a meaning. -/
  | unknownSupplier (label : Text) (code : Int)
  /-- No default renderer is installed. -/
  | noRenderer
  /-- The variable with the renderer's formats holds an entry that names none. -/
  | badFormatEntry (entry : Text)
  /-- The variable with the log level holds something else. -/
  | badLogLevel (raw : Text)
  /-- The library that draws tables is not installed. -/
  | noDrawing
deriving DecidableEq, Repr

namespace Error

/-- What is said about a name that no identifier has. -/
def unknownNameMessage (name : Text) : Text := "Unknown format identifier: ".toList ++ name

/-- What is said about an error. -/
def message : Error → Text
  | unknownName name => unknownNameMessage name
  | undeclared id => "No format variant is declared for ".toList ++ id.name ++ ['.']
  | notCopied format reason =>
    "Could not duplicate format ".toList ++ format ++ ": ".toList ++ reason
  | unknownSupplier label code =>
    "CoverSupplier ".toList ++ label ++ ", ".toList ++ Text.ofInt code ++ " is unknown.".toList
  | noRenderer => "No default renderer is configured.".toList
  | badFormatEntry entry =>
    "Invalid format in ".toList ++ Variable.rendererFormats.name ++ ": ".toList
      ++ unknownNameMessage entry
  | badLogLevel raw =>
    "Invalid log level in ".toList ++ Variable.logLevel.name ++ ": ".toList ++ raw
  | noDrawing => "rich is not installed. Install with: pip install rich".toList

/-- What can be done about an error, where there is something to say. -/
def hint : Error → Option Text
  | unknownName _ | badFormatEntry _ =>
    some "Identifier names are case-insensitive, e.g. MP3 or MKV.".toList
  | noRenderer =>
    some "Call set_default_renderer() at startup or pass a renderer.".toList
  | badLogLevel _ =>
    some ("Use one of: ".toList ++ Text.join [',', ' '] (LogLevel.all.map LogLevel.name))
  | undeclared _ | notCopied .. | unknownSupplier .. | noDrawing => none

end Error

end MediaCatalog
