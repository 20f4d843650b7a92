import MediaCatalog.Text.Basic

/-!
# Log records

What the library reports beside its results. A record has a level, the part of the library it comes
from and a message. It is made at some time, which a clock tells, and this time is put in front when
the record is written out. Which records are written is a matter of the least level that is wanted.
-/

namespace MediaCatalog

/-- The level of a log record. -/
inductive LogLevel
  | debug
  | info
  | warning
  | error
  | critical
deriving DecidableEq, Repr

namespace LogLevel

/-- The levels, from the least to the most severe. -/
def all : List LogLevel := [debug, info, warning, error, critical]

/-- The name of a level. -/
def name : LogLevel → Text
  | debug => "DEBUG".toList
  | info => "INFO".toList
  | warning => "WARNING".toList
  | error => "ERROR".toList
  | critical => "CRITICAL".toList

/-- The severity of a level. -/
def severity : LogLevel → Nat
  | debug => 10
  | info => 20
  | warning => 30
  | error => 40
  | critical => 50

/-- The level of a name. -/
def ofName? (name : Text) : Option LogLevel := all.find? fun l => l.name == name

end LogLevel

/-- The part of the library that a log record comes from. -/
inductive LogSource
  | formats
  | renderers
  | commandLine
deriving DecidableEq, Repr

/-- The name of a source of log records. -/
def LogSource.name : LogSource → Text
  | formats => "media_formats.core.format".toList
  | renderers => "media_formats.core.renderers".toList
  | commandLine => "media_formats.cli.app".toList

/-- A log record. -/
structure LogRecord where
  /-- How severe it is. -/
  level : LogLevel
  /-- Where it comes from. -/
  source : LogSource
  /-- What it says. -/
  message : Text
deriving DecidableEq, Repr

/-- A time of the day, with the day. -/
structure Time where
  /-- The year. -/
  year : Nat
  /-- The month, counted from one. -/
  month : Nat
  /-- The day of the month, counted from one. -/
  day : Nat
  /-- The hour. -/
  hour : Nat
  /-- The minute. -/
  minute : Nat
  /-- The second. -/
  second : Nat
deriving DecidableEq, Repr

namespace Time

/-- The time that clocks count from. -/
def epoch : Time := ⟨1970, 1, 1, 0, 0, 0⟩

/-- A time as it is written in a log. -/
def written (t : Time) : Text :=
  Text.join ['-'] [Text.digits 10 4 t.year, Text.digits 10 2 t.month, Text.digits 10 2 t.day]
    ++ ' ' :: Text.join [':'] [Text.digits 10 2 t.hour, Text.digits 10 2 t.minute,
      Text.digits 10 2 t.second]

end Time

/-- What a clock shows each time that it is looked at. -/
abbrev Clock := Nat → Time

/-- A log record with the time at which it was made. -/
structure LogEntry where
  /-- The time. -/
  time : Time
  /-- The record. -/
  record : LogRecord
deriving DecidableEq, Repr

/-- The entries of records that are made one after the other. -/
def LogRecord.stamp (clock : Clock) (records : List LogRecord) : List LogEntry :=
  records.mapIdx fun i r => ⟨clock i, r⟩

namespace LogEntry

/-- What the line of an entry begins with: the time, the source and the level. -/
def header (e : LogEntry) : Text :=
  e.time.written ++ " [".toList ++ e.record.source.name ++ "] ".toList ++ e.record.level.name
    ++ [' ']

/-- An entry as a line, without the line feed. -/
def line (e : LogEntry) : Text := e.header ++ e.record.message

/-- The lines of the entries of at least the given level. -/
def write (least : LogLevel) (entries : List LogEntry) : Text :=
  (entries.filter fun e => least.severity ≤ e.record.level.severity).flatMap fun e =>
    e.line ++ ['\n']

end LogEntry

end MediaCatalog
