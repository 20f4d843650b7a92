import MediaCatalog.Log
import MediaCatalog.Proofs.Text.Lines

/-!
# The lines of a log

A log is the entries of at least the wanted level, in their order and each on a line of its own
(`MediaCatalog.LogEntry.write_eq`). A line begins with a header that is made by the library alone:
the time of the entry, and the source and the level of its record.

What follows the header is the message, in which the user may have had a part. As long as messages
are printable, the log has a line for each entry and no other, so that a reader can tell from the
beginning of a line what it is about (`MediaCatalog.LogEntry.splitLines_written`). The level of an
entry has no part in its time: it was looked up when the record was made.
-/

namespace MediaCatalog

open Text

theorem Time.printable_written (t : Time) : Printable t.written := by
  have hdigits (width n : Nat) : Printable (digits 10 width n) :=
    printable_digits (by decide) (by decide) width n
  have hdash : Printable ['-'] := printable_of_isPlain (by decide)
  have hcolon : Printable [':'] := printable_of_isPlain (by decide)
  have hspace : isPrintable ' ' = true := isPrintable_of_isPlain (by decide)
  exact printable_append_iff.mpr ⟨printable_join hdash (by simp [hdigits]),
    printable_cons_iff.mpr ⟨hspace, printable_join hcolon (by simp [hdigits])⟩⟩

example : Time.epoch.written = "1970-01-01 00:00:00".toList := by decide

/-- The entry of a record has the record that was made. -/
theorem LogRecord.record_mem_of_mem_stamp {clock : Clock} {records : List LogRecord} {e : LogEntry}
    (h : e ∈ stamp clock records) : e.record ∈ records := by
  obtain ⟨i, hi, rfl⟩ := List.mem_mapIdx.mp h
  exact List.getElem_mem hi

namespace LogEntry

/-! ### Which entries are written -/

/-- Entries as they are written, a line for each. -/
def written (entries : List LogEntry) : Text := entries.flatMap fun e => e.line ++ ['\n']

/-- The entries of at least a level, in their order. -/
def atLeast (least : LogLevel) (entries : List LogEntry) : List LogEntry :=
  entries.filter fun e => least.severity ≤ e.record.level.severity

theorem write_eq (least : LogLevel) (entries : List LogEntry) :
    write least entries = written (atLeast least entries) := rfl

/-- No entry is below the least level of all. -/
theorem write_debug (entries : List LogEntry) : write .debug entries = written entries := by
  have hall : atLeast .debug entries = entries := by
    refine List.filter_eq_self.mpr fun e _ => ?_
    cases e.record.level <;> decide
  rw [write_eq, hall]

/-! ### What a line is made of -/

theorem printable_header (e : LogEntry) : Printable e.header := by
  have htime : Printable (e.time.written ++ " [".toList) :=
    printable_append_iff.mpr ⟨e.time.printable_written, printable_of_isPlain (by decide)⟩
  have hsource : Printable (e.record.source.name ++ "] ".toList) := by
    cases e.record.source <;> exact printable_of_isPlain (by decide)
  have hlevel : Printable (e.record.level.name ++ [' ']) := by
    cases e.record.level <;> exact printable_of_isPlain (by decide)
  rw [header, List.append_assoc, List.append_assoc _ e.record.source.name]
  exact printable_append_iff.mpr ⟨printable_append_iff.mpr ⟨htime, hsource⟩, hlevel⟩

/-- **A line for each entry**, and each with the header of its entry: printable messages cannot
start a line. -/
theorem splitLines_written {entries : List LogEntry}
    (h : ∀ e ∈ entries, Printable e.record.message) :
    splitLines (written entries) = entries.map fun e => e.header ++ e.record.message := by
  have hlines : written entries = (entries.map line).flatMap fun t => t ++ ['\n'] := by
    rw [written, List.flatMap_map]
  rw [hlines, splitLines_flatMap]
  · rfl
  · intro t ht
    obtain ⟨e, he, rfl⟩ := List.mem_map.mp ht
    exact printable_append_iff.mpr ⟨e.printable_header, h e he⟩

end LogEntry

end MediaCatalog
