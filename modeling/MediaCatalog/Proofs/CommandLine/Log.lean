import MediaCatalog.Proofs.CommandLine.Match
import MediaCatalog.Proofs.Log

/-!
# The log of a run

Two things that a user has written come into the log of a run: the name of the default renderer,
which is in the record of its installation, and the name of a resource, which is in the record of a
test. Both are quoted there, and everything else in a message is the library's own, so that every
message is printable (`MediaCatalog.CommandLine.printable_recordsOf`).

So the log of a run has a line for each of its records and no other, whatever the arguments and the
environment hold (`MediaCatalog.CommandLine.run_log_lines`): nobody can write a line into the log
that looks like one of another record. The log is all that is printed beside what a run shows,
unless the drawing library raises an error that nobody catches. What is reported of that after the
log is not up to the run.
-/

namespace MediaCatalog

open Text

/-! ### Renderers in the log -/

theorem FormatId.printable_written (i : FormatId) : Printable i.written := by
  have hplain : ∀ i ∈ FormatId.byName, i.written.all isPlain = true := by decide +kernel
  exact printable_of_isPlain (hplain i (FormatSet.mem_byName i))

theorem FormatSet.printable_written (s : FormatSet) : Printable s.written := by
  rw [FormatSet.written]
  split
  · exact printable_of_isPlain (by decide)
  · have hmembers : ∀ t ∈ s.toList.map FormatId.written, Printable t := by
      intro t ht
      obtain ⟨i, -, rfl⟩ := List.mem_map.mp ht
      exact i.printable_written
    rw [printable_append_iff, printable_append_iff]
    exact ⟨⟨printable_of_isPlain (by decide),
      printable_join (printable_of_isPlain (by decide)) hmembers⟩, printable_of_isPlain (by decide)⟩

/-- The name of a device is quoted in the log, so that the device is printable there. -/
theorem Profile.printable_written (p : Profile) : Printable p.written := by
  have hstart : Printable ("RendererConfiguration(name=".toList ++ quote p.name) :=
    printable_append_iff.mpr ⟨printable_of_isPlain (by decide), printable_quote p.name⟩
  have hsupported : Printable ", supported=".toList := printable_of_isPlain (by decide)
  have hend : Printable [')'] := printable_of_isPlain (by decide)
  unfold Profile.written
  rw [printable_append_iff, printable_append_iff, printable_append_iff]
  exact ⟨⟨⟨hstart, hsupported⟩, p.supported.printable_written⟩, hend⟩

namespace CommandLine

/-! ### The records of a run -/

theorem Report.log_ofTest (name : Text) (groups : List (Option Text)) (matched : Bool) (p : Probe) :
    (ofTest name groups matched p).log = [tested name matched p] := by
  rw [ofTest]
  split <;> rfl

theorem Report.printable_tested {p : Probe} (hp : Printable p.format.name) (name : Text)
    (matched : Bool) : Printable (tested name matched p).message := by
  have hname : Printable ("Matched ".toList ++ quote name) :=
    printable_append_iff.mpr ⟨printable_of_isPlain (by decide), printable_quote name⟩
  have hagainst : Printable " against ".toList := printable_of_isPlain (by decide)
  have hcolon : Printable ": ".toList := printable_of_isPlain (by decide)
  have hmatched : Printable (trueFalse matched) := by
    cases matched <;> exact printable_of_isPlain (by decide)
  rw [tested, printable_append_iff, printable_append_iff, printable_append_iff,
    printable_append_iff]
  exact ⟨⟨⟨⟨hname, hagainst⟩, hp⟩, hcolon⟩, hmatched⟩

/-- The record of a test against a declared format is all that a command leaves in the log. -/
theorem Outcome.printable_log {s : Settings} {c : Command} {result : Except Error Report}
    (h : Outcome s c result) : ∀ r ∈ logOf result, Printable r.message := by
  cases h with
  | @tested name format groups f hlookup =>
    have hplain : ∀ f ∈ Catalog.formats, f.name.all isPlain = true := by decide
    have hname : Printable f.name :=
      printable_of_isPlain (hplain f (Catalog.mem_formats_of_lookup hlookup))
    rw [logOf, Report.matching_eq, Report.log_ofTest]
    exact List.forall_mem_singleton.mpr (Report.printable_tested hname _ _)
  | formatMissing | formatUnknown | asked | listed | named =>
    exact List.forall_mem_nil _

/-- **Every record of a run has a printable message**, whatever the settings and the command. -/
theorem printable_recordsOf (s : Settings) (c : Command) :
    ∀ r ∈ recordsOf s c, Printable r.message := by
  refine List.forall_mem_cons.mpr ⟨?_, (outcome_ofCommand s c).printable_log⟩
  have hdevice : Printable (deviceOf s).written := Profile.printable_written _
  exact printable_append_iff.mpr ⟨printable_of_isPlain (by decide), hdevice⟩

/-! ### The log -/

/-- The log entries that a run on a request writes: those of at least the level that is wanted, and
none where the settings cannot be read. -/
def emitted (clock : Clock) (env : Environment) (request : Request) : List LogEntry :=
  match Settings.load env with
  | .ok s => LogEntry.atLeast (leastLevel s request.verbose) (entriesOf clock s request.command)
  | .error _ => []

theorem printable_emitted (clock : Clock) (env : Environment) (request : Request) :
    ∀ e ∈ emitted clock env request, Printable e.record.message := by
  intro e he
  rw [emitted] at he
  cases hload : Settings.load env with
  | error _ =>
    simp only [hload] at he
    exact absurd he List.not_mem_nil
  | ok s =>
    simp only [hload] at he
    have hrecord := LogRecord.record_mem_of_mem_stamp (List.mem_filter.mp he).1
    exact printable_recordsOf s request.command e.record hrecord

section Run

variable {args : List Text} {request : Request}

/-- What a run prints beside the answer to a request is its log. -/
theorem aside_run (hargs : Request.ofArgs args = .ok request) (host : Host)
    (env : Environment) :
    (run host env args).aside = LogEntry.written (emitted host.clock env request) := by
  rw [emitted]
  cases hload : Settings.load env with
  | error e =>
    rw [run_of_load_error hargs hload]
    rfl
  | ok s =>
    rw [run_of_load hargs hload, perform_eq]
    rfl

/-- **The log has a line for each record and no other.** Whatever the arguments and the environment
hold, what a run prints beside its answer are the entries that it emits. Where it is divided into
lines, at any character that ends a line, each entry is a line of its own, which begins with the
time of the entry and with the source and the level of its record. As long as the drawing library
draws what the run hands to it, nothing else is printed there. -/
theorem run_log_lines (hargs : Request.ofArgs args = .ok request) (host : Host)
    (env : Environment) :
    let t := run host env args
    let entries := emitted host.clock env request
    (t.aside = LogEntry.written entries ∧
      splitLines t.aside = entries.map (fun e => e.header ++ e.record.message) ∧
      ∀ e ∈ entries, Printable e.record.message) ∧
    (host.drawing.Draws t.drawn → ∀ trace, t.beside trace = t.aside) := by
  intro t entries
  have haside : t.aside = LogEntry.written entries := aside_run hargs host env
  have hprintable : ∀ e ∈ entries, Printable e.record.message :=
    printable_emitted host.clock env request
  refine ⟨⟨haside, ?_, hprintable⟩, fun hdraws => beside_run hargs env hdraws⟩
  rw [haside, LogEntry.splitLines_written hprintable]

end Run

/-- A device whose name holds line breaks, and after one what looks like a level. -/
def forger : Environment where
  logLevel := some "debug".toList
  rendererName := some "X\r\nERROR\x0b".toList
  rendererFormats := some []

/-- A clock that shows the same day and minute, and one second more each time that it is looked
at. -/
def ticking : Clock := fun i => ⟨2024, 2, 29, 23, 59, i⟩

/-- A name with a line separator is tested, and there are two lines in the log. -/
theorem run_log_lines_forger :
    let args := ["match", "a\n\u2028.mp3", "--format", "MP3", "--skip", "\r"].map String.toList
    let host : Host := { drawing := .present .silent, clock := ticking }
    Request.ofArgs args =
        .ok ⟨false, .matching "a\n\u2028.mp3".toList (some "MP3".toList) [some ['\r']]⟩ ∧
      host.drawing.Draws (run host forger args).drawn ∧
      (∀ trace, (run host forger args).beside trace = (run host forger args).aside) ∧
      splitLines (run host forger args).aside = [
        "2024-02-29 23:59:00 [media_formats.core.renderers] DEBUG Default renderer set to ".toList
          ++ "RendererConfiguration(name='X\\r\\nERROR\\x0b', supported=frozenset())".toList,
        "2024-02-29 23:59:01 [media_formats.cli.app] INFO ".toList
          ++ "Matched 'a\\n\\u2028.mp3' against MP3: True".toList] := by
  intro args host
  have hargs : Request.ofArgs args =
      .ok ⟨false, .matching "a\n\u2028.mp3".toList (some "MP3".toList) [some ['\r']]⟩ := by
    decide +kernel
  have hsilent : ∀ calls, host.drawing.Draws calls := DrawingMode.draws_silent
  obtain ⟨⟨-, hlines, -⟩, hbeside⟩ := run_log_lines hargs host forger
  refine ⟨hargs, hsilent _, hbeside (hsilent _), hlines.trans ?_⟩
  decide +kernel

end CommandLine

end MediaCatalog
