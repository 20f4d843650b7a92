import MediaCatalog.Proofs.CommandLine.Drawing
import MediaCatalog.Proofs.CommandLine.Start
import MediaCatalog.Proofs.Log
import MediaCatalog.Proofs.Settings

/-!
# Verbosity

A run makes its log records whatever their level is. The level of the settings and the switch for a
verbose log only have a part in which of them are written, at the very end: everything else that a
run leaves is the same (`MediaCatalog.CommandLine.perform_withLevel`).

So of two runs on the same command, in environments that have all but the level in common and with
the switch or without, the one that writes all its records tells what the other writes: the records
of at least its level, in the same order and with the same times
(`MediaCatalog.CommandLine.run_verbosity`).
-/

namespace MediaCatalog

/-- Environments that differ in the level ask for settings that differ in the level. -/
theorem Settings.eq_of_load {env env' : Environment}
    (henv : env' = { env with logLevel := env'.logLevel }) {s s' : Settings}
    (hload : load env = .ok s) (hload' : load env' = .ok s') :
    s' = { s with logLevel := s'.logLevel } := by
  rw [henv] at hload'
  obtain ⟨hformats, -, hname⟩ := load_eq_ok_iff.mp hload
  obtain ⟨hformats', -, hname'⟩ := load_eq_ok_iff.mp hload'
  have hsame := Except.ok.inj (hformats'.symm.trans hformats)
  rw [mk.injEq]
  exact ⟨rfl, hname'.trans hname.symm, hsame⟩

namespace CommandLine

/-- **The level has a part only in what is written of the log.** -/
theorem perform_withLevel (host : Host) (s : Settings) (level : LogLevel) (verbose : Bool)
    (c : Command) :
    perform host { s with logLevel := level } ⟨verbose, c⟩ =
      { perform host s ⟨false, c⟩ with
        aside := LogEntry.write (if verbose then .debug else level)
          (entriesOf host.clock s c) } := rfl

section Run

variable {c : CommandName} {rest : List Text} {request : Request} {env env' : Environment}
  {s s' : Settings}

/-- A run with or without the switch reads a request for the same command. -/
theorem ofArgs_start (hargs : Request.ofArgs (c.spelling :: rest) = .ok request) (verbose : Bool) :
    Request.ofArgs (verboseArgs verbose ++ c.spelling :: rest) =
      .ok ⟨verbose, request.command⟩ := by
  have hplain : Request.ofArgs (verboseArgs false ++ c.spelling :: rest) = .ok request := hargs
  obtain ⟨hprogram, hpage, -⟩ := ofArgs_start_eq_ok_iff.mp hplain
  exact ofArgs_start_eq_ok_iff.mpr ⟨hprogram, hpage, rfl⟩

/-- **Verbosity has a part in the log alone.** Of a command that is run twice, in environments that
have all but the level in common, and each time with or without the switch for a verbose log,

* both runs end alike, show the same and install the same renderer;
* the switch and the least level of all lead to the same log;
* a run with either of them writes all entries of the run, and the other run writes, in the same
  order, those of at least its own level;
* the log is all that is printed beside what is shown, as long as the drawing library draws what it
  is handed. -/
theorem run_verbosity (hargs : Request.ofArgs (c.spelling :: rest) = .ok request)
    (henv : env' = { env with logLevel := env'.logLevel }) (hload : Settings.load env = .ok s)
    (hload' : Settings.load env' = .ok s') (host : Host) (verbose verbose' : Bool) :
    let t := run host env (verboseArgs verbose ++ c.spelling :: rest)
    let t' := run host env' (verboseArgs verbose' ++ c.spelling :: rest)
    let entries := entriesOf host.clock s request.command
    (t'.code = t.code ∧ t'.printed = t.printed ∧ t'.drawn = t.drawn ∧
      t'.uncaught = t.uncaught ∧ t'.installed = t.installed) ∧
    (verbose = true → s'.logLevel = .debug → t'.aside = t.aside) ∧
    (verbose' = true ∨ s'.logLevel = .debug → t'.aside = LogEntry.written entries) ∧
    t.aside = LogEntry.written (LogEntry.atLeast (leastLevel s verbose) entries) ∧
    (host.drawing.Draws t.drawn → ∀ trace,
      t.beside trace = t.aside ∧ t'.beside trace = t'.aside) := by
  intro t t' entries
  have hverbose := ofArgs_start hargs verbose
  have hverbose' := ofArgs_start hargs verbose'
  have ht : t = perform host s ⟨verbose, request.command⟩ := run_of_load hverbose hload host
  -- The second run is the first one, but for what it writes of the entries.
  have ht' : t' = { perform host s ⟨false, request.command⟩ with
      aside := LogEntry.write (leastLevel s' verbose') entries } := by
    have hsettings := Settings.eq_of_load henv hload hload'
    have hperform : t' = perform host s' ⟨verbose', request.command⟩ :=
      run_of_load hverbose' hload' host
    rw [hperform, hsettings]
    exact perform_withLevel host s s'.logLevel verbose' request.command
  have hdrawn : t'.drawn = t.drawn := by
    rw [ht, ht']
    rfl
  have haside : t.aside = LogEntry.write (leastLevel s verbose) entries := by
    rw [ht, perform_eq]
  have haside' (hall : verbose' = true ∨ s'.logLevel = .debug) :
      t'.aside = LogEntry.written entries := by
    have hleast : leastLevel s' verbose' = .debug := by
      rw [leastLevel]
      rcases hall with rfl | hlevel
      · rfl
      · rw [hlevel, ite_self]
    rw [ht', hleast]
    exact LogEntry.write_debug entries
  refine ⟨?_, fun hverbose hlevel => ?_, haside', haside.trans (LogEntry.write_eq _ _),
    fun hdraws trace => ⟨beside_run hverbose env hdraws trace, ?_⟩⟩
  · rw [ht, ht']
    exact ⟨rfl, rfl, rfl, rfl, rfl⟩
  · rw [haside' (Or.inr hlevel), haside, hverbose]
    exact (LogEntry.write_debug entries).symm
  · rw [← hdrawn] at hdraws
    exact beside_run hverbose' env' hdraws trace

end Run

/-- The arguments of a test after the name of the command. -/
def testArgs : List Text := ["a.mp3".toList, "-fmp3".toList]

/-- A test at the level of its own record, and the same test with the switch. -/
theorem run_verbosity_info :
    let host : Host := { drawing := .present .silent }
    let t := run host { logLevel := some " info".toList }
      (verboseArgs false ++ CommandName.matching.spelling :: testArgs)
    let t' := run host {} (verboseArgs true ++ CommandName.matching.spelling :: testArgs)
    t'.code = t.code ∧ t'.drawn = t.drawn ∧ t'.aside ≠ t.aside ∧
      (∀ trace, t.beside trace = ("1970-01-01 00:00:00 [media_formats.cli.app] INFO ".toList ++
        "Matched 'a.mp3' against MP3: True\n".toList)) := by
  intro host t t'
  have hargs : Request.ofArgs (CommandName.matching.spelling :: testArgs) =
      .ok ⟨false, .matching "a.mp3".toList (some "mp3".toList) []⟩ := by decide +kernel
  have hload : Settings.load { logLevel := some " info".toList } =
      .ok ⟨.info, Settings.defaultRendererName, Settings.defaultRendererFormats⟩ := by
    decide +kernel
  have hload' : Settings.load {} =
      .ok ⟨.warning, Settings.defaultRendererName, Settings.defaultRendererFormats⟩ := rfl
  obtain ⟨⟨hcode, -, hdrawn, -⟩, -, hall, hinfo, hbeside⟩ :=
    run_verbosity hargs rfl hload hload' host false true
  refine ⟨hcode, hdrawn, ?_, fun trace => ?_⟩
  · rw [hall (Or.inl rfl), hinfo]
    decide +kernel
  · have hdraws : host.drawing.Draws t.drawn := DrawingMode.draws_silent _
    rw [(hbeside hdraws trace).1, hinfo]
    decide +kernel

end CommandLine

end MediaCatalog
