import MediaCatalog.CommandLine.Run
import MediaCatalog.Proofs.Display

/-!
# What a run comes to

A run that has read its request goes one of two ways. Settings that cannot be read end it at once.
Otherwise the default renderer is installed in a new store, the command is carried out there, and
what it reports is shown (`MediaCatalog.CommandLine.perform_eq`).

Either way the run shows a list of displays, to which its ending adds what the user is told about
it. A command comes to one of a few results (`MediaCatalog.CommandLine.outcome_ofCommand`), and all
that these show is presentable (`MediaCatalog.CommandLine.Outcome.presentable`).
-/

namespace MediaCatalog.CommandLine

/-! ### Stages -/

/-- The store in which a command is carried out: no probes, and the default renderer of the
settings. -/
def storeOf (s : Settings) : Store := { standard := some (deviceOf s) }

/-- The log records of a run, whatever their level. -/
def recordsOf (s : Settings) (c : Command) : List LogRecord :=
  Store.installation (deviceOf s) :: logOf (Report.ofCommand (storeOf s) c)

/-- The log entries of a run, whatever their level. -/
def entriesOf (clock : Clock) (s : Settings) (c : Command) : List LogEntry :=
  LogRecord.stamp clock (recordsOf s c)

/-- What is shown of the result of a command. -/
def shownOf : Except Error Report → List Display
  | .ok report => report.shown
  | .error _ => []

/-- The ending that the result of a command comes to. -/
def endingOf : Except Error Report → Ending
  | .ok report => .ofReport report
  | .error e => .ofError e

theorem ofReport_eq (mode : DrawingMode) (result : Except Error Report) :
    Transcript.ofReport mode result = .ofShown mode (shownOf result) (endingOf result) := by
  cases result <;> rfl

/-- **A request under settings** shows what its command reports. The level has a part only in what
is written of the log. -/
theorem perform_eq (host : Host) (s : Settings) (request : Request) :
    perform host s request =
      { Transcript.ofReport host.drawing (Report.ofCommand (storeOf s) request.command) with
        aside := LogEntry.write (leastLevel s request.verbose)
          (entriesOf host.clock s request.command)
        installed := some (deviceOf s) } := rfl

section Run

variable {env : Environment} {args : List Text} {request : Request}

theorem run_of_load {s : Settings} (hargs : Request.ofArgs args = .ok request)
    (hload : Settings.load env = .ok s) (host : Host) :
    run host env args = perform host s request := by
  simp only [run, hargs, hload]

theorem run_of_load_error {e : Error} (hargs : Request.ofArgs args = .ok request)
    (hload : Settings.load env = .error e) (host : Host) :
    run host env args = .ofEnding host.drawing (.ofError e) := by
  simp only [run, hargs, hload]

theorem run_of_halt {halt : Halt} (hargs : Request.ofArgs args = .error halt) (env : Environment)
    (host : Host) : run host env args = .ofHalt halt := by
  simp only [run, hargs]

end Run

/-! ### What is shown is presentable -/

namespace Report

theorem presentable_brokenOff (crash : Crash) (log : List LogRecord) :
    ∀ d ∈ (brokenOff crash log).shown, d.IsPresentable :=
  fun _ hd => absurd hd List.not_mem_nil

/-- The row on skip lists, if there is one, has two cells like the others. -/
theorem length_of_mem_skipRow {p : Probe} {groups : List (Option Text)} {rows : List (List Text)}
    (h : skipRow p groups = .ok rows) : ∀ row ∈ rows, row.length = 2 := by
  cases groups with
  | nil =>
    obtain rfl := Except.ok.inj h
    exact fun row hrow => absurd hrow List.not_mem_nil
  | cons group groups =>
    rw [skipRow] at h
    · cases hverdict : skipVerdict p (group :: groups) with
      | error crash =>
        rw [hverdict] at h
        exact nomatch h
      | ok skipped =>
        rw [hverdict] at h
        obtain rfl := Except.ok.inj h
        exact fun row hrow => by rw [List.mem_singleton.mp hrow]; rfl
    · exact fun hnil => nomatch hnil

theorem presentable_ofTest (name : Text) (groups : List (Option Text)) (matched : Bool)
    (p : Probe) : ∀ d ∈ (ofTest name groups matched p).shown, d.IsPresentable := by
  cases hskip : skipRow p groups with
  | error crash =>
    simp only [ofTest, hskip]
    exact presentable_brokenOff _ _
  | ok rows =>
    simp only [ofTest, hskip]
    refine List.forall_mem_singleton.mpr fun row hrow => ?_
    rcases List.mem_append.mp hrow with hmatch | hrows
    · have hlength : ∀ row ∈ matchRows name matched p, row.length = 2 := by
        simp [matchRows]
      exact hlength row hmatch
    · exact length_of_mem_skipRow hskip row hrows

theorem presentable_types : ∀ d ∈ types.shown, d.IsPresentable := by
  refine List.forall_mem_singleton.mpr fun row hrow => ?_
  obtain ⟨entry, -, rfl⟩ := List.mem_map.mp hrow
  rfl

end Report

/-! ### What a command comes to -/

/-- The format that a command works on, if it works on one, and the text of its name, if that has
one. -/
def Command.format? : Command → Option (Option Text)
  | .matching _ format _ | .compatible _ format => some format
  | .types | .coverSupplier _ => none

/-- What a command comes to where the default renderer is that of the settings. -/
inductive Outcome (s : Settings) : Command → Except Error Report → Prop
  /-- The name of the format lacks a text. -/
  | formatMissing {c : Command} (hformat : c.format? = some none) :
    Outcome s c (.ok (Report.brokenOff Report.formatTextMissing []))
  /-- The name of the format cannot be looked up. -/
  | formatUnknown {c : Command} {format : Text} {e : Error}
    (hformat : c.format? = some (some format)) (hlookup : Catalog.lookup format = .error e) :
    Outcome s c (.error e)
  /-- A name is tested. -/
  | tested {name format : Text} {groups : List (Option Text)} {f : Format}
    (hlookup : Catalog.lookup format = .ok f) :
    Outcome s (.matching name (some format) groups) (.ok (Report.matching name f groups))
  /-- The default renderer is asked. -/
  | asked {name format : Text} {f : Format} (hlookup : Catalog.lookup format = .ok f) :
    Outcome s (.compatible name (some format)) (.ok (Report.compatible name f (deviceOf s)))
  /-- The categories are listed. -/
  | listed : Outcome s .types (.ok Report.types)
  /-- A supplier is named, with the number that it is stored as. -/
  | named {value : Text} {supplier : Supplier} {stored : Int}
    (hsupplier : Supplier.ofSetting (.text value) Report.defaultSupplier = supplier)
    (hstored : supplier.toStored = .ok stored) :
    Outcome s (.coverSupplier value) (.ok { shown := [.message
      (supplier.label ++ " (".toList ++ Text.ofInt stored ++ [')'])] })

/-- **A command comes to one of these.** It is refused only where a format cannot be looked up. -/
theorem outcome_ofCommand (s : Settings) (c : Command) :
    Outcome s c (Report.ofCommand (storeOf s) c) := by
  -- A test and a question to the renderer start alike, with the look-up of a format.
  have onFormat {format : Option Text} (report : Format → Except Error Report)
      (hformat : c.format? = some format)
      (hreport : ∀ name f, format = some name → Catalog.lookup name = .ok f →
        Outcome s c (report f)) : Outcome s c (Report.onFormat format report) := by
    cases format with
    | none => exact .formatMissing hformat
    | some name =>
      cases hlookup : Catalog.lookup name with
      | error e =>
        simp only [Report.onFormat, hlookup, bind, Except.bind]
        exact .formatUnknown hformat hlookup
      | ok f =>
        simp only [Report.onFormat, hlookup, bind, Except.bind]
        exact hreport name f rfl hlookup
  cases c with
  | matching name format groups =>
    refine onFormat _ rfl fun format f heq hlookup => ?_
    subst heq
    exact .tested hlookup
  | compatible name format =>
    refine onFormat _ rfl fun format f heq hlookup => ?_
    subst heq
    exact .asked hlookup
  | types => exact .listed
  | coverSupplier value =>
    have hstored := (Supplier.ofSetting (.text value) Report.defaultSupplier).toStored_eq
    simp only [Report.ofCommand, Report.coverSupplier, hstored, bind, Except.bind]
    exact .named rfl hstored

theorem Outcome.presentable {s : Settings} {c : Command} {result : Except Error Report}
    (h : Outcome s c result) : ∀ d ∈ shownOf result, d.IsPresentable := by
  cases h with
  | formatMissing => exact Report.presentable_brokenOff _ _
  | formatUnknown => exact fun _ hd => absurd hd List.not_mem_nil
  | tested => exact Report.presentable_ofTest _ _ _ _
  | asked => exact List.forall_mem_singleton.mpr trivial
  | listed => exact Report.presentable_types
  | named => exact List.forall_mem_singleton.mpr trivial

/-! ### Endings -/

/-- The user is told about an ending in messages. -/
theorem Ending.presentable_shown (e : Ending) : ∀ d ∈ e.shown, d.IsPresentable := by
  cases e with
  | finished code => exact fun _ hd => absurd hd List.not_mem_nil
  | refused message hint =>
    refine List.forall_mem_cons.mpr ⟨trivial, ?_⟩
    rw [hintShown.eq_def]
    split
    · exact fun _ hd => absurd hd List.not_mem_nil
    · exact fun _ hd => absurd hd List.not_mem_nil
    · exact List.forall_mem_singleton.mpr trivial
  | interrupted => exact List.forall_mem_singleton.mpr trivial
  | crashed c => exact List.forall_mem_singleton.mpr trivial

end MediaCatalog.CommandLine
