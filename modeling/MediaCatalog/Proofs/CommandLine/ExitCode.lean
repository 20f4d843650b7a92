import MediaCatalog.Proofs.CommandLine.Drawing
import MediaCatalog.Proofs.CommandLine.MissingText
import MediaCatalog.Proofs.Settings

/-!
# Exit codes

How a run ends can be told from its request, from whether the settings can be read, and from the
catalogue (`MediaCatalog.CommandLine.exit_code_iff`). It is refused because the settings cannot be
read or the format cannot be looked up, and for no other reason; a name that does not match has a
code of its own; and all else is a success, were it not for values that lack a text
(`MediaCatalog.CommandLine.exit_code_attached_mark`). Whether there is a library that draws has no
part in it, as long as that library raises no error at what it is handed
(`MediaCatalog.DrawingMode.Draws`).
-/

namespace MediaCatalog

theorem Catalog.isAboutInput_of_lookup {name : Text} {e : Error} (h : lookup name = .error e) :
    e.isAboutInput = true := by
  simp only [lookup, bind, Except.bind, readId, format] at h
  split at h
  · next hread =>
    split at hread
    · cases hread
    · obtain rfl := Except.error.inj hread
      obtain rfl := Except.error.inj h
      rfl
  · split at h
    · cases h
    · obtain rfl := Except.error.inj h
      rfl

namespace CommandLine

/-! ### What ends a run -/

namespace Command

/-- A command names a format that cannot be looked up. -/
def FormatUnknown (c : Command) : Prop :=
  ∃ format e, c.format? = some (some format) ∧ Catalog.lookup format = .error e

/-- A command tests a name in which the format finds nothing. -/
def Unmatched (c : Command) : Prop :=
  ∃ name format groups f, c = .matching name (some format) groups ∧
    Catalog.lookup format = .ok f ∧ f.find (some name) = none

variable {c : Command}

theorem not_formatUnknown_of_lookup {format : Text} {f : Format}
    (hformat : c.format? = some (some format)) (hlookup : Catalog.lookup format = .ok f) :
    ¬ c.FormatUnknown := by
  rintro ⟨format', e, hformat', hlookup'⟩
  obtain rfl : format = format' := by simpa using hformat.symm.trans hformat'
  exact nomatch hlookup.symm.trans hlookup'

theorem FormatUnknown.not_unmatched (h : c.FormatUnknown) : ¬ c.Unmatched := by
  rintro ⟨name, format, groups, f, rfl, hlookup, -⟩
  exact not_formatUnknown_of_lookup rfl hlookup h

theorem FormatUnknown.not_breaksOff (h : c.FormatUnknown) : ¬ c.BreaksOff := by
  intro hbreaks
  cases hbreaks with
  | format hnone =>
    obtain ⟨format, e, hformat, -⟩ := h
    exact nomatch hnone.symm.trans hformat
  | skip hlookup => exact not_formatUnknown_of_lookup rfl hlookup h

theorem Unmatched.not_breaksOff (h : c.Unmatched) : ¬ c.BreaksOff := by
  obtain ⟨name, format, groups, f, rfl, hlookup, hfind⟩ := h
  intro hbreaks
  cases hbreaks with
  | format hnone => exact nomatch hnone
  | skip hlookup' hfound =>
    obtain rfl := Except.ok.inj (hlookup.symm.trans hlookup')
    exact nomatch hfind.symm.trans hfound

end Command

/-- A command that comes to a report does not name a format that cannot be looked up. -/
theorem Outcome.not_formatUnknown {s : Settings} {c : Command} {report : Report}
    (h : Outcome s c (.ok report)) : ¬ c.FormatUnknown := by
  cases h with
  | formatMissing hnone =>
    rintro ⟨format, e, hformat, -⟩
    exact nomatch hnone.symm.trans hformat
  | tested hlookup => exact Command.not_formatUnknown_of_lookup rfl hlookup
  | asked hlookup => exact Command.not_formatUnknown_of_lookup rfl hlookup
  | listed | named =>
    rintro ⟨format, e, hformat, -⟩
    exact nomatch hformat

/-- A command that is refused names a format that cannot be looked up, which is why. -/
theorem Outcome.exists_lookup_of_error {s : Settings} {c : Command} {e : Error}
    (h : Outcome s c (.error e)) :
    ∃ format, c.format? = some (some format) ∧ Catalog.lookup format = .error e := by
  cases h with
  | formatUnknown hformat hlookup => exact ⟨_, hformat, hlookup⟩

/-! ### The code of a test -/

namespace Report

variable {p : Probe} {groups : List (Option Text)}

theorem exists_skipRow_of_ok {skipped : Bool} (h : skipVerdict p groups = .ok skipped) :
    ∃ rows, skipRow p groups = .ok rows := by
  cases groups with
  | nil => exact ⟨[], rfl⟩
  | cons group groups =>
    rw [skipRow, h]
    · exact ⟨_, rfl⟩
    · exact List.cons_ne_nil group groups

theorem skipRow_of_error {crash : Crash} (h : skipVerdict p groups = .error crash) :
    skipRow p groups = .error crash := by
  cases groups with
  | nil => exact nomatch h
  | cons group groups =>
    rw [skipRow, h]
    · rfl
    · exact List.cons_ne_nil group groups

theorem code_ofTest_of_ok {skipped : Bool} (h : skipVerdict p groups = .ok skipped) (name : Text)
    (matched : Bool) :
    (Ending.ofReport (ofTest name groups matched p)).code = if matched then 0 else 3 := by
  obtain ⟨rows, hrows⟩ := exists_skipRow_of_ok h
  simp only [ofTest, hrows, Ending.ofReport]
  cases matched <;> rfl

theorem code_ofTest_of_error {crash : Crash} (h : skipVerdict p groups = .error crash)
    (name : Text) (matched : Bool) :
    (Ending.ofReport (ofTest name groups matched p)).code = 2 := by
  simp only [ofTest, skipRow_of_error h]
  rfl

end Report

/-! ### The code of a command -/

/-- What a command ends in, by its exit code. -/
inductive Exit (c : Command) : Int → Prop
  /-- It is refused. -/
  | refused (h : c.FormatUnknown) : Exit c 1
  /-- The name does not match. -/
  | unmatched (h : c.Unmatched) : Exit c 3
  /-- It breaks off. -/
  | brokenOff (h : c.BreaksOff) : Exit c 2
  /-- It is carried out. -/
  | carriedOut (hknown : ¬ c.FormatUnknown) (hmatched : ¬ c.Unmatched) (htexts : ¬ c.BreaksOff) :
    Exit c 0

theorem exit_matching {name format : Text} {f : Format} (hlookup : Catalog.lookup format = .ok f)
    {groups : List (Option Text)}
    (hknown : ¬ Command.FormatUnknown (.matching name (some format) groups)) :
    Exit (.matching name (some format) groups)
      (Ending.ofReport (Report.matching name f groups)).code := by
  rw [Report.matching_eq]
  cases hfind : f.find (some name) with
  | none =>
    -- Nothing has matched, so that no skip list is split, whether or not it has a text.
    obtain ⟨skipped, hskip⟩ := Report.skipVerdict_of_matched_none
      (Eq.refl ((Probe.ofFormat f).remember none).matched) groups
    rw [Report.code_ofTest_of_ok hskip]
    exact .unmatched ⟨name, format, groups, f, rfl, hlookup, hfind⟩
  | some found =>
    have hmatched : ¬ Command.Unmatched (.matching name (some format) groups) := by
      rintro ⟨name', format', groups', f', heq, hlookup', hfind'⟩
      obtain ⟨rfl, hformat, -⟩ := Command.matching.inj heq
      obtain rfl := Option.some.inj hformat
      obtain rfl := Except.ok.inj (hlookup.symm.trans hlookup')
      exact nomatch hfind.symm.trans hfind'
    rcases Report.skipVerdict_of_matched_some
      (Eq.refl ((Probe.ofFormat f).remember (some found)).matched) groups with
      ⟨hmissing, hskip⟩ | ⟨hmissing, skipped, hskip⟩
    · rw [Report.code_ofTest_of_error hskip]
      exact .brokenOff (.skip hlookup hfind hmissing)
    · rw [Report.code_ofTest_of_ok hskip]
      refine .carriedOut hknown hmatched fun hbreaks => ?_
      cases hbreaks with
      | format hnone => exact nomatch hnone
      | skip hlookup' hfound' hmissing' =>
        obtain rfl := Except.ok.inj (hlookup.symm.trans hlookup')
        obtain rfl := Option.some.inj (hfind.symm.trans hfound')
        exact hmissing hmissing'

/-- **A command ends in one of the four codes**, under whatever settings. -/
theorem exit_ofCommand (s : Settings) (c : Command) :
    Exit c (endingOf (Report.ofCommand (storeOf s) c)).code := by
  have houtcome := outcome_ofCommand s c
  generalize Report.ofCommand (storeOf s) c = result at houtcome
  have hcases := houtcome
  cases hcases with
  | formatMissing hformat => exact .brokenOff (.format hformat)
  | formatUnknown hformat hlookup => exact .refused ⟨_, _, hformat, hlookup⟩
  | tested hlookup => exact exit_matching hlookup houtcome.not_formatUnknown
  | asked | listed | named =>
    refine .carriedOut houtcome.not_formatUnknown ?_ ?_
    · rintro ⟨_, _, _, _, heq, -⟩
      exact nomatch heq
    · rintro ⟨hnone⟩
      exact nomatch hnone

/-- The code tells what a command ends in, as it can only be one of the four. -/
theorem Exit.code_iff {c : Command} {code : Int} (h : Exit c code) :
    (code = 1 ↔ c.FormatUnknown) ∧ (code = 3 ↔ c.Unmatched) ∧ (code = 2 ↔ c.BreaksOff) ∧
      (code = 0 ↔ ¬ c.FormatUnknown ∧ ¬ c.Unmatched ∧ ¬ c.BreaksOff) := by
  cases h with
  | refused h => simp [h, h.not_unmatched, h.not_breaksOff]
  | unmatched h =>
    have hknown : ¬ c.FormatUnknown := fun hunknown => hunknown.not_unmatched h
    simp [h, hknown, h.not_breaksOff]
  | brokenOff h =>
    have hknown : ¬ c.FormatUnknown := fun hunknown => hunknown.not_breaksOff h
    have hmatched : ¬ c.Unmatched := fun hunmatched => hunmatched.not_breaksOff h
    simp [h, hknown, hmatched]
  | carriedOut hknown hmatched htexts => simp [hknown, hmatched, htexts]

/-! ### The code of a run -/

/-- The error of the library with which a run is refused. -/
def refusal? (env : Environment) (request : Request) : Option Error :=
  match Settings.load env with
  | .error e => some e
  | .ok s =>
    match Report.ofCommand (storeOf s) request.command with
    | .error e => some e
    | .ok _ => none

theorem isAboutInput_of_refusal? {env : Environment} {request : Request} {e : Error}
    (h : refusal? env request = some e) : e.isAboutInput = true := by
  rw [refusal?] at h
  split at h
  · next hload =>
    obtain rfl := Option.some.inj h
    exact Settings.isAboutInput_of_load hload
  · next s hload =>
    have houtcome := outcome_ofCommand s request.command
    split at h
    · next hresult =>
      obtain rfl := Option.some.inj h
      rw [hresult] at houtcome
      obtain ⟨format, -, hlookup⟩ := houtcome.exists_lookup_of_error
      exact Catalog.isAboutInput_of_lookup hlookup
    · exact nomatch h

section Run

variable {env : Environment} {host : Host} {args : List Text} {request : Request}

theorem code_run_of_load_error {e : Error} (hargs : Request.ofArgs args = .ok request)
    (hload : Settings.load env = .error e)
    (hdraws : host.drawing.Draws (run host env args).drawn) : (run host env args).code = 1 := by
  rw [run_of_load_error hargs hload] at hdraws ⊢
  exact (conclude_of_draws (fun _ hd => absurd hd List.not_mem_nil) hdraws).1

theorem code_run_of_load {s : Settings} (hargs : Request.ofArgs args = .ok request)
    (hload : Settings.load env = .ok s) (hdraws : host.drawing.Draws (run host env args).drawn) :
    (run host env args).code = (endingOf (Report.ofCommand (storeOf s) request.command)).code := by
  rw [run_of_load hargs hload, perform_eq, ofReport_eq] at hdraws ⊢
  exact (conclude_of_draws (outcome_ofCommand s request.command).presentable hdraws).1

/-- A request is refused for the settings or for a format. -/
theorem isSome_refusal?_iff : (refusal? env request).isSome ↔
    (∃ e, Settings.load env = .error e) ∨ request.command.FormatUnknown := by
  rw [refusal?]
  cases hload : Settings.load env with
  | error e => simp
  | ok s =>
    have houtcome := outcome_ofCommand s request.command
    dsimp only
    cases hresult : Report.ofCommand (storeOf s) request.command with
    | error e =>
      rw [hresult] at houtcome
      obtain ⟨format, hformat, hlookup⟩ := houtcome.exists_lookup_of_error
      have hunknown : request.command.FormatUnknown := ⟨format, e, hformat, hlookup⟩
      simp [hunknown]
    | ok report =>
      rw [hresult] at houtcome
      simp [houtcome.not_formatUnknown]

/-- The user is told about the error with which a request is refused, and about nothing else. -/
theorem told_of_refusal? (hargs : Request.ofArgs args = .ok request) {e : Error}
    (h : refusal? env request = some e) (host : Host) :
    (run host env args).printed = (Transcript.ofEnding host.drawing (.ofError e)).printed ∧
      (run host env args).drawn = (Transcript.ofEnding host.drawing (.ofError e)).drawn := by
  rw [refusal?] at h
  split at h
  · next hload =>
    obtain rfl := Option.some.inj h
    rw [run_of_load_error hargs hload]
    exact ⟨rfl, rfl⟩
  · next s hload =>
    split at h
    · next hresult =>
      obtain rfl := Option.some.inj h
      rw [run_of_load hargs hload, perform_eq, hresult]
      exact ⟨rfl, rfl⟩
    · exact nomatch h

/-- **How a run ends.** A run whose arguments ask for a command ends, whether or not there is a
library that draws, in

* 1 if the settings cannot be read or the command names a format that cannot be looked up;
* 3 if they can, and the command tests a name in which a known format finds nothing;
* 2 if they can, and the command breaks off, for which an argument has to attach the mark;
* 0 in every other case.

It is refused if the code is 1, and the user is told about the error: one that is about a variable
or the name of a format. A library that draws is assumed to raise no error at what the run hands to
it. -/
theorem exit_code_iff (hargs : Request.ofArgs args = .ok request) (env : Environment) {host : Host}
    (hdraws : host.drawing.Draws (run host env args).drawn) :
    let c := request.command
    let t := run host env args
    (t.code = 1 ↔ (∃ e, Settings.load env = .error e) ∨ c.FormatUnknown) ∧
    (t.code = 3 ↔ (∃ s, Settings.load env = .ok s) ∧ c.Unmatched) ∧
    (t.code = 2 ↔ (∃ s, Settings.load env = .ok s) ∧ c.BreaksOff) ∧
    (t.code = 0 ↔ (∃ s, Settings.load env = .ok s) ∧
      ¬ c.FormatUnknown ∧ ¬ c.Unmatched ∧ ¬ c.BreaksOff) ∧
    (c.BreaksOff → ∃ page, ∃ arg ∈ args, attachesMark (.command page) arg = true) ∧
    (t.code = 1 ↔ (refusal? env request).isSome) ∧
    ∀ e ∈ refusal? env request, e.isAboutInput = true ∧
      t.printed = (Transcript.ofEnding host.drawing (.ofError e)).printed ∧
      t.drawn = (Transcript.ofEnding host.drawing (.ofError e)).drawn := by
  intro c t
  have hcodes : (t.code = 1 ↔ (∃ e, Settings.load env = .error e) ∨ c.FormatUnknown) ∧
      (t.code = 3 ↔ (∃ s, Settings.load env = .ok s) ∧ c.Unmatched) ∧
      (t.code = 2 ↔ (∃ s, Settings.load env = .ok s) ∧ c.BreaksOff) ∧
      (t.code = 0 ↔ (∃ s, Settings.load env = .ok s) ∧
        ¬ c.FormatUnknown ∧ ¬ c.Unmatched ∧ ¬ c.BreaksOff) := by
    cases hload : Settings.load env with
    | error e =>
      have hcode : t.code = 1 := code_run_of_load_error hargs hload hdraws
      simp [hcode]
    | ok s =>
      have hcode : t.code = _ := code_run_of_load hargs hload hdraws
      simpa [hcode] using (exit_ofCommand s c).code_iff
  obtain ⟨hrefused, hunmatched, hbroken, hdone⟩ := hcodes
  refine ⟨hrefused, hunmatched, hbroken, hdone, exists_attachesMark_of_breaksOff hargs, ?_,
    fun e he => ⟨isAboutInput_of_refusal? he, told_of_refusal? hargs he host⟩⟩
  exact hrefused.trans isSome_refusal?_iff.symm

end Run

/-- A URI is given for a file of a known format, and the format comes with its switch. -/
def uriArgs : List Text := ["match".toList, "http://host/a.mp3".toList, "-fmp3".toList]

/-- The format finds nothing in the URI, and the run ends in 3. -/
theorem exit_code_uri :
    let host : Host := { drawing := .present .silent }
    Request.ofArgs uriArgs =
        .ok ⟨false, .matching "http://host/a.mp3".toList (some "mp3".toList) []⟩ ∧
      (run host {} uriArgs).code = 3 ∧ ¬ (run host {} uriArgs).code = 2 := by
  intro host
  have hargs : Request.ofArgs uriArgs =
      .ok ⟨false, .matching "http://host/a.mp3".toList (some "mp3".toList) []⟩ := by decide +kernel
  have hlookup : Catalog.lookup "mp3".toList = .ok Catalog.mp3 := by decide +kernel
  have hfind : Catalog.mp3.find (some "http://host/a.mp3".toList) = none := by decide +kernel
  have hsilent : ∀ calls, host.drawing.Draws calls := DrawingMode.draws_silent
  obtain ⟨-, hunmatched, -⟩ := exit_code_iff hargs {} (hsilent (run host {} uriArgs).drawn)
  have hcode := hunmatched.mpr ⟨⟨_, rfl⟩, _, _, _, _, rfl, hlookup, hfind⟩
  exact ⟨hargs, hcode, by rw [hcode]; decide⟩

/-- The mark is attached to the switch of the format. -/
def attachedMarkArgs : List Text := ["match".toList, "a.mp3".toList, "--format=--".toList]

/-- **A run can break off**: the arguments ask for a test, the settings can be read, and yet the run
ends in 2. -/
theorem exit_code_attached_mark :
    (∃ request, Request.ofArgs attachedMarkArgs = .ok request) ∧
      (∃ s, Settings.load {} = .ok s) ∧ (run {} {} attachedMarkArgs).code = 2 := by
  refine ⟨⟨⟨false, .matching "a.mp3".toList none []⟩, ?_⟩, ⟨_, rfl⟩, ?_⟩
  · decide +kernel
  · decide +kernel

end CommandLine

end MediaCatalog
