import MediaCatalog.Proofs.CommandLine.Run

/-!
# What a library makes of a run

All that a run shows is presentable, so that nothing but the drawing library can keep it from being
shown. If the library draws it, or is not installed, it is on the screen, and the exit code is that
of the ending (`MediaCatalog.CommandLine.conclude_eq`, and of a run
`MediaCatalog.CommandLine.run_of_draws`).

If the library raises an error, it is not asked for the rest. The user is told about the error in
place of that, and the run ends in 2. Telling the user is up to the library again, and the error is
not caught that it may raise then: the run ends in 1 (`MediaCatalog.CommandLine.run_raised`).

What is said of runs in this development holds of every library, or else it assumes that the library
draws what the run hands to it. A run that shows something only hands over what it shows and what
the user is told about its ending (`MediaCatalog.CommandLine.draws_conclude_iff`).
-/

namespace MediaCatalog.CommandLine

/-! ### What the library makes of it -/

section Library

variable {library : DrawingLibrary} {displays : List Display} {e : Ending} {c : Conclusion}

/-- The conclusion of displays and an ending where a library draws. It is asked for everything that
there is to be shown, unless it raises an error. Then the user is told about that in the place of
all the rest, or not even that. -/
inductive Drawn (library : DrawingLibrary) (displays : List Display) (e : Ending) :
    Conclusion → Prop
  /-- Everything is drawn. -/
  | whole (hdraws : library.Draws [] ((displays ++ e.shown).flatMap Display.calls)) :
    Drawn library displays e
      ⟨e.code, library.after {} ((displays ++ e.shown).flatMap Display.calls), none⟩
  /-- The user is told about an error of the library. -/
  | told {handed : List DrawCall} {crash : Crash}
    (hdraws : ¬ library.Draws [] ((displays ++ e.shown).flatMap Display.calls))
    (hraises : ¬ library.Draws [] handed) :
    Drawn library displays e ⟨(Ending.crashed crash).code,
      library.after {} (handed ++ (Ending.crashed crash).shown.flatMap Display.calls), none⟩
  /-- Nobody catches an error of the library. -/
  | uncaught {handed : List DrawCall} {crash : Crash}
    (hdraws : ¬ library.Draws [] ((displays ++ e.shown).flatMap Display.calls))
    (hraises : ¬ library.Draws [] handed) :
    Drawn library displays e ⟨uncaughtCode, library.after {} handed, some crash⟩

/-- Telling the user about an ending succeeds, or an error of the library is uncaught. -/
theorem tell_cases (library : DrawingLibrary) (e : Ending) (before : List DrawCall) :
    (library.Draws before (e.shown.flatMap Display.calls) ∧
      tell (.present library) e (library.after {} before) =
        ⟨e.code, library.after {} (before ++ e.shown.flatMap Display.calls), none⟩) ∨
    ∃ handed crash, handed <+: e.shown.flatMap Display.calls ∧
      ¬ library.Draws [] (before ++ handed) ∧
      ¬ library.Draws before (e.shown.flatMap Display.calls) ∧
      tell (.present library) e (library.after {} before) =
        ⟨uncaughtCode, library.after {} (before ++ handed), some crash⟩ := by
  have hbefore : (library.after {} before).drawn = before := List.nil_append before
  rw [tell, Display.showAll_present]
  rcases library.run_forM_ask (library.after {} before) (e.shown.flatMap Display.calls) with
    ⟨hdraws, hrun⟩ | ⟨handed, crash, ⟨rest, hrest⟩, hraises, hrun⟩
  · rw [hbefore] at hdraws
    rw [hrun, ← DrawingLibrary.after_append]
    exact Or.inl ⟨hdraws, rfl⟩
  · rw [hbefore] at hraises
    rw [hrun, ← DrawingLibrary.after_append]
    refine Or.inr ⟨handed, crash, ⟨rest, hrest⟩, fun h => ?_, fun h => ?_, rfl⟩
    · exact hraises (DrawingLibrary.draws_append_iff.mp h).2
    · rw [← hrest] at h
      exact hraises (DrawingLibrary.draws_append_iff.mp h).1

/-- **What a library makes of displays and an ending.** -/
theorem drawn_conclude (library : DrawingLibrary) (displays : List Display) (e : Ending) :
    Drawn library displays e (conclude (.present library) displays e) := by
  rw [conclude, Display.showAll_present]
  rcases library.run_forM_ask {} (displays.flatMap Display.calls) with
    ⟨hdraws, hrun⟩ | ⟨handed, crash, ⟨rest, hrest⟩, hraises, hrun⟩
  · rw [hrun]
    dsimp only
    rcases tell_cases library e (displays.flatMap Display.calls) with
      ⟨htold, htell⟩ | ⟨handed, crash, -, hraises, htold, htell⟩
    · rw [htell, ← List.flatMap_append]
      refine .whole ?_
      rw [List.flatMap_append]
      exact DrawingLibrary.draws_append_iff.mpr ⟨hdraws, htold⟩
    · rw [htell]
      refine .uncaught (fun h => ?_) hraises
      rw [List.flatMap_append] at h
      exact htold (DrawingLibrary.draws_append_iff.mp h).2
  · have hall : ¬ library.Draws [] ((displays ++ e.shown).flatMap Display.calls) := fun h => by
      rw [List.flatMap_append, ← hrest, List.append_assoc] at h
      exact hraises (DrawingLibrary.draws_append_iff.mp h).1
    rw [hrun]
    dsimp only
    rcases tell_cases library (.crashed crash) handed with
      ⟨-, htell⟩ | ⟨handed', crash', -, hraises', -, htell⟩
    · rw [htell]
      exact .told hall hraises
    · rw [htell]
      exact .uncaught hall hraises'

/-- Of an ending alone, a library is handed what the user is told about it, up to the first call at
which it raises an error. -/
theorem isPrefix_drawn_ofEnding (library : DrawingLibrary) (e : Ending) :
    (Transcript.ofEnding (.present library) e).drawn <+: e.shown.flatMap Display.calls := by
  have htell : Transcript.ofEnding (.present library) e =
      .ofConclusion (tell (.present library) e (library.after {} [])) := by
    rw [DrawingLibrary.after_nil]
    rfl
  rw [htell]
  rcases tell_cases library e [] with ⟨-, hwhole⟩ | ⟨handed, crash, hprefix, -, -, hpart⟩
  · rw [hwhole]
    exact List.prefix_refl _
  · rw [hpart]
    exact hprefix

/-- The library draws what it is asked for if it draws all that there is to be shown. -/
theorem Drawn.draws_iff (h : Drawn library displays e c) :
    library.Draws [] c.screen.drawn ↔
      library.Draws [] ((displays ++ e.shown).flatMap Display.calls) := by
  cases h with
  | whole hdraws => exact iff_of_true hdraws hdraws
  | @told handed crash hdraws hraises =>
    refine iff_of_false (fun h => ?_) hdraws
    have happend : library.Draws []
      (handed ++ (Ending.crashed crash).shown.flatMap Display.calls) := h
    exact hraises (DrawingLibrary.draws_append_iff.mp happend).1
  | uncaught hdraws hraises => exact iff_of_false hraises hdraws

/-- Nothing is printed but what the library writes. -/
theorem Drawn.printed_eq (h : Drawn library displays e c) :
    c.screen.printed = library.writes [] c.screen.drawn := by
  cases h <;> rfl

/-- Where all is drawn, the exit code is that of the ending. -/
theorem Drawn.eq_of_draws (h : Drawn library displays e c)
    (hdraws : library.Draws [] ((displays ++ e.shown).flatMap Display.calls)) :
    c = ⟨e.code, library.after {} ((displays ++ e.shown).flatMap Display.calls), none⟩ := by
  cases h with
  | whole => rfl
  | told hraises => exact absurd hdraws hraises
  | uncaught hraises => exact absurd hdraws hraises

/-- **A library that raises an error** leaves one of two codes: the user has been told about the
error, or an error is uncaught. -/
theorem Drawn.raised (h : Drawn library displays e c)
    (hraises : ¬ library.Draws [] c.screen.drawn) :
    (c.code = 2 ∧ c.uncaught = none ∧ ∃ crash before,
      c.screen.drawn = before ++ (Ending.crashed crash).shown.flatMap Display.calls) ∨
    (c.code = 1 ∧ c.uncaught.isSome) := by
  cases h with
  | whole hdraws => exact absurd hdraws hraises
  | @told handed crash => exact Or.inl ⟨rfl, rfl, crash, handed, rfl⟩
  | uncaught => exact Or.inr ⟨rfl, rfl⟩

end Library

/-! ### What is shown -/

/-- **Presentable displays are shown, and what the user is told about the ending after them**, as
long as the library draws. The exit code is that of the ending. -/
theorem conclude_eq {displays : List Display} (h : ∀ d ∈ displays, d.IsPresentable) (e : Ending) :
    ∃ lines, Print.allLines? ((displays ++ e.shown).flatMap Display.prints) = some lines ∧
      ∀ mode : DrawingMode, mode.Draws ((displays ++ e.shown).flatMap Display.calls) →
        conclude mode displays e =
          ⟨e.code, mode.screen ((displays ++ e.shown).flatMap Display.calls) lines, none⟩ := by
  obtain ⟨ls, hls, hprinted⟩ := Display.run_showAll_absent h
  obtain ⟨ms, hms, htold⟩ := Display.run_showAll_absent (Ending.presentable_shown e)
  refine ⟨ls ++ ms, ?_, fun mode hdraws => ?_⟩
  · rw [List.flatMap_append]
    exact Print.allLines?_append hls hms
  · cases mode with
    | absent =>
      rw [conclude, hprinted]
      dsimp only
      rw [tell, htold]
      dsimp only
      rw [Display.append_ofLines]
      rfl
    | present library =>
      rw [DrawingMode.draws_present_iff] at hdraws
      exact (drawn_conclude library displays e).eq_of_draws hdraws

/-- The library draws what it is handed if it draws all that there is to be shown. -/
theorem draws_conclude_iff (mode : DrawingMode) (displays : List Display) (e : Ending) :
    mode.Draws (conclude mode displays e).screen.drawn ↔
      mode.Draws ((displays ++ e.shown).flatMap Display.calls) := by
  cases mode with
  | absent => exact iff_of_true (DrawingMode.draws_absent _) (DrawingMode.draws_absent _)
  | present library =>
    rw [DrawingMode.draws_present_iff, DrawingMode.draws_present_iff]
    exact (drawn_conclude library displays e).draws_iff

/-- Where the library draws what it is handed, the exit code is that of the ending. -/
theorem conclude_of_draws {mode : DrawingMode} {displays : List Display}
    (h : ∀ d ∈ displays, d.IsPresentable) {e : Ending}
    (hdraws : mode.Draws (conclude mode displays e).screen.drawn) :
    (conclude mode displays e).code = e.code ∧ (conclude mode displays e).uncaught = none := by
  obtain ⟨lines, -, hconclude⟩ := conclude_eq h e
  rw [hconclude mode ((draws_conclude_iff mode displays e).mp hdraws)]
  exact ⟨rfl, rfl⟩

section Run

variable {args : List Text} {request : Request}

/-- **A run that has read its request** shows presentable displays and an ending, the same whether
or not they are drawn, and leaves the same log and the same renderer. -/
theorem run_eq_ofShown (hargs : Request.ofArgs args = .ok request) (clock : Clock)
    (env : Environment) :
    ∃ displays e aside installed, (∀ d ∈ displays, d.IsPresentable) ∧ ∀ mode,
      run ⟨mode, clock⟩ env args =
        { Transcript.ofShown mode displays e with aside := aside, installed := installed } := by
  cases hload : Settings.load env with
  | error e =>
    refine ⟨[], .ofError e, [], none, fun _ hd => absurd hd List.not_mem_nil, fun mode => ?_⟩
    rw [run_of_load_error hargs hload]
    rfl
  | ok s =>
    refine ⟨_, endingOf (Report.ofCommand (storeOf s) request.command),
      LogEntry.write (leastLevel s request.verbose) (entriesOf clock s request.command),
      some (deviceOf s), (outcome_ofCommand s request.command).presentable, fun mode => ?_⟩
    rw [run_of_load hargs hload, perform_eq, ofReport_eq]

/-- **A run whose library draws** what it is handed has it drawn or, where there is no library, has
lines printed that say the same. All else that it leaves is the same in both cases. -/
theorem run_of_draws (hargs : Request.ofArgs args = .ok request) (clock : Clock)
    (env : Environment) :
    ∃ (shown : List Display) (lines : List Text) (code : Int) (aside : Text)
        (installed : Option Renderer), (∀ d ∈ shown, d.IsPresentable) ∧
      Print.allLines? (shown.flatMap Display.prints) = some lines ∧ ∀ mode : DrawingMode,
        mode.Draws (run ⟨mode, clock⟩ env args).drawn →
          run ⟨mode, clock⟩ env args =
            { Transcript.ofConclusion
                ⟨code, mode.screen (shown.flatMap Display.calls) lines, none⟩ with
              aside := aside, installed := installed } := by
  obtain ⟨displays, e, aside, installed, hdisplays, hrun⟩ := run_eq_ofShown hargs clock env
  obtain ⟨lines, hlines, hconclude⟩ := conclude_eq hdisplays e
  have hshown : ∀ d ∈ displays ++ e.shown, d.IsPresentable :=
    List.forall_mem_append.mpr ⟨hdisplays, Ending.presentable_shown e⟩
  refine ⟨displays ++ e.shown, lines, e.code, aside, installed, hshown, hlines,
    fun mode hdraws => ?_⟩
  rw [hrun mode] at hdraws ⊢
  rw [Transcript.ofShown, hconclude mode ((draws_conclude_iff mode displays e).mp hdraws)]

/-- Where the library draws what a run hands to it, there is nothing beside what is shown but what
the run has printed there. -/
theorem beside_run (hargs : Request.ofArgs args = .ok request) (env : Environment) {host : Host}
    (hdraws : host.drawing.Draws (run host env args).drawn) (trace : Crash → Text) :
    (run host env args).beside trace = (run host env args).aside := by
  obtain ⟨shown, lines, code, aside, installed, -, -, hrun⟩ := run_of_draws hargs host.clock env
  rw [hrun host.drawing hdraws]
  exact List.append_nil aside

/-- **A run whose library raises an error** does not end as its command says. It ends in 2 if the
library can still be handed what the user is told about the error, which is the last that it is
handed. Otherwise it ends in 1 with an error that nobody has caught. -/
theorem run_raised (hargs : Request.ofArgs args = .ok request) (env : Environment) {host : Host}
    (hraises : ¬ host.drawing.Draws (run host env args).drawn) :
    let t := run host env args
    (t.code = 2 ∧ t.uncaught = none ∧ ∃ crash before,
      t.drawn = before ++ (Ending.crashed crash).shown.flatMap Display.calls) ∨
    (t.code = 1 ∧ t.uncaught.isSome) := by
  intro t
  obtain ⟨mode, clock⟩ := host
  obtain ⟨displays, e, aside, installed, -, hrun⟩ := run_eq_ofShown hargs clock env
  have ht : t = { Transcript.ofShown mode displays e with
      aside := aside, installed := installed } := hrun mode
  rw [hrun mode] at hraises
  rw [ht]
  cases mode with
  | absent => exact absurd (DrawingMode.draws_absent _) hraises
  | present library =>
    rw [DrawingMode.draws_present_iff] at hraises
    exact (drawn_conclude library displays e).raised hraises

end Run

/-- What the library is to print at a call after other calls: a message, or the cells of the rows
that have been added to a table. -/
def printedTexts (before : List DrawCall) : DrawCall → List Text
  | .printMessage message => [message]
  | .printTable => before.flatMap cells
  | _ => []
where
  /-- The cells of a row. -/
  cells : DrawCall → List Text
    | .row cells => cells
    | _ => []

/-- A library that raises an error when it is to print a text in which it comes upon a tag that it
cannot make sense of. The error quotes the tag. -/
def puzzledBy (tag : Text) : DrawingLibrary where
  respond before call :=
    let puzzling (t : Text) : Bool := (List.range t.length).any fun i => tag.isPrefixOf (t.drop i)
    if (printedTexts before call).any puzzling then { fault := some ⟨"MarkupError".toList, tag⟩ }
    else {}

/-- The name in the table puzzles the library, and so does its own error, of which the user is to be
told. -/
example :
    let host : Host := { drawing := .present (puzzledBy "[/x]".toList) }
    let t := run host {} (["match", "[/x].mp3", "-fmp3"].map String.toList)
    t.code = 1 ∧ t.uncaught = some ⟨"MarkupError".toList, "[/x]".toList⟩ ∧
      t.drawn.getLast? = some (.printMessage ("[bold red]Unexpected error.[/bold red]".toList ++
        " Please report this issue.\n  MarkupError: [/x]".toList)) := by
  decide +kernel

end MediaCatalog.CommandLine
