import MediaCatalog.Proofs.CommandLine.Drawing

/-!
# Runs with and without the drawing library

Two runs on the same arguments in the same environment, one with a library that draws and one
without, differ in nothing but the way in which things are shown. What the library is asked for can
be read back as a sequence of prints, and the lines of these are what the other run prints
(`MediaCatalog.CommandLine.run_plain`).

This takes a library that draws what the run hands to it. One that raises an error keeps its run
from showing the rest, and that run ends differently
(`MediaCatalog.CommandLine.run_raised`); the log and the renderer are the same even so.

Help texts and the version are printed by the reading of the arguments, which draws nothing, so they
come first in either run.
-/

namespace MediaCatalog.CommandLine

/-- What the reading of the arguments prints: a help text or the version, where they ask for one. -/
def printedOnReading (args : List Text) : Text :=
  match Request.ofArgs args with
  | .error (.help p) => p.help
  | .error .version => versionLine
  | .error (.misuse ..) | .ok _ => []

/-- Every table among the prints is rectangular, and the lines show every header and every cell. -/
def ShowsTables (prints : List Print) (lines : List Text) : Prop :=
  ∀ t, Print.table t ∈ prints → t.IsRectangular ∧
    ∀ cells ∈ t.headers :: t.rows, ∀ cell ∈ cells, ∃ line ∈ lines, cell <:+: line

/-- The lines of presentable displays show all tables among them. -/
theorem showsTables_of_presentable {displays : List Display}
    (h : ∀ d ∈ displays, d.IsPresentable) {lines : List Text}
    (hlines : Print.allLines? (displays.flatMap Display.prints) = some lines) :
    ShowsTables (displays.flatMap Display.prints) lines := by
  intro t ht
  have hrectangular := Display.isRectangular_of_mem_prints h ht
  obtain ⟨body, hbody, hmem⟩ := Print.exists_body_of_mem hlines ht
  refine ⟨hrectangular, fun cells hcells cell hcell => ?_⟩
  obtain ⟨line, hline, hinfix⟩ := hrectangular.exists_infix hbody hcells hcell
  exact ⟨line, hmem line hline, hinfix⟩

/-- Arguments that ask for no command are answered without drawing. -/
theorem drawn_ofHalt (halt : Halt) : (Transcript.ofHalt halt).drawn = [] := by
  cases halt <;> rfl

/-- They are answered without an error, too. -/
theorem uncaught_ofHalt (halt : Halt) : (Transcript.ofHalt halt).uncaught = none := by
  cases halt <;> rfl

theorem printed_ofHalt {args : List Text} {halt : Halt} (h : Request.ofArgs args = .error halt) :
    (Transcript.ofHalt halt).printed = printedOnReading args := by
  rw [printedOnReading, h]
  cases halt <;> rfl

/-- What is printed by a run with a library is what the reading of the arguments prints and what the
library writes when it is handed one call after the other. -/
theorem printed_run (library : DrawingLibrary) (clock : Clock) (env : Environment)
    (args : List Text) :
    let t := run ⟨.present library, clock⟩ env args
    t.printed = printedOnReading args ++ library.writes [] t.drawn := by
  intro t
  cases hargs : Request.ofArgs args with
  | error halt =>
    have ht : t = .ofHalt halt := run_of_halt hargs env _
    rw [ht, drawn_ofHalt, printed_ofHalt hargs]
    exact (List.append_nil _).symm
  | ok request =>
    obtain ⟨displays, e, aside, installed, -, hrun⟩ := run_eq_ofShown hargs clock env
    have ht : t = { Transcript.ofShown (.present library) displays e with
        aside := aside, installed := installed } := hrun (.present library)
    have hnothing : printedOnReading args = [] := by rw [printedOnReading, hargs]
    rw [ht, hnothing]
    exact (drawn_conclude library displays e).printed_eq

/-- **A run without the library prints what a run with it has drawn.** The two leave the same log
and install the same renderer, whatever the library does, and all that the second prints is written
by the library, but for what the reading of the arguments prints.

Suppose that the library draws what it is handed, raising no error. Then the two end alike, with the
same beside what they show. The prints that the library is asked for have lines, and these are what
is printed in their place: each message, and each table with its title, all of its headers and all
of its cells, in the same order. -/
theorem run_plain (library : DrawingLibrary) (clock : Clock) (env : Environment)
    (args : List Text) :
    let plain := run ⟨.absent, clock⟩ env args
    let rich := run ⟨.present library, clock⟩ env args
    let prints := DrawCall.prints .unstarted rich.drawn
    (plain.aside = rich.aside ∧ plain.installed = rich.installed) ∧
    (plain.drawn = [] ∧ plain.uncaught = none ∧
      rich.printed = printedOnReading args ++ library.writes [] rich.drawn) ∧
    (library.Draws [] rich.drawn →
      (plain.code = rich.code ∧ rich.uncaught = none ∧
        ∀ trace, plain.beside trace = rich.beside trace) ∧
      ∃ lines, Print.allLines? prints = some lines ∧
        plain.printed = printedOnReading args ++ (Screen.ofLines lines).printed ∧
        ShowsTables prints lines) := by
  intro plain rich prints
  have hprinted : rich.printed = printedOnReading args ++ library.writes [] rich.drawn :=
    printed_run library clock env args
  cases hargs : Request.ofArgs args with
  | error halt =>
    have hplain : plain = .ofHalt halt := run_of_halt hargs env _
    have hrich : rich = .ofHalt halt := run_of_halt hargs env _
    have hsame : plain = rich := hplain.trans hrich.symm
    have hdrawn : plain.drawn = [] := by rw [hplain, drawn_ofHalt]
    have huncaught : plain.uncaught = none := by rw [hplain, uncaught_ofHalt]
    have hprints : prints = [] := by simp only [prints, ← hsame, hdrawn, DrawCall.prints]
    rw [← hsame] at hprinted ⊢
    refine ⟨⟨rfl, rfl⟩, ⟨hdrawn, huncaught, hprinted⟩,
      fun _ => ⟨⟨rfl, huncaught, fun _ => rfl⟩, [], ?_, ?_, ?_⟩⟩
    · rw [hprints]
      rfl
    · rw [hplain, printed_ofHalt hargs]
      exact (List.append_nil _).symm
    · rw [hprints]
      exact fun t ht => absurd ht List.not_mem_nil
  | ok request =>
    have hsame : plain.aside = rich.aside ∧ plain.installed = rich.installed := by
      obtain ⟨displays, e, aside, installed, -, hrun⟩ := run_eq_ofShown hargs clock env
      simp only [plain, rich, hrun, and_self]
    -- Both runs show the same displays: one hands them to the library, one prints their lines.
    obtain ⟨shown, lines, code, aside, installed, hshown, hlines, hrun⟩ :=
      run_of_draws hargs clock env
    have hplain : plain = ⟨code, (Screen.ofLines lines).printed, [], aside, none, installed⟩ :=
      hrun .absent (DrawingMode.draws_absent _)
    have hdrawn : plain.drawn = [] := by rw [hplain]
    have huncaught : plain.uncaught = none := by rw [hplain]
    refine ⟨hsame, ⟨hdrawn, huncaught, hprinted⟩, fun hdraws => ?_⟩
    have hrich : rich = ⟨code, library.writes [] (shown.flatMap Display.calls),
        shown.flatMap Display.calls, aside, none, installed⟩ :=
      hrun (.present library) (DrawingMode.draws_present_iff.mpr hdraws)
    have hprints : prints = shown.flatMap Display.prints := by
      simp only [prints, hrich, Display.prints_flatMap_calls]
    have hnothing : printedOnReading args = [] := by rw [printedOnReading, hargs]
    rw [hprints, hplain, hrich, hnothing]
    exact ⟨⟨rfl, rfl, fun _ => rfl⟩, lines, hlines, rfl, showsTables_of_presentable hshown hlines⟩

/-- A question about a resource whose name begins like a style tag. -/
def bracketArgs : List Text := ["compatible".toList, "[b]x.mp3".toList, "-fmp3".toList]

/-- The library is handed the name as it is, and this is how it is printed without the library. -/
theorem run_plain_bracket :
    let plain := run {} {} bracketArgs
    let rich := run { drawing := .present .silent } {} bracketArgs
    let answer := "[b]x.mp3: streamed natively as MP3".toList
    DrawingLibrary.silent.Draws [] rich.drawn ∧ plain.code = rich.code ∧
      DrawCall.prints .unstarted rich.drawn = [.message answer] ∧
      plain.printed = answer ++ ['\n'] := by
  intro plain rich answer
  have hdraws := DrawingLibrary.draws_silent [] rich.drawn
  obtain ⟨-, -, hsame⟩ := run_plain .silent (fun _ => .epoch) {} bracketArgs
  obtain ⟨⟨hcode, -, -⟩, lines, hlines, hprinted, -⟩ := hsame hdraws
  have hprints : DrawCall.prints .unstarted rich.drawn = [.message answer] := by decide +kernel
  have hnothing : printedOnReading bracketArgs = [] := by decide +kernel
  rw [hprints] at hlines
  obtain rfl := Option.some.inj hlines
  rw [hnothing] at hprinted
  exact ⟨hdraws, hcode, hprints, hprinted⟩

end MediaCatalog.CommandLine
