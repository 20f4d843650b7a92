import MediaCatalog.Display
import MediaCatalog.Proofs.Table

/-!
# Displays, drawn and printed

A display is drawn where there is a library that draws, and printed where there is none. The two
ways have nothing in common but the display: a drawn table is built up column by column and row by
row, a printed one is laid out at once.

What the library is asked for can nevertheless be read back (`MediaCatalog.DrawCall.prints`) as a
sequence of prints – empty lines, messages and tables, each table with all that was added to it –
and a print has lines that say the same without a library (`MediaCatalog.Print.lines?`). These are
printed in the absence of the library (`MediaCatalog.Display.run_showAll_absent`), provided that the
tables are rectangular: a row that is too short has no plain layout, and of one that is too long the
layout would leave something out.

In its presence, the library has the last word. It may raise an error at any call, and then it is
not asked for the calls after that (`MediaCatalog.DrawingLibrary.run_forM_ask`). What is said of a
run that shows everything has to assume that the library **draws** what the run hands to it
(`MediaCatalog.DrawingMode.Draws`); of other calls nothing is assumed.
-/

namespace MediaCatalog

/-! ### Rectangular tables -/

namespace Table

/-- Every row has a cell for each header, and no more. -/
def IsRectangular (t : Table) : Prop := ∀ row ∈ t.rows, row.length = t.headers.length

/-- The plain layout of a table without the blank lines around it: the title, the header between two
rules, and the rows, unless a row is too short. -/
def body? (t : Table) : Option (List Text) :=
  t.widths.map fun widths =>
    [t.title, rule widths '=', line widths t.headers, rule widths '-'] ++ t.rows.map (line widths)

theorem lines_eq_body? (t : Table) : t.lines = t.body?.map fun body => [] :: body ++ [[]] := by
  rw [lines, body?, Option.map_map]
  rfl

theorem IsRectangular.isSome_body? {t : Table} (h : t.IsRectangular) : t.body?.isSome := by
  rw [body?, Option.isSome_map, isSome_widths_iff]
  exact fun row hrow => Nat.le_of_eq (h row hrow).symm

/-- **The layout of a rectangular table leaves nothing out**: every header and every cell is on one
of its lines. -/
theorem IsRectangular.exists_infix {t : Table} (h : t.IsRectangular) {body : List Text}
    (hbody : t.body? = some body) {cells : List Text} (hcells : cells ∈ t.headers :: t.rows)
    {cell : Text} (hcell : cell ∈ cells) : ∃ line ∈ body, cell <:+: line := by
  obtain ⟨widths, hwidths, rfl⟩ := Option.map_eq_some_iff.mp hbody
  have hlength : t.headers.length = widths.length := (length_columnWidths hwidths).symm
  refine ⟨line widths cells, ?_, infix_line ?_ hcell⟩
  · rcases List.mem_cons.mp hcells with rfl | hrow
    · exact List.mem_append_left _ (by simp)
    · exact List.mem_append_right _ (List.mem_map_of_mem hrow)
  · rcases List.mem_cons.mp hcells with rfl | hrow
    · exact hlength
    · exact (h cells hrow).trans hlength

end Table

/-! ### Reading draw calls -/

/-- What one print of the library brings to the screen. -/
inductive Print
  /-- An empty line. -/
  | blank
  /-- A message, its style tags included. -/
  | message (text : Text)
  /-- A table. -/
  | table (t : Table)
deriving DecidableEq

/-- The lines that say the same as a print, unless a row of a table is too short. -/
def Print.lines? : Print → Option (List Text)
  | blank => some [[]]
  | message text => some [text]
  | table t => t.body?

/-- The lines of several prints. -/
def Print.allLines? (prints : List Print) : Option (List Text) :=
  (prints.mapM Print.lines?).map List.flatten

/-- The prints that a sequence of draw calls asks for. A table is printed with the columns and rows
that have been added since it was started; `t` is the table that is being built up. -/
def DrawCall.prints (t : Table) : List DrawCall → List Print
  | [] => []
  | .table title _ :: rest => prints ⟨title, [], []⟩ rest
  | .column header _ :: rest => prints { t with headers := t.headers ++ [header] } rest
  | .row cells :: rest => prints { t with rows := t.rows ++ [cells] } rest
  | .printBlank :: rest => .blank :: prints t rest
  | .printMessage text :: rest => .message text :: prints t rest
  | .printTable :: rest => .table t :: prints t rest

/-- The table before anything has been drawn. -/
def Table.unstarted : Table := ⟨[], [], []⟩

theorem Print.allLines?_append {ps qs : List Print} {ls ms : List Text}
    (hp : allLines? ps = some ls) (hq : allLines? qs = some ms) :
    allLines? (ps ++ qs) = some (ls ++ ms) := by
  obtain ⟨blocks, hblocks, rfl⟩ := Option.map_eq_some_iff.mp hp
  obtain ⟨blocks', hblocks', rfl⟩ := Option.map_eq_some_iff.mp hq
  rw [allLines?, List.mapM_append, hblocks, hblocks', ← List.flatten_append]
  rfl

/-- The layout of a table among several prints is among their lines. -/
theorem Print.exists_body_of_mem {ps : List Print} {ls : List Text} (h : allLines? ps = some ls)
    {t : Table} (ht : .table t ∈ ps) : ∃ body, t.body? = some body ∧ ∀ line ∈ body, line ∈ ls := by
  induction ps generalizing ls with
  | nil => exact absurd ht List.not_mem_nil
  | cons p ps ih =>
    obtain ⟨blocks, hblocks, rfl⟩ := Option.map_eq_some_iff.mp h
    simp only [List.mapM_cons, Option.bind_eq_bind, Option.bind_eq_some_iff] at hblocks
    obtain ⟨block, hblock, rest, hrest, hcons⟩ := hblocks
    obtain rfl := Option.some.inj hcons
    rw [List.flatten_cons]
    rcases List.mem_cons.mp ht with rfl | htail
    · exact ⟨block, hblock, fun line hline => List.mem_append_left _ hline⟩
    · have hlines : allLines? ps = some rest.flatten := by rw [allLines?, hrest, Option.map_some]
      obtain ⟨body, hbody, hmem⟩ := ih hlines htail
      exact ⟨body, hbody, fun line hline => List.mem_append_right _ (hmem line hline)⟩

namespace DrawCall

theorem prints_columns (t : Table) (columns : List (Text × Nat)) (style : Nat → Option Text)
    (rest : List DrawCall) :
    prints t ((columns.map fun c => .column c.1 (style c.2)) ++ rest) =
      prints { t with headers := t.headers ++ columns.map Prod.fst } rest := by
  induction columns generalizing t with
  | nil => simp
  | cons c columns ih =>
    rw [List.map_cons, List.cons_append, prints, ih]
    simp

theorem prints_rows (t : Table) (rows : List (List Text)) (rest : List DrawCall) :
    prints t (rows.map .row ++ rest) = prints { t with rows := t.rows ++ rows } rest := by
  induction rows generalizing t with
  | nil => simp
  | cons row rows ih =>
    rw [List.map_cons, List.cons_append, prints, ih]
    simp

/-- **A drawn table is printed whole**, whatever was being built up before. -/
theorem prints_drawing (s t : Table) (rest : List DrawCall) :
    prints s (t.drawing ++ rest) = .blank :: .table t :: .blank :: prints t rest := by
  have hcalls : t.drawing ++ rest = .table t.title {} ::
      ((t.headers.zipIdx.map fun c => .column c.1 (if c.2 = 0 then some "bold".toList else none)) ++
        (t.rows.map .row ++ (.printBlank :: .printTable :: .printBlank :: rest))) := by
    simp [Table.drawing]
  rw [hcalls, prints, prints_columns _ _ fun i => if i = 0 then some "bold".toList else none,
    prints_rows, List.zipIdx_map_fst]
  rfl

end DrawCall

/-! ### Asking the library -/

namespace DrawingLibrary

/-- What a library writes when it is asked for calls one after the other, after other calls. -/
def writes (library : DrawingLibrary) (before : List DrawCall) : List DrawCall → Text
  | [] => []
  | call :: calls =>
    (library.respond before call).written ++ library.writes (before ++ [call]) calls

/-- A library draws calls that it is asked for one after the other, after other calls, if it raises
an error at none of them. -/
def Draws (library : DrawingLibrary) (before : List DrawCall) : List DrawCall → Prop
  | [] => True
  | call :: calls =>
    (library.respond before call).fault = none ∧ library.Draws (before ++ [call]) calls

variable {library : DrawingLibrary} {before calls calls' : List DrawCall} {screen : Screen}

theorem writes_append : library.writes before (calls ++ calls') =
    library.writes before calls ++ library.writes (before ++ calls) calls' := by
  induction calls generalizing before with
  | nil => rw [List.nil_append, List.append_nil, writes, List.nil_append]
  | cons call calls ih =>
    rw [List.cons_append, writes, writes, ih, List.append_assoc, List.append_assoc,
      List.singleton_append]

theorem draws_append_iff : library.Draws before (calls ++ calls') ↔
    library.Draws before calls ∧ library.Draws (before ++ calls) calls' := by
  induction calls generalizing before with
  | nil => rw [List.nil_append, List.append_nil, Draws, true_and]
  | cons call calls ih =>
    rw [List.cons_append, Draws, Draws, ih, and_assoc, List.append_assoc, List.singleton_append]

theorem draws_silent (before calls : List DrawCall) : silent.Draws before calls := by
  induction calls generalizing before with
  | nil => trivial
  | cons call calls ih => exact ⟨rfl, ih _⟩

/-- A screen after a library has been asked for calls one after the other. -/
def after (library : DrawingLibrary) (screen : Screen) (calls : List DrawCall) : Screen :=
  screen.append ⟨library.writes screen.drawn calls, calls⟩

theorem after_nil : library.after screen [] = screen := by
  rw [after, Screen.append, writes, List.append_nil, List.append_nil]

theorem after_append :
    library.after screen (calls ++ calls') = library.after (library.after screen calls) calls' := by
  simp only [after, Screen.append, writes_append, List.append_assoc]

/-- A library that is asked for a call draws it or raises an error. The call stays on the screen
either way. -/
theorem run_ask (library : DrawingLibrary) (screen : Screen) (call : DrawCall) :
    (Showing.ask library call).run screen =
      match (library.respond screen.drawn call).fault with
      | some crash => .error crash (library.after screen [call])
      | none => .ok () (library.after screen [call]) := by
  have hafter : library.after screen [call] =
      screen.append ⟨(library.respond screen.drawn call).written, [call]⟩ := by
    rw [after, writes, writes, List.append_nil]
  rw [hafter]
  simp only [Showing.ask, EStateM.run_bind, EStateM.run_get, EStateM.run_set]
  cases (library.respond screen.drawn call).fault <;> rfl

/-- **A library that is asked for calls** either draws them all or raises an error at one of them.
What it has been asked for until then, that call included, stays on the screen. -/
theorem run_forM_ask (library : DrawingLibrary) (screen : Screen) (calls : List DrawCall) :
    (library.Draws screen.drawn calls ∧
      (forM calls (Showing.ask library)).run screen = .ok () (library.after screen calls)) ∨
    ∃ handed crash, handed <+: calls ∧ ¬ library.Draws screen.drawn handed ∧
      (forM calls (Showing.ask library)).run screen =
        .error crash (library.after screen handed) := by
  induction calls generalizing screen with
  | nil => exact Or.inl ⟨trivial, congrArg (EStateM.Result.ok ()) after_nil.symm⟩
  | cons call calls ih =>
    have hask := run_ask library screen call
    cases hfault : (library.respond screen.drawn call).fault with
    | some crash =>
      rw [hfault] at hask
      refine Or.inr ⟨[call], crash, List.prefix_append [call] calls, fun h => ?_, ?_⟩
      · exact nomatch hfault.symm.trans h.1
      · rw [List.forM_cons, EStateM.run_bind, hask]
    | none =>
      rw [hfault] at hask
      have hrun : (forM (call :: calls) (Showing.ask library)).run screen =
          (forM calls (Showing.ask library)).run (library.after screen [call]) := by
        rw [List.forM_cons, EStateM.run_bind, hask]
      rw [hrun]
      rcases ih (library.after screen [call]) with
        ⟨hdraws, hok⟩ | ⟨handed, crash, hprefix, hraises, herror⟩
      · exact Or.inl ⟨⟨hfault, hdraws⟩, hok.trans (congrArg _ after_append.symm)⟩
      · refine Or.inr ⟨call :: handed, crash, ?_, fun h => hraises h.2, ?_⟩
        · exact List.cons_prefix_cons.mpr ⟨rfl, hprefix⟩
        · exact herror.trans (congrArg _ after_append.symm)

end DrawingLibrary

/-! ### Showing -/

namespace Display

/-- A display as prints: a table stands between empty lines. -/
def prints : Display → List Print
  | message text => [.message text]
  | table t => [.blank, .table t, .blank]

/-- A message, or a table that is rectangular. -/
def IsPresentable : Display → Prop
  | message _ => True
  | table t => t.IsRectangular

theorem exists_prints_calls (d : Display) (s : Table) (rest : List DrawCall) :
    ∃ t, DrawCall.prints s (d.calls ++ rest) = d.prints ++ DrawCall.prints t rest := by
  cases d with
  | message text => exact ⟨s, rfl⟩
  | table t => exact ⟨t, DrawCall.prints_drawing s t rest⟩

/-- **The calls for displays are read back as the displays.** -/
theorem prints_flatMap_calls (displays : List Display) (s : Table) :
    DrawCall.prints s (displays.flatMap calls) = displays.flatMap prints := by
  -- The table that is being built up is any: each drawn table leaves itself behind.
  induction displays generalizing s with
  | nil => rfl
  | cons d displays ih =>
    obtain ⟨t, ht⟩ := exists_prints_calls d s (displays.flatMap calls)
    rw [List.flatMap_cons, List.flatMap_cons, ht, ih]

/-- A table among the prints of presentable displays is rectangular. -/
theorem isRectangular_of_mem_prints {displays : List Display}
    (h : ∀ d ∈ displays, d.IsPresentable) {t : Table}
    (ht : Print.table t ∈ displays.flatMap prints) : t.IsRectangular := by
  obtain ⟨d, hd, hmem⟩ := List.mem_flatMap.mp ht
  cases d with
  | message text => simp [prints] at hmem
  | table t' =>
    obtain rfl : t = t' := by simpa [prints] using hmem
    exact h _ hd

/-- The lines of a display are those of its prints. -/
theorem allLines?_prints (d : Display) : Print.allLines? d.prints = d.lines? := by
  cases d with
  | message text => rfl
  | table t =>
    rw [lines?, Table.lines_eq_body?]
    cases hbody : t.body? <;> simp [Print.allLines?, prints, Print.lines?, hbody]

theorem IsPresentable.exists_lines {d : Display} (h : d.IsPresentable) :
    ∃ lines, d.lines? = some lines := by
  cases d with
  | message text => exact ⟨_, rfl⟩
  | table t =>
    obtain ⟨body, hbody⟩ := Option.isSome_iff_exists.mp (Table.IsRectangular.isSome_body? h)
    exact ⟨[] :: body ++ [[]], by rw [lines?, Table.lines_eq_body?, hbody, Option.map_some]⟩

theorem showing_present (library : DrawingLibrary) (d : Display) :
    d.showing (.present library) = forM d.calls (Showing.ask library) := rfl

theorem run_showing_absent {d : Display} {lines : List Text} (h : d.lines? = some lines)
    (screen : Screen) :
    (d.showing .absent).run screen = .ok () (screen.append (Screen.ofLines lines)) := by
  simp only [showing, DrawingTool.load, h]
  rfl

/-- The library is asked for what the displays call for. -/
theorem showAll_present (library : DrawingLibrary) (displays : List Display) :
    showAll (.present library) displays =
      forM (displays.flatMap calls) (Showing.ask library) := by
  induction displays with
  | nil => rfl
  | cons d displays ih =>
    rw [showAll, List.forM_cons, ← showAll, ih, showing_present, List.flatMap_cons,
      List.forM_append]

theorem append_ofLines (screen : Screen) (ls ms : List Text) :
    (screen.append (Screen.ofLines ls)).append (Screen.ofLines ms) =
      screen.append (Screen.ofLines (ls ++ ms)) := by
  simp only [Screen.append, Screen.ofLines, List.flatMap_append, List.append_assoc,
    List.append_nil]

/-- **Presentable displays are printed as the lines of their prints.** -/
theorem run_showAll_absent {displays : List Display} (h : ∀ d ∈ displays, d.IsPresentable) :
    ∃ lines, Print.allLines? (displays.flatMap prints) = some lines ∧ ∀ screen,
      (showAll .absent displays).run screen = .ok () (screen.append (Screen.ofLines lines)) := by
  induction displays with
  | nil =>
    refine ⟨[], rfl, fun screen => congrArg (EStateM.Result.ok ()) ?_⟩
    simp only [Screen.append, Screen.ofLines, List.flatMap_nil, List.append_nil]
  | cons d displays ih =>
    obtain ⟨hd, hdisplays⟩ := List.forall_mem_cons.mp h
    obtain ⟨ms, hms, hprinted⟩ := ih hdisplays
    obtain ⟨ls, hls⟩ := hd.exists_lines
    refine ⟨ls ++ ms, ?_, fun screen => ?_⟩
    · exact Print.allLines?_append ((allLines?_prints d).trans hls) hms
    · rw [showAll, List.forM_cons, ← showAll, EStateM.run_bind, run_showing_absent hls]
      dsimp only
      rw [hprinted, append_ofLines]

end Display

/-! ### With the library or without -/

namespace DrawingMode

/-- A library that is installed draws the calls, raising an error at none of them. -/
def Draws (mode : DrawingMode) (calls : List DrawCall) : Prop :=
  ∀ library, mode = .present library → library.Draws [] calls

/-- What is on the screen where the library has been asked for calls or, where it is not installed,
lines have been printed. -/
def screen (mode : DrawingMode) (calls : List DrawCall) (lines : List Text) : Screen :=
  match mode with
  | .absent => Screen.ofLines lines
  | .present library => ⟨library.writes [] calls, calls⟩

theorem draws_absent (calls : List DrawCall) : absent.Draws calls := fun _ h => nomatch h

theorem draws_present_iff {library : DrawingLibrary} {calls : List DrawCall} :
    (present library).Draws calls ↔ library.Draws [] calls := by
  refine ⟨fun h => h library rfl, fun h library' heq => ?_⟩
  obtain rfl := present.inj heq
  exact h

theorem draws_silent (calls : List DrawCall) : (present .silent).Draws calls :=
  draws_present_iff.mpr (DrawingLibrary.draws_silent [] calls)

end DrawingMode

end MediaCatalog
