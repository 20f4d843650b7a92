import MediaCatalog.Proofs.FormatSet
import MediaCatalog.Proofs.Text.Trim
import MediaCatalog.Settings

/-!
# Reading the settings

The settings come from three variables, none of which has a part in what is read from another. So
settings can be read if the formats and the level can, each on its own
(`MediaCatalog.Settings.load_eq_ok_iff`), and where they cannot, the fault is in one of the two, the
formats being looked at first (`MediaCatalog.Settings.load_eq_error_iff`).

Of a list of formats it matters which names are among its entries, but not how they are written:
the case of an entry, the white space around it and blank entries have no part in what is read
(`MediaCatalog.Settings.mem_of_readFormats`).
-/

namespace MediaCatalog

/-- The errors that are about what the user has given: a name of a format, or a variable. -/
def Error.isAboutInput : Error → Bool
  | unknownName _ | undeclared _ | badFormatEntry _ | badLogLevel _ => true
  | notCopied .. | unknownSupplier .. | noRenderer | noDrawing => false

namespace LogLevel

theorem mem_all (l : LogLevel) : l ∈ all := by cases l <;> decide

theorem name_injective : Function.Injective name := fun l m h =>
  List.inj_on_of_nodup_map (by decide) (mem_all l) (mem_all m) h

/-- A level is found by its name and by no other. -/
theorem ofName?_eq_some_iff {spelling : Text} {l : LogLevel} :
    ofName? spelling = some l ↔ l.name = spelling :=
  find?_name_eq_some_iff mem_all name_injective

theorem ofName?_eq_none_iff {spelling : Text} :
    ofName? spelling = none ↔ ∀ l : LogLevel, l.name ≠ spelling :=
  find?_name_eq_none_iff mem_all

end LogLevel

namespace Catalog

/-- An identifier is read from its name, whatever the case and the white space around it. -/
theorem readId_eq_ok_iff {entry : Text} {id : FormatId} :
    readId entry = .ok id ↔ Text.upper (Text.trim entry) = id.name := by
  rw [eq_comm (b := id.name), ← FormatId.ofName?_eq_some_iff, readId]
  cases FormatId.ofName? (Text.upper (Text.trim entry)) <;> simp

/-- What is read as no identifier is refused under the name that was given. -/
theorem readId_eq_error_iff {entry : Text} :
    readId entry = .error (.unknownName entry) ↔
      ∀ id : FormatId, Text.upper (Text.trim entry) ≠ id.name := by
  simp only [ne_comm (a := Text.upper _)]
  rw [← FormatId.ofName?_eq_none_iff, readId]
  cases FormatId.ofName? (Text.upper (Text.trim entry)) <;> simp

/-- White space names no format. -/
theorem readId_ne_ok_of_isBlankText {entry : Text} (h : Text.isBlankText entry = true)
    (id : FormatId) : readId entry ≠ .ok id := by
  rw [Ne, readId_eq_ok_iff, Text.trim_of_isBlankText h]
  cases id <;> decide

end Catalog

namespace Settings

/-- The formats that are read from their variable. -/
def formatsOf : Option Text → Except Error (List FormatId)
  | some raw => readFormats raw
  | none => .ok defaultRendererFormats

/-- The level that is read from its variable. -/
def levelOf : Option Text → Except Error LogLevel
  | some raw => readLevel raw
  | none => .ok defaultLogLevel

variable {env : Environment} {e : Error}

/-- The settings are read from one variable after the other. -/
theorem load_eq (env : Environment) :
    load env = do
      let formats ← formatsOf env.rendererFormats
      let level ← levelOf env.logLevel
      return ⟨level, env.rendererName.getD defaultRendererName, formats⟩ := by
  rw [load]
  cases env.rendererFormats <;> cases env.logLevel <;> rfl

theorem load_eq_ok_iff {s : Settings} :
    load env = .ok s ↔ formatsOf env.rendererFormats = .ok s.rendererFormats ∧
      levelOf env.logLevel = .ok s.logLevel ∧
      s.rendererName = env.rendererName.getD defaultRendererName := by
  rw [load_eq]
  obtain ⟨level, name, formats⟩ := s
  cases formatsOf env.rendererFormats with
  | error e => simp [bind, Except.bind]
  | ok formats' =>
    cases levelOf env.logLevel with
    | error e => simp [bind, Except.bind]
    | ok level' =>
      simp only [bind, Except.bind, pure, Except.pure, Except.ok.injEq, mk.injEq]
      exact ⟨fun ⟨hlevel, hname, hformats⟩ => ⟨hformats, hlevel, hname.symm⟩,
        fun ⟨hformats, hlevel, hname⟩ => ⟨hlevel, hname.symm, hformats⟩⟩

theorem load_eq_error_iff :
    load env = .error e ↔ formatsOf env.rendererFormats = .error e ∨
      (∃ formats, formatsOf env.rendererFormats = .ok formats) ∧
        levelOf env.logLevel = .error e := by
  rw [load_eq]
  cases formatsOf env.rendererFormats with
  | error e => simp [bind, Except.bind]
  | ok formats =>
    cases levelOf env.logLevel <;> simp [bind, Except.bind, pure, Except.pure]

/-! ### Formats -/

theorem readEntries_cons_eq_ok_iff {entry : Text} {entries : List Text} {ids : List FormatId} :
    readEntries (entry :: entries) = .ok ids ↔
      ∃ id rest, ids = id :: rest ∧ Catalog.readId entry = .ok id ∧
        readEntries entries = .ok rest := by
  rw [readEntries]
  cases Catalog.readId entry with
  | error e => simp
  | ok id => cases readEntries entries <;> simp [Except.map, eq_comm]

/-- **The identifiers that entries are read as** are those whose names the entries are, in upper
case and without the white space around them. -/
theorem readEntries_eq_ok_iff {entries : List Text} {ids : List FormatId} :
    readEntries entries = .ok ids ↔
      (entries.map fun entry => Text.upper (Text.trim entry)) = ids.map FormatId.name := by
  induction entries generalizing ids with
  | nil =>
    rw [readEntries, List.map_nil, Except.ok.injEq, eq_comm, eq_comm (a := []),
      List.map_eq_nil_iff]
  | cons entry entries ih =>
    rw [readEntries_cons_eq_ok_iff, List.map_cons, eq_comm (b := ids.map FormatId.name),
      List.map_eq_cons_iff]
    refine exists_congr fun id => exists_congr fun rest => and_congr_right fun _ => ?_
    rw [Catalog.readId_eq_ok_iff, ih, eq_comm (b := id.name), eq_comm (b := rest.map FormatId.name)]

theorem mem_of_readEntries {entries : List Text} {ids : List FormatId}
    (h : readEntries entries = .ok ids) (id : FormatId) :
    id ∈ ids ↔ ∃ entry ∈ entries, Catalog.readId entry = .ok id := by
  rw [← List.mem_map_of_injective FormatId.name_injective, ← readEntries_eq_ok_iff.mp h,
    List.mem_map]
  simp only [Catalog.readId_eq_ok_iff]

/-- **The formats that a list names** are those whose name is an entry of the list, whatever the
case and the white space around it. -/
theorem mem_of_readFormats {raw : Text} {ids : List FormatId} (h : readFormats raw = .ok ids)
    (id : FormatId) :
    id ∈ ids ↔ ∃ entry ∈ Text.cut ',' raw, Text.upper (Text.trim entry) = id.name := by
  rw [mem_of_readEntries h]
  constructor
  · rintro ⟨entry, hentry, hid⟩
    exact ⟨entry, List.mem_of_mem_filter hentry, Catalog.readId_eq_ok_iff.mp hid⟩
  · rintro ⟨entry, hentry, hname⟩
    have hid : Catalog.readId entry = .ok id := Catalog.readId_eq_ok_iff.mpr hname
    refine ⟨entry, List.mem_filter.mpr ⟨hentry, ?_⟩, hid⟩
    rw [Bool.not_eq_true', Bool.eq_false_iff]
    exact fun hblank => Catalog.readId_ne_ok_of_isBlankText hblank id hid

/-! ### Faults -/

/-- Whether an entry names no format. -/
def namesNothing (entry : Text) : Bool := (FormatId.ofName? (Text.upper (Text.trim entry))).isNone

theorem namesNothing_iff {entry : Text} :
    namesNothing entry ↔ ∀ id : FormatId, Text.upper (Text.trim entry) ≠ id.name := by
  simp only [ne_comm (a := Text.upper _)]
  rw [← FormatId.ofName?_eq_none_iff, namesNothing, Option.isNone_iff_eq_none]

/-- **Entries are refused for the first of them that names no format.** -/
theorem readEntries_eq_error_iff {entries : List Text} :
    readEntries entries = .error e ↔
      ∃ entry, entries.find? namesNothing = some entry ∧ e = .badFormatEntry entry := by
  induction entries with
  | nil => simp [readEntries]
  | cons entry entries ih =>
    rw [readEntries, List.find?_cons, namesNothing, Catalog.readId]
    cases FormatId.ofName? (Text.upper (Text.trim entry)) with
    | none => simp [eq_comm]
    | some id => cases hrest : readEntries entries <;> simp [← ih, hrest, Except.map]

/-- A level is read from its name, whatever the case and the white space around it. -/
theorem readLevel_eq_ok_iff {raw : Text} {level : LogLevel} :
    readLevel raw = .ok level ↔ Text.upper (Text.trim raw) = level.name := by
  rw [eq_comm (b := level.name), ← LogLevel.ofName?_eq_some_iff, readLevel]
  cases LogLevel.ofName? (Text.upper (Text.trim raw)) <;> simp

theorem readLevel_eq_error_iff {raw : Text} :
    readLevel raw = .error e ↔
      (∀ level : LogLevel, Text.upper (Text.trim raw) ≠ level.name) ∧ e = .badLogLevel raw := by
  simp only [ne_comm (a := Text.upper _)]
  rw [← LogLevel.ofName?_eq_none_iff, readLevel]
  cases LogLevel.ofName? (Text.upper (Text.trim raw)) <;> simp [eq_comm]

/-- **Settings that cannot be read** are refused for what is in a variable. -/
theorem isAboutInput_of_load (h : load env = .error e) : e.isAboutInput = true := by
  rcases load_eq_error_iff.mp h with hformats | ⟨-, hlevel⟩
  · cases hraw : env.rendererFormats with
    | none => exact absurd (hraw ▸ hformats) (by simp [formatsOf])
    | some raw =>
      rw [hraw] at hformats
      obtain ⟨entry, -, rfl⟩ := readEntries_eq_error_iff.mp hformats
      rfl
  · cases hraw : env.logLevel with
    | none => exact absurd (hraw ▸ hlevel) (by simp [levelOf])
    | some raw =>
      rw [hraw] at hlevel
      obtain ⟨-, rfl⟩ := readLevel_eq_error_iff.mp hlevel
      rfl

end Settings

end MediaCatalog
