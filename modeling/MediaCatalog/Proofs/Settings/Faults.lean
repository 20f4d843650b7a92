import MediaCatalog.Proofs.Settings

/-!
# Settings that cannot be loaded

Two of the three variables can be at fault. The list of formats is at fault if one of its entries is
neither blank nor the name of a format, and the level is at fault if it is set and not the name of a
level. The settings are refused in these two cases and in no other
(`MediaCatalog.Settings.load_fails_iff`).

The formats come first, whatever the level is, and they are refused for the first of the entries
that are at fault. The error quotes that entry as it stands in the list
(`MediaCatalog.Error.BlamesEntry`). Where nothing is at fault the settings are what the variables
say (`MediaCatalog.Settings.IsSetBy`), and a list of blank entries says that there are no formats.
-/

namespace MediaCatalog

open Text

/-! ### Faults -/

namespace Settings

/-- An entry of a list that is at fault: it is not blank, and in upper case and without the white
space around it it is not the name of any format. -/
def IsFaulty (entry : Text) : Prop :=
  isBlankText entry = false ∧ ∀ id : FormatId, upper (trim entry) ≠ id.name

/-- The first of the entries of a list that is at fault. -/
def IsFirstFault (raw entry : Text) : Prop :=
  ∃ before after, cut ',' raw = before ++ entry :: after ∧ IsFaulty entry ∧
    ∀ other ∈ before, ¬IsFaulty other

/-- The formats are set, and an entry of the list is at fault. -/
def HasFaultyEntry (env : Environment) : Prop :=
  ∃ raw ∈ env.rendererFormats, ∃ entry ∈ cut ',' raw, IsFaulty entry

/-- The level is set, and in upper case and without the white space around it it is not the name of
any level. -/
def HasFaultyLevel (env : Environment) : Prop :=
  ∃ raw ∈ env.logLevel, ∀ level : LogLevel, upper (trim raw) ≠ level.name

theorem isFaulty_iff {entry : Text} :
    IsFaulty entry ↔ (!isBlankText entry && namesNothing entry) = true := by
  rw [IsFaulty, ← namesNothing_iff, Bool.and_eq_true, Bool.not_eq_true']

instance (entry : Text) : Decidable (IsFaulty entry) := decidable_of_iff' _ isFaulty_iff

theorem isFirstFault_iff {raw entry : Text} :
    IsFirstFault raw entry ↔ (cut ',' raw).find? (fun e => decide (IsFaulty e)) = some entry := by
  simp only [List.find?_eq_some_iff_append, decide_eq_true_eq, Bool.not_eq_true',
    decide_eq_false_iff_not, IsFirstFault]
  constructor
  · rintro ⟨before, after, hcut, hfaulty, hbefore⟩
    exact ⟨hfaulty, before, after, hcut, hbefore⟩
  · rintro ⟨hfaulty, before, after, hcut, hbefore⟩
    exact ⟨before, after, hcut, hfaulty, hbefore⟩

theorem exists_isFirstFault_iff {raw : Text} :
    (∃ entry, IsFirstFault raw entry) ↔ ∃ entry ∈ cut ',' raw, IsFaulty entry := by
  simp only [isFirstFault_iff, ← Option.isSome_iff_exists, List.find?_isSome, decide_eq_true_eq]

/-- **A list of formats is refused for the first entry that is at fault.** -/
theorem readFormats_eq_error_iff {raw : Text} {e : Error} :
    readFormats raw = .error e ↔ ∃ entry, IsFirstFault raw entry ∧ e = .badFormatEntry entry := by
  rw [readFormats, readEntries_eq_error_iff, List.find?_filter]
  refine exists_congr fun entry => and_congr_left fun _ => ?_
  simp only [isFirstFault_iff, isFaulty_iff, Bool.and_eq_true]

theorem formatsOf_eq_error_iff {raw? : Option Text} {e : Error} :
    formatsOf raw? = .error e ↔
      ∃ raw ∈ raw?, ∃ entry, IsFirstFault raw entry ∧ e = .badFormatEntry entry := by
  cases raw? with
  | none => simp [formatsOf]
  | some raw => simp [formatsOf, readFormats_eq_error_iff]

theorem levelOf_eq_error_iff {raw? : Option Text} {e : Error} :
    levelOf raw? = .error e ↔
      ∃ raw ∈ raw?, (∀ level : LogLevel, upper (trim raw) ≠ level.name) ∧ e = .badLogLevel raw := by
  cases raw? with
  | none => simp [levelOf]
  | some raw => simp [levelOf, readLevel_eq_error_iff]

theorem exists_formatsOf_eq_ok {env : Environment} (h : ¬HasFaultyEntry env) :
    ∃ ids, formatsOf env.rendererFormats = .ok ids := by
  cases hread : formatsOf env.rendererFormats with
  | ok ids => exact ⟨ids, rfl⟩
  | error e =>
    obtain ⟨raw, hraw, entry, hfirst, -⟩ := formatsOf_eq_error_iff.mp hread
    exact absurd ⟨raw, hraw, exists_isFirstFault_iff.mp ⟨entry, hfirst⟩⟩ h

theorem exists_levelOf_eq_ok {env : Environment} (h : ¬HasFaultyLevel env) :
    ∃ level, levelOf env.logLevel = .ok level := by
  cases hread : levelOf env.logLevel with
  | ok level => exact ⟨level, rfl⟩
  | error e =>
    obtain ⟨raw, hraw, hnone, -⟩ := levelOf_eq_error_iff.mp hread
    exact absurd ⟨raw, hraw, hnone⟩ h

end Settings

/-! ### What is said about a fault -/

namespace Error

/-- The errors that say that a variable is at fault. -/
def isConfiguration : Error → Bool
  | badFormatEntry _ | badLogLevel _ => true
  | unknownName _ | undeclared _ | notCopied .. | unknownSupplier .. | noRenderer | noDrawing =>
    false

/-- What an error says about an entry at fault. It names the variable and says what is wrong with
the entry as it is when the entry is read on its own, with the same hint. -/
structure BlamesEntry (e : Error) (entry : Text) : Prop where
  /-- The error is about a variable. -/
  isConfiguration : e.isConfiguration = true
  /-- It passes on what is said about the entry. -/
  cause : ∃ cause, Catalog.readId entry = .error cause ∧
    e.message = "Invalid format in ".toList ++ Variable.rendererFormats.name ++ ": ".toList
      ++ cause.message ∧
    e.hint = cause.hint ∧ cause.hint.isSome
  /-- It quotes the entry as it stands in the list. -/
  quotes : entry <:+ e.message

/-- What an error says about a level at fault. -/
structure BlamesLevel (e : Error) (raw : Text) : Prop where
  /-- The error is about a variable. -/
  isConfiguration : e.isConfiguration = true
  /-- It quotes the variable as it stands. -/
  quotes : e.message =
    "Invalid log level in ".toList ++ Variable.logLevel.name ++ ": ".toList ++ raw

theorem blamesEntry_badFormatEntry {entry : Text}
    (h : ∀ id : FormatId, upper (trim entry) ≠ id.name) :
    (badFormatEntry entry).BlamesEntry entry where
  isConfiguration := rfl
  cause := ⟨.unknownName entry, Catalog.readId_eq_error_iff.mpr h, rfl, rfl, rfl⟩
  quotes := List.suffix_append_of_suffix (List.suffix_append _ entry)

theorem blamesLevel_badLogLevel (raw : Text) : (badLogLevel raw).BlamesLevel raw where
  isConfiguration := rfl
  quotes := rfl

end Error

namespace Settings

/-! ### Settings without a fault -/

/-- Settings that are what the variables say, and the defaults where a variable is not set. -/
structure IsSetBy (s : Settings) (env : Environment) : Prop where
  /-- The name is the variable as it stands. -/
  name : s.rendererName = env.rendererName.getD defaultRendererName
  /-- The formats are those that the entries name which are not blank, in order and as often as
  they are named. -/
  formats : ∀ raw ∈ env.rendererFormats,
    (((cut ',' raw).filter fun entry => !isBlankText entry).map fun entry => upper (trim entry)) =
      s.rendererFormats.map FormatId.name
  /-- There are no formats if all entries are blank. -/
  noFormats : ∀ raw ∈ env.rendererFormats, (∀ entry ∈ cut ',' raw, isBlankText entry) →
    s.rendererFormats = []
  defaultFormats : env.rendererFormats = none → s.rendererFormats = defaultRendererFormats
  /-- The level is the one that is named. -/
  level : ∀ raw ∈ env.logLevel, upper (trim raw) = s.logLevel.name
  defaultLevel : env.logLevel = none → s.logLevel = defaultLogLevel

theorem isSetBy_of_load {env : Environment} {s : Settings} (h : load env = .ok s) :
    s.IsSetBy env := by
  obtain ⟨hformats, hlevel, hname⟩ := load_eq_ok_iff.mp h
  have hentries : ∀ raw ∈ env.rendererFormats,
      (((cut ',' raw).filter fun entry => !isBlankText entry).map fun entry =>
        upper (trim entry)) = s.rendererFormats.map FormatId.name := by
    intro raw hraw
    rw [Option.mem_def.mp hraw] at hformats
    exact readEntries_eq_ok_iff.mp hformats
  refine ⟨hname, hentries, fun raw hraw hblank => ?_, fun hnone => ?_, fun raw hraw => ?_,
    fun hnone => ?_⟩
  · have hnone : ((cut ',' raw).filter fun entry => !isBlankText entry) = [] :=
      List.filter_eq_nil_iff.mpr fun entry hentry => by simp [hblank entry hentry]
    have hnames := hentries raw hraw
    rw [hnone, List.map_nil] at hnames
    exact List.map_eq_nil_iff.mp hnames.symm
  · rw [hnone] at hformats
    exact (Except.ok.inj hformats).symm
  · rw [Option.mem_def.mp hraw] at hlevel
    exact readLevel_eq_ok_iff.mp hlevel
  · rw [hnone] at hlevel
    exact (Except.ok.inj hlevel).symm

/-! ### The statement -/

variable {env : Environment}

theorem blamesEntry_of_hasFaultyEntry (h : HasFaultyEntry env) :
    ∃ raw ∈ env.rendererFormats, ∃ entry, IsFirstFault raw entry ∧
      ∃ e, load env = .error e ∧ e.BlamesEntry entry := by
  obtain ⟨raw, hraw, hfaulty⟩ := h
  obtain ⟨entry, hfirst⟩ := exists_isFirstFault_iff.mpr hfaulty
  have hentry : IsFaulty entry := by
    obtain ⟨-, -, -, hentry, -⟩ := hfirst
    exact hentry
  refine ⟨raw, hraw, entry, hfirst, .badFormatEntry entry, ?_,
    Error.blamesEntry_badFormatEntry hentry.2⟩
  exact load_eq_error_iff.mpr (.inl (formatsOf_eq_error_iff.mpr ⟨raw, hraw, entry, hfirst, rfl⟩))

theorem blamesLevel_of_hasFaultyLevel (hformats : ¬HasFaultyEntry env) (h : HasFaultyLevel env) :
    ∃ raw ∈ env.logLevel, ∃ e, load env = .error e ∧ e.BlamesLevel raw := by
  obtain ⟨raw, hraw, hnone⟩ := h
  refine ⟨raw, hraw, .badLogLevel raw, ?_, Error.blamesLevel_badLogLevel raw⟩
  exact load_eq_error_iff.mpr (.inr ⟨exists_formatsOf_eq_ok hformats,
    levelOf_eq_error_iff.mpr ⟨raw, hraw, hnone, rfl⟩⟩)

theorem isSetBy_of_not_faulty (hformats : ¬HasFaultyEntry env) (hlevel : ¬HasFaultyLevel env) :
    ∃ s, load env = .ok s ∧ s.IsSetBy env := by
  obtain ⟨ids, hids⟩ := exists_formatsOf_eq_ok hformats
  obtain ⟨level, hread⟩ := exists_levelOf_eq_ok hlevel
  have hload : load env = .ok ⟨level, env.rendererName.getD defaultRendererName, ids⟩ :=
    load_eq_ok_iff.mpr ⟨hids, hread, rfl⟩
  exact ⟨_, hload, isSetBy_of_load hload⟩

/-- **When settings are refused**: exactly if an entry of the list of formats is at fault or the
level is, and always with an error that says so of the variable. If an entry is at fault, it is the
first such entry that is blamed, whether or not the level is at fault too. If only the level is at
fault, that is blamed. And if nothing is at fault, the settings are what the variables say. -/
theorem load_fails_iff (env : Environment) :
    ((∃ e, load env = .error e) ↔ HasFaultyEntry env ∨ HasFaultyLevel env) ∧
      (∀ e, load env = .error e → e.isConfiguration = true) ∧
      (HasFaultyEntry env → ∃ raw ∈ env.rendererFormats, ∃ entry, IsFirstFault raw entry ∧
        ∃ e, load env = .error e ∧ e.BlamesEntry entry) ∧
      (¬HasFaultyEntry env → HasFaultyLevel env → ∃ raw ∈ env.logLevel,
        ∃ e, load env = .error e ∧ e.BlamesLevel raw) ∧
      (¬HasFaultyEntry env → ¬HasFaultyLevel env → ∃ s, load env = .ok s ∧ s.IsSetBy env) := by
  refine ⟨?_, ?_, blamesEntry_of_hasFaultyEntry, blamesLevel_of_hasFaultyLevel,
    isSetBy_of_not_faulty⟩
  · constructor
    · rintro ⟨e, he⟩
      by_contra hnone
      rw [not_or] at hnone
      obtain ⟨s, hs, -⟩ := isSetBy_of_not_faulty hnone.1 hnone.2
      cases he.symm.trans hs
    · intro hfault
      by_cases hformats : HasFaultyEntry env
      · obtain ⟨-, -, -, -, e, he, -⟩ := blamesEntry_of_hasFaultyEntry hformats
        exact ⟨e, he⟩
      · obtain ⟨-, -, e, he, -⟩ :=
          blamesLevel_of_hasFaultyLevel hformats (hfault.resolve_left hformats)
        exact ⟨e, he⟩
  · intro e he
    rcases load_eq_error_iff.mp he with hformats | ⟨-, hlevel⟩
    · obtain ⟨-, -, -, -, rfl⟩ := formatsOf_eq_error_iff.mp hformats
      rfl
    · obtain ⟨-, -, -, rfl⟩ := levelOf_eq_error_iff.mp hlevel
      rfl

/-- The formats and the level are both at fault, and so are two of the entries. -/
def faultyEnvironment : Environment where
  logLevel := some "loud".toList
  rendererFormats := some "mp3,, betamax ,vhs".toList

/-- It is the first of these entries that is quoted, padding included. -/
theorem load_fails_two_faults :
    HasFaultyEntry faultyEnvironment ∧ HasFaultyLevel faultyEnvironment ∧
      ∃ e, load faultyEnvironment = .error e ∧ e.BlamesEntry " betamax ".toList := by
  have hfirst : (cut ',' "mp3,, betamax ,vhs".toList).find? (fun e => decide (IsFaulty e)) =
      some " betamax ".toList := by decide +kernel
  have hformats : HasFaultyEntry faultyEnvironment :=
    ⟨_, rfl, exists_isFirstFault_iff.mp ⟨_, isFirstFault_iff.mpr hfirst⟩⟩
  have hlevel : ∀ level : LogLevel, upper (trim "loud".toList) ≠ level.name := by
    intro level
    cases level <;> decide +kernel
  obtain ⟨-, -, hblames, -⟩ := load_fails_iff faultyEnvironment
  obtain ⟨raw, hraw, entry, hentry, e, he, hquotes⟩ := hblames hformats
  obtain rfl := Option.some.inj hraw
  obtain rfl := Option.some.inj ((isFirstFault_iff.mp hentry).symm.trans hfirst)
  exact ⟨hformats, ⟨_, rfl, hlevel⟩, e, he, hquotes⟩

end Settings

end MediaCatalog
