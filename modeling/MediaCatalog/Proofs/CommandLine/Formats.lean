import MediaCatalog.Proofs.CommandLine.Run
import MediaCatalog.Proofs.Settings

/-!
# The configured formats

The settings keep the formats of the default renderer as they are listed, in their order and with
every repetition. The renderer that is made of them keeps a set, and it is all that a run has of
them: what is installed, what is answered and what is written in the log come from the renderer
(`MediaCatalog.CommandLine.perform_congr`).

So two runs whose settings agree in the rest are the same on all arguments exactly if the same
formats are listed (`MediaCatalog.CommandLine.run_formats`). How an environment lists them is a
matter of taste.
-/

namespace MediaCatalog.CommandLine

/-- The renderer of the settings is their name and the set of their formats. -/
theorem deviceOf_eq_iff {s s' : Settings} :
    deviceOf s' = deviceOf s ↔ s'.rendererName = s.rendererName ∧
      ∀ id, id ∈ s'.rendererFormats ↔ id ∈ s.rendererFormats := by
  rw [deviceOf, deviceOf, Renderer.device.injEq, Profile.ofList_eq_ofList_iff]

/-- **A request depends on the settings through two things**, the renderer that is made of them and
their level. -/
theorem perform_congr {s s' : Settings} (hdevice : deviceOf s' = deviceOf s)
    (hlevel : s'.logLevel = s.logLevel) (host : Host) (request : Request) :
    perform host s' request = perform host s request := by
  have hstore : storeOf s' = storeOf s := by rw [storeOf, storeOf, hdevice]
  have hentries : entriesOf host.clock s' request.command =
      entriesOf host.clock s request.command := by
    rw [entriesOf, entriesOf, recordsOf, recordsOf, hdevice, hstore]
  have hleast : leastLevel s' request.verbose = leastLevel s request.verbose := by
    rw [leastLevel, leastLevel, hlevel]
  rw [perform_eq, perform_eq, hdevice, hstore, hentries, hleast]

section Run

variable {env env' : Environment} {s s' : Settings}

/-- Runs that do the same with every request are the same on all arguments. -/
theorem run_congr (hload : Settings.load env = .ok s) (hload' : Settings.load env' = .ok s')
    {host : Host} (h : ∀ request, perform host s' request = perform host s request)
    (args : List Text) : run host env' args = run host env args := by
  cases hargs : Request.ofArgs args with
  | error halt => rw [run_of_halt hargs, run_of_halt hargs]
  | ok request => rw [run_of_load hargs hload, run_of_load hargs hload', h]

/-- What is installed at the end of a run tells the renderer of the settings. -/
theorem deviceOf_eq_of_run (hload : Settings.load env = .ok s)
    (hload' : Settings.load env' = .ok s')
    (h : ∀ host args, run host env' args = run host env args) : deviceOf s' = deviceOf s := by
  have hargs : Request.ofArgs ["types".toList] = .ok ⟨false, .types⟩ := by decide +kernel
  have hinstalled := congrArg Transcript.installed (h {} ["types".toList])
  rw [run_of_load hargs hload, run_of_load hargs hload', perform_eq, perform_eq] at hinstalled
  exact Option.some.inj hinstalled

/-- **Order and repetition of the configured formats do not matter.** In two environments whose
settings agree in the name of the renderer and in the level, all runs are the same, whatever the
arguments, whatever draws and whatever the clock shows, exactly if the same formats are listed.

A format is listed if its name is an entry of the list, whatever the case and the white space around
it. And in general the profiles of two devices are equal exactly if these go by the same name and
play the same formats, which a profile keeps in the order of their names. -/
theorem run_formats (hload : Settings.load env = .ok s) (hload' : Settings.load env' = .ok s')
    (hname : s'.rendererName = s.rendererName) (hlevel : s'.logLevel = s.logLevel) :
    ((∀ host args, run host env' args = run host env args) ↔
      ∀ id, id ∈ s'.rendererFormats ↔ id ∈ s.rendererFormats) ∧
    (∀ raw, env.rendererFormats = some raw → ∀ id, id ∈ s.rendererFormats ↔
      ∃ entry ∈ Text.cut ',' raw, Text.upper (Text.trim entry) = id.name) ∧
    (∀ a b xs ys, Profile.ofList a xs = Profile.ofList b ys ↔ a = b ∧ ∀ id, id ∈ xs ↔ id ∈ ys) ∧
    ∀ p : Profile, p.supported.toList.Pairwise fun i j => i.name < j.name := by
  refine ⟨⟨fun h => ?_, fun h host args => ?_⟩, fun raw hraw => ?_,
    fun _ _ _ _ => Profile.ofList_eq_ofList_iff, fun p => p.supported.pairwise_toList⟩
  · exact (deviceOf_eq_iff.mp (deviceOf_eq_of_run hload hload' h)).2
  · have hdevice : deviceOf s' = deviceOf s := deviceOf_eq_iff.mpr ⟨hname, h⟩
    exact run_congr hload hload' (perform_congr hdevice hlevel host) args
  · obtain ⟨hformats, -, -⟩ := Settings.load_eq_ok_iff.mp hload
    rw [hraw] at hformats
    exact Settings.mem_of_readFormats hformats

end Run

/-- Two ways to list the same formats. -/
theorem run_formats_reordered :
    let env : Environment := { rendererFormats := some " mkv,MP3,,mp3 ".toList }
    let env' : Environment := { rendererFormats := some "Mp3 ,\t, MKV".toList }
    Settings.load env =
        .ok ⟨.warning, Settings.defaultRendererName, [.mkv, .mp3, .mp3]⟩ ∧
      Settings.load env' = .ok ⟨.warning, Settings.defaultRendererName, [.mp3, .mkv]⟩ ∧
      ∀ host args, run host env' args = run host env args := by
  intro env env'
  have hload : Settings.load env =
      .ok ⟨.warning, Settings.defaultRendererName, [.mkv, .mp3, .mp3]⟩ := by decide +kernel
  have hload' : Settings.load env' =
      .ok ⟨.warning, Settings.defaultRendererName, [.mp3, .mkv]⟩ := by decide +kernel
  obtain ⟨hruns, -⟩ := run_formats hload hload' rfl rfl
  exact ⟨hload, hload', hruns.mpr (by simp [or_comm])⟩

end MediaCatalog.CommandLine
