import MediaCatalog.Proofs.Copy
import MediaCatalog.Proofs.LastMatch
import MediaCatalog.Proofs.Recognition
import MediaCatalog.Proofs.SkipList.Joining

/-!
# What a match leaves behind

A probe that has passed a test can be skipped by what it matched, and so can its copies. Unless a
client writes the slot itself, this is all there is to the slot: it is filled when the probe, or the
probe that it is a copy of, has passed a test (`MediaCatalog.Store.HasMatched`), and then with
something that the format finds (`MediaCatalog.Store.Recorded`). Both are kept by every step, those
that make probes included, and so they hold after every run (`MediaCatalog.Store.recorded_run`).

For a format that goes by extensions this is what the skip list of its own extensions asks for. The
list names them as they are declared, while the slot has one of them in lower case, and so the
answer of the list tells whether there has been a match
(`MediaCatalog.Store.skips_extensions_iff_hasMatched`).
-/

namespace MediaCatalog

/-- What an operation writes that is not a record of its own is what the format finds. -/
theorem Action.exists_of_written? {f : Format} {a : Action} (ha : ∀ m, a ≠ .remember m)
    {written : Option Text} (h : a.written? f = some written) :
    ∃ name m, f.find name = some m ∧ some m = written := by
  cases a with
  | test name => exact ⟨name, Option.map_eq_some_iff.mp h⟩
  | remember m => exact absurd rfl (ha m)
  | _ => cases h

namespace Store

open Text

/-! ### Matches of the past -/

/-- That a probe has matched in the course of steps, from the empty store on: it has passed a test,
or it is a copy of a probe that had matched before the copy was made. -/
inductive HasMatched : List Step → ProbeRef → Prop
  /-- It has just passed a test. -/
  | test {steps : List Step} {o : ProbeRef} {name : Option Text}
      (hyes : ((run {} steps).2.step (.act o (.test name))).1.result =
        .ok (.ofProbe (.verdict true))) :
      HasMatched (steps ++ [.act o (.test name)]) o
  /-- It has just been made as a copy of a probe that has matched. -/
  | copy {steps : List Step} {source o : ProbeRef}
      (hmade : ((run {} steps).2.step (.copy source)).1.result = .ok (.made o))
      (hsource : HasMatched steps source) :
      HasMatched (steps ++ [.copy source]) o
  /-- It had matched before. -/
  | later {steps : List Step} {o : ProbeRef} (a : Step) (hbefore : HasMatched steps o) :
      HasMatched (steps ++ [a]) o

theorem run_concat_snd (s : Store) (steps : List Step) (a : Step) :
    (s.run (steps ++ [a])).2 = ((s.run steps).2.step a).2 := by
  rw [run_append_snd]
  rfl

/-- What the last step can have to do with a match. -/
theorem hasMatched_concat_iff {steps : List Step} {a : Step} {o : ProbeRef} :
    HasMatched (steps ++ [a]) o ↔
      HasMatched steps o ∨
      (∃ name, a = .act o (.test name) ∧
        ((run {} steps).2.step a).1.result = .ok (.ofProbe (.verdict true))) ∨
      ∃ source, a = .copy source ∧ ((run {} steps).2.step a).1.result = .ok (.made o) ∧
        HasMatched steps source := by
  constructor
  · intro h
    generalize hlast : steps ++ [a] = all at h
    cases h with
    | test hyes =>
      obtain ⟨rfl, ⟨⟩⟩ := List.append_inj' hlast rfl
      exact .inr (.inl ⟨_, rfl, hyes⟩)
    | copy hmade hsource =>
      obtain ⟨rfl, ⟨⟩⟩ := List.append_inj' hlast rfl
      exact .inr (.inr ⟨_, rfl, hmade, hsource⟩)
    | later b hbefore =>
      obtain ⟨rfl, ⟨⟩⟩ := List.append_inj' hlast rfl
      exact .inl hbefore
  · rintro (hbefore | ⟨name, rfl, hyes⟩ | ⟨source, rfl, hmade, hsource⟩)
    · exact .later a hbefore
    · exact .test hyes
    · exact .copy hmade hsource

/-! ### What the steps give back -/

/-- A test says yes if there is a probe, and its format finds something. -/
theorem result_test_iff {s : Store} {o : ProbeRef} {name : Option Text} :
    (s.step (.act o (.test name))).1.result = .ok (.ofProbe (.verdict true)) ↔
      ∃ p, s.probes[o]? = some p ∧ (p.format.find name).isSome := by
  cases hp : s.probes[o]? with
  | none => simp [step, hp]
  | some p => simp [step_act hp, Probe.act_test_fst, Except.map]

/-- A copy is made if there is a probe that can be copied, and it is the next probe. -/
theorem result_copy_iff {s : Store} {source o : ProbeRef} :
    (s.step (.copy source)).1.result = .ok (.made o) ↔
      o = s.probes.length ∧ (s.origin? (.copy source)).isSome := by
  rw [Option.isSome_iff_exists]
  simp only [origin?_copy_iff]
  cases hp : s.probes[source]? with
  | none => simp [step, hp]
  | some p =>
    cases hfault : p.format.copyFault with
    | none => simp [step_copy hp hfault, add, hfault, eq_comm]
    | some reason => simp [step_copy_refused hp hfault, hfault]

/-! ### One more step -/

section Step

variable {steps : List Step} {a : Step} {o : ProbeRef} {p : Probe}

/-- Only a probe that is there has matched. -/
theorem HasMatched.lt_length (h : HasMatched steps o) : o < (run {} steps).2.probes.length := by
  induction h with
  | test hyes =>
    obtain ⟨p, hp, -⟩ := result_test_iff.mp hyes
    rw [run_concat_snd]
    exact (Store.lt_length hp).trans_le (length_le_step _ _)
  | copy hmade _ _ =>
    obtain ⟨rfl, hcopied⟩ := result_copy_iff.mp hmade
    obtain ⟨g, horigin⟩ := Option.isSome_iff_exists.mp hcopied
    rw [run_concat_snd, length_step_of_some horigin]
    exact Nat.lt_succ_self _
  | later a _ ih =>
    rw [run_concat_snd]
    exact ih.trans_le (length_le_step _ a)

/-- A probe that is there has matched after its operation if it had before, or if the operation
writes something. -/
theorem hasMatched_concat_act_iff (hp : (run {} steps).2.probes[o]? = some p) {b : Action}
    (hb : ∀ m, b ≠ .remember m) :
    HasMatched (steps ++ [.act o b]) o ↔ HasMatched steps o ∨ (b.written? p.format).isSome := by
  rw [hasMatched_concat_iff]
  refine or_congr_right ?_
  cases b with
  | test name => simp [result_test_iff, hp, Action.written?]
  | remember m => exact absurd rfl (hb m)
  | _ => simp [Action.written?]

/-- A step that is not about a probe that is there makes no match of it. -/
theorem hasMatched_concat_of_on?_eq_none (hp : (run {} steps).2.probes[o]? = some p)
    (hon : a.on? o = none) : HasMatched (steps ++ [a]) o ↔ HasMatched steps o := by
  rw [hasMatched_concat_iff]
  refine or_iff_left ?_
  rintro (⟨name, rfl, -⟩ | ⟨source, rfl, hmade, -⟩)
  · exact absurd ((Step.on?_eq_some_iff.mpr rfl).symm.trans hon) (Option.some_ne_none _)
  · exact absurd (result_copy_iff.mp hmade).1 (Store.lt_length hp).ne

/-- A probe that has just been made has matched if it is a copy of one that has. -/
theorem hasMatched_concat_of_origin? {g : Origin} (ho : o = (run {} steps).2.probes.length)
    (horigin : (run {} steps).2.origin? a = some g) :
    HasMatched (steps ++ [a]) o ↔ ∃ source, a = .copy source ∧ HasMatched steps source := by
  have hnew : ¬HasMatched steps o := fun h => absurd ho h.lt_length.ne
  rw [hasMatched_concat_iff, or_iff_right hnew]
  constructor
  · rintro (⟨name, rfl, -⟩ | ⟨source, rfl, -, hsource⟩)
    · cases horigin
    · exact ⟨source, rfl, hsource⟩
  · rintro ⟨source, rfl, hsource⟩
    have hmade := result_copy_iff.mpr ⟨ho, Option.isSome_iff_exists.mpr ⟨g, horigin⟩⟩
    exact .inr ⟨source, rfl, hmade, hsource⟩

end Step

/-! ### The slot after a run -/

/-- What the slot of a probe says about the steps that have led to the probe: it is filled if the
probe has matched, and with something that the format finds. -/
structure Recorded (steps : List Step) (o : ProbeRef) (p : Probe) : Prop where
  /-- It is filled if the probe has matched. -/
  isSome_iff : p.matched.isSome ↔ HasMatched steps o
  /-- What it is filled with is found in some resource. -/
  found : ∀ m, p.matched = some m → ∃ name, p.format.find name = some m

namespace Recorded

variable {steps : List Step} {o : ProbeRef} {p : Probe}

/-- A step that is not about the probe changes neither the slot nor the matches. -/
theorem aside (h : Recorded steps o p) (hp : (run {} steps).2.probes[o]? = some p) {a : Step}
    (hon : a.on? o = none) : Recorded (steps ++ [a]) o p where
  isSome_iff := by
    rw [hasMatched_concat_of_on?_eq_none hp hon]
    exact h.isSome_iff
  found := h.found

/-- An operation that is not a record of its own keeps the slot in line. -/
theorem act (h : Recorded steps o p) (hp : (run {} steps).2.probes[o]? = some p) {b : Action}
    (hb : ∀ m, b ≠ .remember m) : Recorded (steps ++ [.act o b]) o (p.act b).2 := by
  have hmatched := p.matched_act b
  have hiff := hasMatched_concat_act_iff hp hb
  cases hwritten : b.written? p.format with
  | none =>
    rw [hwritten] at hmatched hiff
    refine ⟨?_, ?_⟩
    · rw [hmatched, hiff]
      simpa using h.isSome_iff
    · rw [hmatched, Probe.format_act]
      exact h.found
  | some w =>
    rw [hwritten] at hmatched hiff
    obtain ⟨name, m, hfound, rfl⟩ := Action.exists_of_written? hb hwritten
    refine ⟨?_, ?_⟩
    · rw [hmatched, hiff]
      simp
    · rw [hmatched, Probe.format_act]
      intro m' heq
      exact ⟨name, hfound.trans heq⟩

/-- A probe of a format starts with an empty slot, and the step that makes it is no copy. -/
theorem ofFormat {a : Step} {f : Format} (ho : o = (run {} steps).2.probes.length)
    (horigin : (run {} steps).2.origin? a = some (.format f)) :
    Recorded (steps ++ [a]) o (Probe.ofFormat f) where
  isSome_iff := by
    refine iff_of_false Bool.false_ne_true fun h => ?_
    obtain ⟨source, rfl, -⟩ := (hasMatched_concat_of_origin? ho horigin).mp h
    obtain ⟨q, -, heq⟩ := origin?_copy_iff.mp horigin
    cases heq
  found := by
    rintro m ⟨⟩

/-- A copy starts with the slot of its source, and with the matches of its source. -/
theorem copy {source : ProbeRef} (h : Recorded steps source p)
    (ho : o = (run {} steps).2.probes.length)
    (horigin : (run {} steps).2.origin? (.copy source) = some (.copy p)) :
    Recorded (steps ++ [.copy source]) o p where
  isSome_iff := by
    rw [hasMatched_concat_of_origin? ho horigin]
    exact h.isSome_iff.trans (by simp)
  found := h.found

end Recorded

/-- **The slot records the matches of the past**, after every run in which no client writes it. -/
theorem recorded_run {steps : List Step}
    (hsteps : ∀ r m, Step.act r (.remember m) ∉ steps) {o : ProbeRef} {p : Probe}
    (hp : (run {} steps).2.probes[o]? = some p) : Recorded steps o p := by
  induction steps using List.reverseRecOn generalizing o p with
  | nil => exact absurd hp (by simp [run])
  | append_singleton steps a ih =>
    have hbefore : ∀ r m, Step.act r (.remember m) ∉ steps := fun r m hmem =>
      hsteps r m (List.mem_append_left _ hmem)
    rw [run_concat_snd] at hp
    rcases exists_of_step hp with ⟨q, hq, rfl⟩ | ⟨ho, g, horigin, rfl⟩
    · -- The probe was there before the step, which is an operation on it or about something else.
      cases hon : a.on? o with
      | none => exact (ih hbefore hq).aside hq hon
      | some b =>
        obtain rfl := Step.on?_eq_some_iff.mp hon
        refine (ih hbefore hq).act hq fun m heq => ?_
        exact hsteps o m (List.mem_append_right _ (heq ▸ List.mem_singleton_self _))
    · -- The step has made the probe.
      cases g with
      | format f => exact .ofFormat ho horigin
      | copy q =>
        obtain ⟨source, rfl, hq⟩ := exists_of_origin?_copy horigin
        exact (ih hbefore hq).copy ho horigin

/-! ### The skip list of the extensions -/

/-- **What a match leaves behind.** Take a probe of a format that goes by extensions which can be
listed, and any run in which no client writes a slot. What the probe has matched is nothing or one
of the extensions in lower case. And the skip list of all the extensions, as they are declared,
skips it exactly if the probe has matched in the run, or the probe that it is a copy of before the
copy was made, and so on back through copies of copies. -/
theorem skips_extensions_iff_hasMatched {steps : List Step}
    (hsteps : ∀ r m, Step.act r (.remember m) ∉ steps) {o : ProbeRef} {p : Probe}
    (hp : (run {} steps).2.probes[o]? = some p) (hrule : p.format.rule = .extension)
    (hlist : ∀ d ∈ p.format.extensions, SkipList.IsListable d)
    (hjoined : join [','] p.format.extensions ≠ SkipList.everything) :
    (p.matched = none ∨ ∃ d ∈ p.format.extensions, p.matched = some (lower d)) ∧
      (p.skips [some (join [','] p.format.extensions)] ↔ HasMatched steps o) := by
  have hrecorded := recorded_run hsteps hp
  have hmatched : ∀ m, p.matched = some m → ∃ d ∈ p.format.extensions, m = lower d := by
    intro m hm
    obtain ⟨name, hfind⟩ := hrecorded.found m hm
    cases name with
    | none => simp [Format.find, hrule] at hfind
    | some name =>
      rw [Format.find_of_extension hrule] at hfind
      obtain ⟨-, hmem, -⟩ := Format.findExtension_eq_some hfind
      obtain ⟨d, hd, rfl⟩ := List.mem_map.mp hmem
      exact ⟨d, hd, rfl⟩
  constructor
  · cases hm : p.matched with
    | none => exact .inl rfl
    | some m =>
      obtain ⟨d, hd, rfl⟩ := hmatched m hm
      exact .inr ⟨d, hd, rfl⟩
  · rw [Probe.skips, SkipList.skips_join_iff hlist hjoined hmatched]
    exact hrecorded.isSome_iff

/-- A format of music, with extensions in mixed case. -/
def music : Format where
  name := ['M']
  id := .mp3
  extensions := [['M', 'P', '3'], ['O', 'g', 'g']]

/-- A probe fails a test and passes another, and is then copied, and its copy as well. -/
def copiedTwice : List Step :=
  [.create music, .act 0 (.test (some "a.oggs".toList)), .act 0 (.test (some "a.OGG".toList)),
    .copy 0, .copy 1]

/-- The copy of the copy can be skipped by the extensions. -/
theorem skips_extensions_copied_twice :
    ∃ p, (run {} copiedTwice).2.probes[2]? = some p ∧ p.matched = some "ogg".toList ∧
      p.skips [some "MP3,Ogg".toList] = true ∧ HasMatched copiedTwice 2 := by
  have hp : (run {} copiedTwice).2.probes[2]? =
      some ((Probe.ofFormat music).remember (some "ogg".toList)) := by decide +kernel
  have hsteps : ∀ r m, Step.act r (.remember m) ∉ copiedTwice := by
    simp [copiedTwice]
  have hlist : ∀ d ∈ music.extensions, SkipList.IsListable d := by
    simp only [music, List.forall_mem_cons, List.not_mem_nil, false_imp_iff, implies_true, and_true]
    refine ⟨⟨by decide +kernel, by decide +kernel, ?_⟩, ⟨by decide +kernel, by decide +kernel, ?_⟩⟩
    all_goals
      rintro _ ⟨⟩
      decide +kernel
  obtain ⟨-, hiff⟩ := skips_extensions_iff_hasMatched hsteps hp rfl hlist (by decide +kernel)
  have hskips : ((Probe.ofFormat music).remember (some "ogg".toList)).skips
      [some "MP3,Ogg".toList] = true := by decide +kernel
  exact ⟨_, hp, rfl, hskips, hiff.mp hskips⟩

end Store

end MediaCatalog
