import MediaCatalog.Proofs.Replies

/-!
# Copies are faithful

A copy takes over everything there is to a probe, also what cannot be seen of it: whether its mask
has been assigned. That is why a copy of a probe with the empty mask knows whether that mask was
assigned to it or is only the one it started with, and goes on taking assignments or ignoring them
as the original would.

Two things could go wrong nevertheless. A copy shares its link with the original, so that the
link has to lead to the same probe on both sides, and not from the copy of a probe that is linked to
itself to the copy. And the copy lives in a store with others, the original among them, so that
what becomes of the copy must not depend on them. Both are in
`MediaCatalog.Store.copy_faithful`, which compares a run with the copy to a run in which there never
was one.
-/

namespace MediaCatalog

namespace Store

/-- A copy is one of a probe that is there, and of which there are copies. -/
theorem origin?_copy_iff {s : Store} {o : ProbeRef} {g : Origin} :
    s.origin? (.copy o) = some g ↔
      ∃ p, (s.probes[o]? = some p ∧ p.format.copyFault = none) ∧ .copy p = g := by
  simp only [origin?, Option.map_eq_some_iff, Option.filter_eq_some_iff, Option.isNone_iff_eq_none]

/-- Only copying makes copies. -/
theorem exists_of_origin?_copy {s : Store} {a : Step} {p : Probe}
    (h : s.origin? a = some (.copy p)) : ∃ o, a = .copy o ∧ s.probes[o]? = some p := by
  cases a with
  | copy o =>
    obtain ⟨q, ⟨hq, -⟩, heq⟩ := origin?_copy_iff.mp h
    exact ⟨o, rfl, Origin.copy.inj heq ▸ hq⟩
  | recreate o =>
    obtain ⟨q, -, heq⟩ := Option.map_eq_some_iff.mp h
    cases heq
  | _ => cases h

/-- A probe that can be copied is added once more. -/
theorem step_copy {s : Store} {o : ProbeRef} {p : Probe} (hp : s.probes[o]? = some p)
    (hfault : p.format.copyFault = none) : s.step (.copy o) = s.add p :=
  step_of_origin? (origin?_copy_iff.mpr ⟨p, ⟨hp, hfault⟩, rfl⟩)

/-- A probe that cannot be copied leaves an error in the log, and nothing else. -/
theorem step_copy_refused {s : Store} {o : ProbeRef} {p : Probe} {reason : Text}
    (hp : s.probes[o]? = some p) (hfault : p.format.copyFault = some reason) :
    s.step (.copy o) =
      (⟨.error (.refused (.notCopied p.format.name reason)), [p.copyFailed], []⟩, s) := by
  rw [step, hp]
  simp only [Probe.copy, hfault]

/-- **A copy is faithful.** Where probes of the format can be copied, the copy is a new probe, and
those that were there before stay as they are. It refers to the very probe that the original refers
to, be that the original itself, and never to the copy. And operations on the copy, whatever happens
beside them, come out as the same operations on the original would have done without the copy: they
give the same back, log records included, and they make the same of the copy as of the original –
with the same mask, open or closed, and the same last match.

Where they cannot be copied, that is what the copy is refused with, one error is logged, and the
store stays as it is. -/
theorem copy_faithful {s : Store} {o : ProbeRef} {p : Probe} (hp : s.probes[o]? = some p) :
    let copy := s.probes.length
    let event := (s.step (.copy o)).1
    let t := (s.step (.copy o)).2
    (p.format.copyFault = none →
      event = ⟨.ok (.made copy), [], []⟩ ∧ s.probes[copy]? = none ∧
      ((∀ (r : ProbeRef) (q : Probe), s.probes[r]? = some q → t.probes[r]? = some q) ∧
        t.standard = s.standard) ∧
      (∃ q, t.probes[copy]? = some q ∧ q.secondary = p.secondary ∧
        ∀ link, q.secondary = some link → (s.probes[link]?).isSome → link ≠ copy) ∧
      ∀ xs ys, actionsOn copy xs = actionsOn o ys →
        t.replies copy xs = s.replies o ys ∧
          ∃ q, (t.run xs).2.probes[copy]? = some q ∧ (s.run ys).2.probes[o]? = some q) ∧
    ∀ reason, p.format.copyFault = some reason →
      event.result = .error (.refused (.notCopied p.format.name reason)) ∧
      (∃ record, event.log = [record] ∧ record.level = .error) ∧ t = s := by
  intro copy event t
  constructor
  · intro hfault
    have hstep : s.step (.copy o) = s.add p := step_copy hp hfault
    have ht : t = (s.add p).2 := congrArg Prod.snd hstep
    have hnew : s.probes[copy]? = none := List.getElem?_eq_none (Nat.le_refl _)
    -- The copy is the same probe once more, what cannot be seen of it included.
    have hcopy : t.probes[copy]? = some p := by
      rw [ht]
      exact List.getElem?_concat_length
    refine ⟨congrArg Prod.fst hstep, hnew, ⟨fun r q hq => ?_, ?_⟩, ⟨p, hcopy, rfl, ?_⟩, ?_⟩
    · rw [ht]
      exact add_getElem? hq p
    · rw [ht]
      rfl
    · rintro link - hsome rfl
      rw [hnew] at hsome
      exact absurd hsome (by decide)
    · intro xs ys hactions
      exact replies_congr hcopy hp hactions
  · intro reason hfault
    have hstep := step_copy_refused hp hfault
    exact ⟨congrArg (fun r => r.1.result) hstep,
      ⟨p.copyFailed, congrArg (fun r => r.1.log) hstep, rfl⟩, congrArg Prod.snd hstep⟩

/-- A format of which there are no copies. -/
def uncopied : Format where
  name := ['U']
  id := .custom
  copyFault := some "no copies".toList

/-- A store with a probe that is linked to itself and has been assigned the empty mask, and with a
probe that cannot be copied. -/
def selfLinked : Store :=
  (run {} [.create { name := ['A'], id := .mp3 }, .create uncopied, .act 0 (.link (some 0)),
    .act 0 (.assign 0)]).2

/-- The copy of the first probe is linked to the first probe, and is as closed as that is. The
second probe has no copy. -/
theorem copy_faithful_self_linked :
    let t := (selfLinked.step (.copy 0)).2
    (∃ p, selfLinked.probes[0]? = some p ∧ p.format.copyFault = none ∧ p.isOpen = false) ∧
      (∃ q, t.probes[2]? = some q ∧ q.secondary = some 0) ∧
      t.replies 2 [.act 0 (.assign 4), .act 2 (.assign 1), .act 2 .describe] =
        selfLinked.replies 0 [.act 0 (.assign 1), .act 0 .describe] ∧
      (∃ p, selfLinked.probes[1]? = some p ∧ p.format.copyFault = some "no copies".toList) ∧
      (selfLinked.step (.copy 1)).2 = selfLinked := by
  have hp : selfLinked.probes[0]? =
      some ⟨{ name := ['A'], id := .mp3 }, 0, true, none, some 0⟩ := by decide +kernel
  have hu : selfLinked.probes[1]? = some (Probe.ofFormat uncopied) := by decide +kernel
  obtain ⟨-, -, -, ⟨q, hq, hlink, -⟩, hruns⟩ := (copy_faithful hp).1 rfl
  obtain ⟨-, -, hsame⟩ := (copy_faithful hu).2 _ rfl
  exact ⟨⟨_, hp, rfl, rfl⟩, ⟨q, hq, hlink⟩, (hruns _ _ (by decide +kernel)).1, ⟨_, hu, rfl⟩, hsame⟩

end Store

end MediaCatalog
