import MediaCatalog.Proofs.Register
import MediaCatalog.Proofs.Replies

/-!
# What matched last

A probe answers two kinds of question. What a resource would match by is up to the format alone;
whether skip lists skip *what matched last* is up to a slot that the probe carries along. A test
reads the format and writes the slot, which is where a client could go wrong: a test that fails does
not clear the slot, and another client may have written it in between.

The slot is a register. Some operations write it, the others leave it alone
(`MediaCatalog.Action.written?`), and it holds what was written last
(`MediaCatalog.Probe.matched_actAll`). From this the stateful questions come down to the pure ones
(`MediaCatalog.Store.replies_agree`): a test says whether the format finds anything, and a question
about skip lists has the answer that the lists give for the value of the slot. In particular a
client with a copy of its own, who asks after a successful test, gets what the lists say about what
the format finds, whatever other clients do with theirs.
-/

namespace MediaCatalog

/-! ### The slot as a register -/

/-- What an operation on a probe of a format writes for what matched last, if it writes. A test
writes only when it succeeds; that nothing matched can be written, too. -/
def Action.written? (f : Format) : Action → Option (Option Text)
  | .test name => (f.find name).map some
  | .remember matched => some matched
  | _ => none

/-- What matched last after operations on a probe of a format: what was written last, or what was
there at first. -/
def Format.lastMatched (f : Format) (first : Option Text) (actions : List Action) : Option Text :=
  Register.content (Action.written? f) first actions

/-- What a probe has matched when it is made: nothing, unless it is a copy. -/
def Origin.matched : Origin → Option Text
  | format _ => none
  | copy source => source.matched

theorem Origin.matched_start (g : Origin) : g.start.matched = g.matched := by
  cases g <;> rfl

namespace Probe

/-- An operation writes what it writes, and leaves the slot alone otherwise. -/
theorem matched_act (p : Probe) (a : Action) :
    (p.act a).2.matched = (a.written? p.format).getD p.matched := by
  cases a with
  | test name =>
    rw [act, test_eq, Action.written?, ← find]
    cases p.find name <;> rfl
  | assign mask =>
    cases mask with
    | negSucc m => rfl
    | ofNat m =>
      rw [act_assign_ofNat]
      split <;> rfl
  | find name => rfl
  | skips groups => rfl
  | remember matched => rfl
  | link secondary => rfl
  | describe => rfl

/-- **The slot holds what was written last.** -/
theorem matched_actAll (p : Probe) (actions : List Action) :
    (p.actAll actions).2.matched = p.format.lastMatched p.matched actions := by
  induction actions generalizing p with
  | nil => rfl
  | cons a actions ih =>
    rw [actAll_cons, ih, format_act, matched_act, Format.lastMatched, Format.lastMatched,
      Register.content_cons]

end Probe

/-- After a test that succeeds, what matched last is what the format finds. -/
theorem Format.lastMatched_concat_test {f : Format} {name : Option Text}
    (h : (f.find name).isSome) (first : Option Text) (actions : List Action) :
    f.lastMatched first (actions ++ [.test name]) = f.find name := by
  obtain ⟨found, hfound⟩ := Option.isSome_iff_exists.mp h
  rw [lastMatched, Register.content_concat, Action.written?, hfound]
  rfl

/-! ### Stateful and pure matching -/

theorem Probe.act_test_fst (p : Probe) (name : Option Text) :
    (p.act (.test name)).1 = ⟨.ok (.verdict (p.format.find name).isSome), []⟩ := by
  rw [act, test_eq]
  rfl

namespace Store

/-- The event of an operation that is answered and leaves no log record. -/
def Event.ofAnswer (a : MediaCatalog.Answer) : Event := ⟨.ok (.ofProbe a), [], []⟩

section Replies

variable {s : Store} {o : ProbeRef} {p : Probe} {steps : List Step} {k : Nat}

/-- A test says whether the format finds anything. -/
theorem replies_test (h : s.probes[o]? = some p) {name : Option Text}
    (hk : (actionsOn o steps)[k]? = some (.test name)) :
    (s.replies o steps)[k]? = some (.ofAnswer (.verdict (p.format.find name).isSome)) := by
  rw [replies_getElem? h hk, Probe.act_test_fst, Probe.format_actAll]
  rfl

theorem replies_find (h : s.probes[o]? = some p) {name : Option Text}
    (hk : (actionsOn o steps)[k]? = some (.find name)) :
    (s.replies o steps)[k]? = some (.ofAnswer (.found (p.format.find name))) := by
  rw [replies_getElem? h hk, ← Probe.format_actAll p ((actionsOn o steps).take k)]
  rfl

/-- A question about skip lists has the answer that they give for what was written last. -/
theorem replies_skips (h : s.probes[o]? = some p) {groups : List (Option Text)}
    (hk : (actionsOn o steps)[k]? = some (.skips groups)) :
    (s.replies o steps)[k]? = some (.ofAnswer (.verdict
      (SkipList.skips (p.format.lastMatched p.matched ((actionsOn o steps).take k)) groups))) := by
  rw [replies_getElem? h hk, ← Probe.matched_actAll]
  rfl

/-- Right after a test that succeeds it has the answer that they give for what the format finds. -/
theorem replies_skips_of_test (h : s.probes[o]? = some p) {name : Option Text}
    {groups : List (Option Text)} (hk : (actionsOn o steps)[k]? = some (.test name))
    (hnext : (actionsOn o steps)[k + 1]? = some (.skips groups))
    (hyes : (s.replies o steps)[k]? = some (.ofAnswer (.verdict true))) :
    (s.replies o steps)[k + 1]? =
      some (.ofAnswer (.verdict (SkipList.skips (p.format.find name) groups))) := by
  have hfound : (p.format.find name).isSome = true := by
    simpa [Event.ofAnswer] using (replies_test h hk).symm.trans hyes
  -- The test is the last operation before the question, and it has written what it found.
  have hlast : p.format.lastMatched p.matched ((actionsOn o steps).take (k + 1)) =
      p.format.find name := by
    rw [List.take_add_one, hk]
    exact Format.lastMatched_concat_test hfound p.matched _
  rw [replies_skips h hnext, hlast]

end Replies

/-- **Stateful matching agrees with pure matching.** Take a probe from when it is made, from a
format or as a copy, and any run with it and with others. In the end the probe has matched what was
written last. And what its operations give back is this: a test says whether the format finds
anything, in whatever state; a question about skip lists has the answer that the lists give for what
was written last. So after a test that succeeds, and if this is the next operation *on the probe*,
it has the answer that they give for what the format finds, whatever other clients do in between
with probes of their own. -/
theorem replies_agree {s : Store} {a : Step} {g : Origin} (h : s.origin? a = some g)
    (steps : List Step) :
    let o := s.probes.length
    let t := (s.step a).2
    let f := g.start.format
    let actions := actionsOn o steps
    let replies := t.replies o steps
    (∃ p, (t.run steps).2.probes[o]? = some p ∧ p.format = f ∧
        p.matched = f.lastMatched g.matched actions) ∧
      (∀ (k : Nat) name, actions[k]? = some (.test name) →
        replies[k]? = some (.ofAnswer (.verdict (f.find name).isSome))) ∧
      (∀ (k : Nat) name, actions[k]? = some (.find name) →
        replies[k]? = some (.ofAnswer (.found (f.find name)))) ∧
      (∀ (k : Nat) groups, actions[k]? = some (.skips groups) →
        replies[k]? = some (.ofAnswer
          (.verdict (SkipList.skips (f.lastMatched g.matched (actions.take k)) groups)))) ∧
      ∀ (k : Nat) name groups, actions[k]? = some (.test name) →
        actions[k + 1]? = some (.skips groups) →
        replies[k]? = some (.ofAnswer (.verdict true)) →
        replies[k + 1]? = some (.ofAnswer (.verdict (SkipList.skips (f.find name) groups))) := by
  intro o t f actions replies
  have hmade : t.probes[o]? = some g.start := getElem?_of_origin? h
  refine ⟨⟨_, run_getElem? hmade steps, g.start.format_actAll _, ?_⟩, ?_, ?_, ?_, ?_⟩
  · rw [Probe.matched_actAll, g.matched_start]
  · exact fun k name hk => replies_test hmade hk
  · exact fun k name hk => replies_find hmade hk
  · intro k groups hk
    rw [← g.matched_start]
    exact replies_skips hmade hk
  · exact fun k name groups hk hnext hyes => replies_skips_of_test hmade hk hnext hyes

/-- The format of the probe that the clients below copy. -/
def tune : Format where
  name := ['T']
  id := .mp3
  extensions := ["mp3".toList]

/-- Two clients at work, each with a copy of its own: the first has made its copy, and now the
second makes one. Between the test of the first and its question the second clears its slot. -/
def twoClients : List Step :=
  [.copy 0, .act 1 (.remember (some "mpa".toList)), .act 2 (.test (some "b.mp3".toList)),
    .act 1 (.test (some "A.MP3".toList)), .act 2 (.remember none),
    .act 1 (.skips [none, some "ogg, Mp3".toList]), .act 2 (.skips [some "mp3".toList])]

theorem replies_agree_two_clients :
    let s := (step {} (.create tune)).2
    let t := (s.step (.copy 0)).2
    (s.origin? (.copy 0) = some (.copy (Probe.ofFormat tune)) ∧
      (actionsOn 1 twoClients)[1]? = some (.test (some "A.MP3".toList)) ∧
      (actionsOn 1 twoClients)[2]? = some (.skips [none, some "ogg, Mp3".toList]) ∧
      (t.replies 1 twoClients)[1]? = some (.ofAnswer (.verdict true))) ∧
    (t.replies 1 twoClients)[2]? = some (.ofAnswer (.verdict
      (SkipList.skips (tune.find (some "A.MP3".toList)) [none, some "ogg, Mp3".toList]))) := by
  intro s t
  have horigin : s.origin? (.copy 0) = some (.copy (Probe.ofFormat tune)) := by decide +kernel
  have htest : (actionsOn 1 twoClients)[1]? = some (.test (some "A.MP3".toList)) := by
    decide +kernel
  have hskips : (actionsOn 1 twoClients)[2]? = some (.skips [none, some "ogg, Mp3".toList]) := by
    decide +kernel
  obtain ⟨-, hyes, -, -, hagree⟩ := replies_agree horigin twoClients
  have hfound : (tune.find (some "A.MP3".toList)).isSome = true := by decide +kernel
  have hverdict := hyes 1 _ htest
  rw [show (Origin.copy (Probe.ofFormat tune)).start.format = tune from rfl, hfound] at hverdict
  exact ⟨⟨horigin, htest, hskips, hverdict⟩, hagree 1 _ _ htest hskips hverdict⟩

end Store

end MediaCatalog
