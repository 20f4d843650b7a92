import MediaCatalog.Proofs.Probe
import MediaCatalog.Proofs.Store

/-!
# What a run gives back

A run gives back one event for each of its steps. The event of a step is what the step gives back
in the store that the steps before it have made (`MediaCatalog.Store.run_fst_getElem?`), so that a
statement about a step in any store is one about every step of every run.

A client who works with one probe sees some of the events only, those of the operations on its
probe: the **replies** of the probe. They are what the probe gives back when it is alone with its
operations, whatever the run does in between (`MediaCatalog.Store.replies_eq`). A client therefore
need not know who else is at work, and a statement about operations on a single probe, one after the
other, is one about every interleaving.
-/

namespace MediaCatalog

namespace Probe

/-- The reply to an operation is up to the probe that the operations before it have made. -/
theorem actAll_fst_getElem? (p : Probe) (actions : List Action) (k : Nat) :
    (p.actAll actions).1[k]? =
      actions[k]?.map fun a => ((p.actAll (actions.take k)).2.act a).1 := by
  induction actions generalizing p k with
  | nil => rfl
  | cons a actions ih =>
    cases k with
    | zero => rfl
    | succ k => exact ih (p.act a).2 k

end Probe

namespace Store

/-! ### Events -/

theorem run_append_snd (s : Store) (xs ys : List Step) :
    (s.run (xs ++ ys)).2 = ((s.run xs).2.run ys).2 := by
  induction xs generalizing s with
  | nil => rfl
  | cons a xs ih => exact ih (s.step a).2

/-- The reply of a probe, as an event of a run. -/
def Event.ofReply (r : Reply) : Event := ⟨r.result.map .ofProbe, r.log, []⟩

/-- What a run gives back to the operations on a probe. -/
def replies (s : Store) (o : ProbeRef) (steps : List Step) : List Event :=
  (steps.zip (s.run steps).1).filterMap fun (a, event) => (a.on? o).map fun _ => event

theorem replies_cons (s : Store) (o : ProbeRef) (a : Step) (steps : List Step) :
    s.replies o (a :: steps) =
      ((a.on? o).map fun _ => (s.step a).1).toList ++ (s.step a).2.replies o steps := by
  rw [replies, run_cons, List.zip_cons_cons, List.filterMap_cons]
  dsimp only
  cases a.on? o <;> rfl

/-- **The replies of a probe are its own**: they are what its operations give back when there is
nothing but the probe. -/
theorem replies_eq {s : Store} {o : ProbeRef} {p : Probe} (h : s.probes[o]? = some p)
    (steps : List Step) :
    s.replies o steps = (p.actAll (actionsOn o steps)).1.map Event.ofReply := by
  induction steps generalizing s p with
  | nil => rfl
  | cons a steps ih =>
    have hstep := step_getElem? h a
    rw [replies_cons, actionsOn, List.filterMap_cons]
    cases hon : a.on? o with
    | none =>
      rw [hon] at hstep
      exact ih hstep
    | some b =>
      rw [hon] at hstep
      obtain rfl := Step.on?_eq_some_iff.mp hon
      rw [ih hstep, step_act h]
      rfl

/-- The reply to an operation is up to the probe that the operations before it have made. -/
theorem replies_getElem? {s : Store} {o : ProbeRef} {p : Probe} (h : s.probes[o]? = some p)
    {steps : List Step} {k : Nat} {a : Action} (ha : (actionsOn o steps)[k]? = some a) :
    (s.replies o steps)[k]? =
      some (Event.ofReply ((p.actAll ((actionsOn o steps).take k)).2.act a).1) := by
  rw [replies_eq h, List.getElem?_map, Probe.actAll_fst_getElem?, ha]
  rfl

/-- **Equal probes come out alike**: the same operations, in whatever runs, give the same back from
both and make the same of both. -/
theorem replies_congr {s t : Store} {o o' : ProbeRef} {p : Probe} {xs ys : List Step}
    (hs : s.probes[o]? = some p) (ht : t.probes[o']? = some p)
    (h : actionsOn o xs = actionsOn o' ys) :
    s.replies o xs = t.replies o' ys ∧
      ∃ q, (s.run xs).2.probes[o]? = some q ∧ (t.run ys).2.probes[o']? = some q := by
  refine ⟨?_, (p.actAll (actionsOn o xs)).2, run_getElem? hs xs, ?_⟩
  · rw [replies_eq hs, replies_eq ht, h]
  · rw [run_getElem? ht, h]

end Store

end MediaCatalog
