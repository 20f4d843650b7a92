import MediaCatalog.Proofs.Store
import MediaCatalog.Session

/-!
# A session and its store

A step of a session replaces the names in it by what they stand for and then comes down to at most
one step on the store (`MediaCatalog.Session.storeStep?`). Everything that is known about steps on a
store carries over: a probe is what its own operations make of it, *through whatever slot* they
came.
-/

namespace MediaCatalog

namespace Session

/-- The step on the store that a step of a session comes down to, if it comes down to one. -/
def storeStep? (s : Session) (a : Step) : Option Store.Step :=
  match s.resolve a with
  | .ok (.onStore b _) => some b
  | _ => none

theorem store_place (s : Session) (slot : Option Text) (event : Store.Event) :
    (s.place slot event).store = s.store := by
  unfold place
  split <;> rfl

/-- What a step of a session makes of the store. -/
theorem store_step (s : Session) (a : Step) :
    (s.step a).2.store = (s.storeStep? a).elim s.store fun b => (s.store.step b).2 := by
  rw [step, storeStep?]
  cases s.resolve a with
  | error fault => rfl
  | ok plan =>
    cases plan with
    | onStore b slot => exact store_place _ _ _
    | name id r answer => rfl
    | say answer => rfl

/-- The operation that a step of a session carries out on a probe, if it does. -/
def own? (o : ProbeRef) (s : Session) (a : Step) : Option Action :=
  (s.storeStep? a).bind (Store.Step.on? o)

/-- What the probe that a step of a session makes is made from, if the step makes one. -/
def origin? (s : Session) (a : Step) : Option Origin := (s.storeStep? a).bind s.store.origin?

theorem step_getElem? {s : Session} {o : ProbeRef} {p : Probe} (h : s.store.probes[o]? = some p)
    (a : Step) :
    (s.step a).2.store.probes[o]? = some ((own? o s a).elim p fun b => (p.act b).2) := by
  rw [store_step, own?]
  cases s.storeStep? a with
  | none => exact h
  | some b => exact Store.step_getElem? h b

theorem getElem?_of_origin? {s : Session} {a : Step} {g : Origin} (h : s.origin? a = some g) :
    (s.step a).2.store.probes[s.store.probes.length]? = some g.start := by
  obtain ⟨b, hb, hg⟩ := Option.bind_eq_some_iff.mp h
  rw [store_step, hb]
  exact Store.getElem?_of_origin? hg

theorem length_step_of_some {s : Session} {a : Step} {g : Origin} (h : s.origin? a = some g) :
    (s.step a).2.store.probes.length = s.store.probes.length + 1 := by
  obtain ⟨b, hb, hg⟩ := Option.bind_eq_some_iff.mp h
  rw [store_step, hb]
  exact Store.length_step_of_some hg

theorem length_step_of_none {s : Session} {a : Step} (h : s.origin? a = none) :
    (s.step a).2.store.probes.length = s.store.probes.length := by
  rw [store_step]
  cases hb : s.storeStep? a with
  | none => rfl
  | some b =>
    rw [origin?, hb] at h
    exact Store.length_step_of_none h

/-- What an operation on a probe gives back, as a session shows it. -/
def Event.ofReply (r : Reply) : Event :=
  ⟨(r.result.map fun x => .ofStore (.ofProbe x)).mapError .ofStore, r.log, []⟩

end Session

end MediaCatalog
