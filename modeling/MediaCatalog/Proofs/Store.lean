import MediaCatalog.Store

/-!
# A probe in the course of a run

A store holds many probes, and a run is about all of them. Here is what it comes down to for a
single one. A step either operates on the probe, or it leaves it alone: it may make another probe,
operate on another, ask a renderer or exchange the default renderer, and none of this reaches it
(`MediaCatalog.Store.step_getElem?`). So at the end of a run the probe is what its *own* operations
have made of it, in their order (`MediaCatalog.Store.run_getElem?`), and what each of them gave back
was up to the probe as it was then (`MediaCatalog.Store.step_act`).

A probe is made from a format or as a copy of another probe. The `MediaCatalog.Origin` of a probe
says which, with all that its start depends on.
-/

namespace MediaCatalog

/-! ### Runs -/

namespace Store

theorem run_cons (s : Store) (a : Step) (steps : List Step) :
    s.run (a :: steps) =
      ((s.step a).1 :: ((s.step a).2.run steps).1, ((s.step a).2.run steps).2) := rfl

/-! ### The probes that are there -/

/-- The operation that a step carries out on a probe, if it does. -/
def Step.on? (o : ProbeRef) : Step → Option Action
  | .act ref a => if ref = o then some a else none
  | _ => none

theorem Step.on?_eq_some_iff {o : ProbeRef} {a : Step} {b : Action} :
    a.on? o = some b ↔ a = .act o b := by
  cases a with
  | act ref c =>
    rw [on?]
    by_cases href : ref = o <;> simp [href]
  | _ => simp [on?]

/-- The operations that steps carry out on a probe, in their order. -/
def actionsOn (o : ProbeRef) (steps : List Step) : List Action := steps.filterMap (Step.on? o)

theorem lt_length {s : Store} {o : ProbeRef} {p : Probe} (h : s.probes[o]? = some p) :
    o < s.probes.length := (List.getElem?_eq_some_iff.mp h).1

theorem add_getElem? {s : Store} {o : ProbeRef} {p : Probe} (h : s.probes[o]? = some p)
    (q : Probe) : (s.add q).2.probes[o]? = some p := by
  rw [add, List.getElem?_append_left (lt_length h), h]

/-- **What a step does to a probe**: its own operation, or nothing. -/
theorem step_getElem? {s : Store} {o : ProbeRef} {p : Probe} (h : s.probes[o]? = some p)
    (a : Step) :
    (s.step a).2.probes[o]? = some ((a.on? o).elim p fun b => (p.act b).2) := by
  cases a with
  | create f => exact add_getElem? h _
  | recreate ref =>
    rw [step]
    split
    · exact h
    · exact add_getElem? h _
  | copy ref =>
    rw [step]
    split
    · exact h
    · split
      · exact add_getElem? h _
      · exact h
  | act ref b =>
    rw [step]
    split
    · next hnone =>
      have hne : ref ≠ o := fun heq => by
        rw [heq, h] at hnone
        exact absurd hnone (by simp)
      rw [Step.on?, if_neg hne]
      exact h
    · next q hq =>
      by_cases heq : ref = o
      · rw [heq, h] at hq
        obtain rfl := Option.some.inj hq
        rw [Step.on?, if_pos heq, heq]
        exact List.getElem?_set_self (lt_length h)
      · rw [Step.on?, if_neg heq]
        exact (List.getElem?_set_ne heq).trans h
  | ask ref resource renderer =>
    rw [step]
    split
    · exact h
    · cases renderer with
      | some r => exact h
      | none =>
        dsimp only
        split <;> exact h
  | install r => exact h
  | uninstall => exact h
  | installed =>
    rw [step]
    split <;> exact h

/-- **What a run makes of a probe** is what its own operations make of it. -/
theorem run_getElem? {s : Store} {o : ProbeRef} {p : Probe} (h : s.probes[o]? = some p)
    (steps : List Step) :
    (s.run steps).2.probes[o]? = some (p.actAll (actionsOn o steps)).2 := by
  induction steps generalizing s p with
  | nil => exact h
  | cons a steps ih =>
    rw [run_cons, ih (step_getElem? h a), actionsOn, actionsOn, List.filterMap_cons]
    cases a.on? o with
    | none => rfl
    | some b => rfl

/-- What an operation gives back is up to the probe. -/
theorem step_act {s : Store} {o : ProbeRef} {p : Probe} (h : s.probes[o]? = some p) (b : Action) :
    s.step (.act o b) =
      (⟨(p.act b).1.result.map .ofProbe, (p.act b).1.log, []⟩,
        { s with probes := s.probes.set o (p.act b).2 }) := by
  rw [step, h]

/-- An operation that leaves its probe as it is leaves the store as it is. -/
theorem step_act_of_eq {s : Store} {o : ProbeRef} {p : Probe} {b : Action}
    (h : s.probes[o]? = some p) (hb : (p.act b).2 = p) :
    s.step (.act o b) = (⟨(p.act b).1.result.map .ofProbe, (p.act b).1.log, []⟩, s) := by
  have hset : s.probes.set o p = s.probes := by
    obtain ⟨hlt, hp⟩ := List.getElem?_eq_some_iff.mp h
    rw [← hp]
    exact List.set_getElem_self hlt
  rw [step_act h, hb, hset]

end Store

/-! ### The probes that are made -/

/-- What a probe is made from. -/
inductive Origin
  /-- It is made from a format. -/
  | format (f : Format)
  /-- It is a copy of a probe, as that is at the moment. -/
  | copy (source : Probe)
deriving DecidableEq, Repr

/-- What a probe starts as. -/
def Origin.start : Origin → Probe
  | format f => Probe.ofFormat f
  | copy source => source

namespace Store

/-- What the probe that a step makes is made from, if the step makes one. -/
def origin? (s : Store) : Step → Option Origin
  | .create f => some (.format f)
  | .recreate ref => s.probes[ref]?.map fun p => .format p.format
  | .copy ref => (s.probes[ref]?.filter fun p => p.format.copyFault.isNone).map .copy
  | _ => none

/-- **What a step makes**: a probe of its origin, under a reference of its own. -/
theorem step_of_origin? {s : Store} {a : Step} {g : Origin} (h : s.origin? a = some g) :
    s.step a = s.add g.start := by
  cases a with
  | create f =>
    obtain rfl := Option.some.inj h
    rfl
  | recreate ref =>
    obtain ⟨p, hp, rfl⟩ := Option.map_eq_some_iff.mp h
    rw [step, hp]
    rfl
  | copy ref =>
    obtain ⟨p, hfilter, rfl⟩ := Option.map_eq_some_iff.mp h
    obtain ⟨hp, hfault⟩ := Option.filter_eq_some_iff.mp hfilter
    rw [step, hp]
    simp only [Probe.copy, Option.isNone_iff_eq_none.mp hfault, Origin.start]
  | act ref b => exact absurd h (by simp [origin?])
  | ask ref resource renderer => exact absurd h (by simp [origin?])
  | install r => exact absurd h (by simp [origin?])
  | uninstall => exact absurd h (by simp [origin?])
  | installed => exact absurd h (by simp [origin?])

theorem getElem?_of_origin? {s : Store} {a : Step} {g : Origin} (h : s.origin? a = some g) :
    (s.step a).2.probes[s.probes.length]? = some g.start := by
  rw [step_of_origin? h, add]
  exact List.getElem?_concat_length

theorem length_step_of_some {s : Store} {a : Step} {g : Origin} (h : s.origin? a = some g) :
    (s.step a).2.probes.length = s.probes.length + 1 := by
  rw [step_of_origin? h, add]
  exact List.length_append

/-- A step without an origin makes no probe. -/
theorem length_step_of_none {s : Store} {a : Step} (h : s.origin? a = none) :
    (s.step a).2.probes.length = s.probes.length := by
  cases a with
  | create f => exact absurd h (by simp [origin?])
  | recreate ref =>
    rw [step, Option.map_eq_none_iff.mp h]
  | copy ref =>
    rw [step]
    split
    · rfl
    · next p hp =>
      cases hfault : p.format.copyFault with
      | none => exact absurd h (by simp [origin?, hp, hfault])
      | some reason => simp only [Probe.copy, hfault]
  | act ref b =>
    rw [step]
    split
    · rfl
    · exact List.length_set
  | ask ref resource renderer =>
    rw [step]
    split
    · rfl
    · cases renderer with
      | some r => rfl
      | none =>
        dsimp only
        split <;> rfl
  | install r => rfl
  | uninstall => rfl
  | installed =>
    rw [step]
    split <;> rfl

/-- A step takes no probe away. -/
theorem length_le_step (s : Store) (a : Step) :
    s.probes.length ≤ (s.step a).2.probes.length := by
  cases horigin : s.origin? a with
  | none => exact Nat.le_of_eq (length_step_of_none horigin).symm
  | some g =>
    rw [length_step_of_some horigin]
    exact Nat.le_succ _

/-- **Where a probe comes from**: it was there before the step, and the step has done to it what it
does, or the step has made it. -/
theorem exists_of_step {s : Store} {a : Step} {o : ProbeRef} {q : Probe}
    (h : (s.step a).2.probes[o]? = some q) :
    (∃ p, s.probes[o]? = some p ∧ q = (a.on? o).elim p fun b => (p.act b).2) ∨
      o = s.probes.length ∧ ∃ g, s.origin? a = some g ∧ q = g.start := by
  cases hp : s.probes[o]? with
  | some p => exact .inl ⟨p, rfl, Option.some.inj (h.symm.trans (step_getElem? hp a))⟩
  | none =>
    have hle : s.probes.length ≤ o := List.getElem?_eq_none_iff.mp hp
    have hlt := lt_length h
    cases horigin : s.origin? a with
    | none =>
      rw [length_step_of_none horigin] at hlt
      exact absurd hlt (Nat.not_lt.mpr hle)
    | some g =>
      rw [length_step_of_some horigin] at hlt
      obtain rfl : o = s.probes.length := Nat.le_antisymm (Nat.le_of_lt_succ hlt) hle
      exact .inr ⟨rfl, g, rfl, Option.some.inj (h.symm.trans (getElem?_of_origin? horigin))⟩

end Store

end MediaCatalog
