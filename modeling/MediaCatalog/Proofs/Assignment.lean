import MediaCatalog.Proofs.Probe
import MediaCatalog.Proofs.Store
import Mathlib.Logic.Basic

/-!
# Categories are assigned once

The category of a probe is settled by the first mask that closes it. A mask **closes** a category
when it lacks the bit of the unknown category; the empty mask does so too, but only when it is
assigned: a format without a category leaves its probes open, although their mask is the empty one.
While no mask has closed the category, the last one counts.

The invariant that carries this over a run is that the masks still to come *settle* the same
category before and after a step, if the mask of the step is counted among those before it
(`MediaCatalog.Probe.settle_act`). What a probe remembers beyond its mask, whether it has been
assigned, enters through `MediaCatalog.Probe.isOpen` alone.
-/

namespace MediaCatalog

/-! ### The mask that settles a category -/

namespace Mask

/-- Whether a mask, once assigned, closes the category. -/
def closes (mask : Nat) : Bool := !has mask .unknown

/-- The mask that counts among those assigned to an open category: the first that closes it, or
else the last. -/
def counting? (masks : List Nat) : Option Nat := (masks.find? closes).or masks.getLast?

/-- The category that a probe ends with: that of its format if it is closed from the start, or else
the mask that counts, or that of its format if there is none. -/
def settled (initial : Nat) (masks : List Nat) : Nat :=
  if initial ≠ 0 ∧ closes initial then initial else (counting? masks).getD initial

theorem counting?_cons_of_closes {m : Nat} (hm : closes m) (masks : List Nat) :
    counting? (m :: masks) = some m := by
  rw [counting?, List.find?_cons_of_pos hm]
  rfl

theorem counting?_cons_of_not_closes {m : Nat} (hm : closes m = false) (masks : List Nat) :
    counting? (m :: masks) = some ((counting? masks).getD m) := by
  rw [counting?, counting?, List.find?_cons_of_neg (by simp [hm]), List.getLast?_cons]
  cases masks.find? closes with
  | none => rfl
  | some w => rfl

end Mask

/-! ### Assignments of a probe -/

/-- The mask that an operation assigns, unless it is refused. -/
def Action.mask? : Action → Option Nat
  | .assign mask => mask.toNat?
  | _ => none

namespace Probe

open Mask

/-- The mask that a probe ends with when the given masks are assigned to it. -/
def settle (p : Probe) (masks : List Nat) : Nat :=
  if p.isOpen then (counting? masks).getD p.mask else p.mask

theorem settle_ofFormat (f : Format) (masks : List Nat) :
    (ofFormat f).settle masks = settled f.category masks := by
  have hopen : (ofFormat f).isOpen = true ↔ ¬(f.category ≠ 0 ∧ closes f.category) := by
    simp only [isOpen, ofFormat, closes, Bool.or_eq_true, Bool.not_eq_true', bne_eq_false_iff_eq,
      not_and_or, ne_eq, not_not, Bool.not_eq_false]
  by_cases h : f.category ≠ 0 ∧ closes f.category
  · rw [settle, settled, if_pos h, if_neg (hopen.not.mpr (not_not.mpr h))]
    rfl
  · rw [settle, settled, if_neg h, if_pos (hopen.mpr h)]
    rfl

/-- A category that has been assigned is open as long as its mask does not close it. -/
theorem isOpen_assigned (p : Probe) (m : Nat) :
    { p with mask := m, assigned := true : Probe }.isOpen = !closes m := by
  rw [isOpen, closes, Bool.not_true, Bool.false_or, Bool.not_not]

/-- **The step of the invariant**: an operation leaves what the masks to come settle as it is, when
its own mask is counted before them. -/
theorem settle_act (p : Probe) (a : Action) (masks : List Nat) :
    (p.act a).2.settle masks = p.settle (a.mask?.toList ++ masks) := by
  cases a with
  | test name =>
    rw [act, test_eq]
    cases p.find name <;> rfl
  | assign mask =>
    cases mask with
    | negSucc m => rfl
    | ofNat m =>
      change (p.act (.assign (.ofNat m))).2.settle masks = p.settle (m :: masks)
      rw [act_assign_ofNat]
      by_cases hopen : p.isOpen
      · rw [if_pos hopen, settle, settle, if_pos hopen, isOpen_assigned]
        cases hm : closes m with
        | true =>
          rw [counting?_cons_of_closes hm, if_neg (by simp)]
          rfl
        | false =>
          rw [counting?_cons_of_not_closes hm, if_pos (by simp)]
          rfl
      · rw [if_neg hopen, settle, settle, if_neg hopen, if_neg hopen]
  | find name => rfl
  | skips groups => rfl
  | remember matched => rfl
  | link secondary => rfl
  | describe => rfl

/-- **What a run of operations settles.** -/
theorem mask_actAll (p : Probe) (actions : List Action) :
    (p.actAll actions).2.mask = p.settle (actions.filterMap Action.mask?) := by
  induction actions generalizing p with
  | nil =>
    rw [settle]
    split <;> rfl
  | cons a actions ih =>
    rw [actAll_cons, ih, settle_act, List.filterMap_cons]
    cases a.mask? <;> rfl

end Probe

namespace Store

/-- The masks that steps assign to a probe, in their order, without those that are refused. -/
def masksFor (o : ProbeRef) (steps : List Step) : List Nat :=
  (actionsOn o steps).filterMap Action.mask?

/-- **A category is assigned once.** Whatever a run does with a new probe and with others, the
probe ends with the category that the masks assigned to it settle; and a negative mask is refused at
any time, be the category open or closed, and leaves the store as it is. -/
theorem run_settles (s : Store) (f : Format) (steps : List Step) :
    let o := s.probes.length
    let t := (s.run (.create f :: steps)).2
    (∃ p, t.probes[o]? = some p ∧ p.format = f ∧
        p.mask = Mask.settled f.category (masksFor o steps)) ∧
      ∀ mask : Int, mask < 0 →
        t.step (.act o (.assign mask)) = (⟨.error (.negative ⟨mask⟩), [], []⟩, t) := by
  intro o t
  have hstart : (s.step (.create f)).2.probes[o]? = some (Probe.ofFormat f) :=
    getElem?_of_origin? (g := .format f) rfl
  have hend : t.probes[o]? = some ((Probe.ofFormat f).actAll (actionsOn o steps)).2 :=
    run_getElem? hstart steps
  refine ⟨⟨_, hend, Probe.format_actAll _ _, ?_⟩, fun mask hneg => ?_⟩
  · rw [Probe.mask_actAll, Probe.settle_ofFormat, masksFor]
  · rw [step_act_of_eq hend (by rw [Probe.act_assign_of_neg _ hneg]),
      Probe.act_assign_of_neg _ hneg]
    rfl

/-- The empty mask, once assigned, is final: neither a later mask nor a negative one changes it. -/
theorem run_settles_empty_mask :
    let f : Format := { name := ['A'], id := .mp3 }
    let steps : List Step := [.act 0 (.assign 8), .copy 0, .act 1 (.assign 2), .act 0 (.assign 0),
      .act 0 (.assign (-4)), .act 0 (.assign 1)]
    let t := (run {} (.create f :: steps)).2
    (-1 : Int) < 0 ∧ (∃ p, t.probes[0]? = some p ∧ p.mask = 0) ∧
      t.step (.act 0 (.assign (-1))) = (⟨.error (.negative ⟨-1⟩), [], []⟩, t) := by
  intro f steps t
  obtain ⟨⟨p, hp, -, hmask⟩, hneg⟩ := run_settles {} f steps
  have hsettled : Mask.settled f.category (masksFor 0 steps) = 0 := by decide
  exact ⟨by decide, ⟨p, hp, hmask.trans hsettled⟩, hneg (-1) (by decide)⟩

end Store

end MediaCatalog
