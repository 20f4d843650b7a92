import MediaCatalog.Renderer
import Mathlib.Data.List.Chain
import Mathlib.Data.List.Nodup

/-!
# What a set of format identifiers is determined by

A set is kept as a list in the order of the names. The names are in strict order there, so that no
member is written twice (`MediaCatalog.FormatSet.pairwise_toList`), and the list says no more than
which identifiers are members. Hence two sets are equal exactly if they have the same members,
whatever the lists that they were made from (`MediaCatalog.FormatSet.ofList_eq_ofList_iff`), and so
are the profiles of two devices that go by the same name
(`MediaCatalog.Profile.ofList_eq_ofList_iff`).
-/

namespace MediaCatalog

/-! ### Names -/

section Names

variable {α : Type} {name : α → Text} {all : List α} (hall : ∀ a, a ∈ all) {spelling : Text}

include hall

theorem find?_name_eq_none_iff :
    (all.find? fun a => name a == spelling) = none ↔ ∀ a, name a ≠ spelling := by
  simp only [List.find?_eq_none, beq_iff_eq]
  exact ⟨fun h a => h a (hall a), fun h a _ => h a⟩

/-- Where no two have the same name, each is found by its name and by no other. -/
theorem find?_name_eq_some_iff (hinj : Function.Injective name) {a : α} :
    (all.find? fun b => name b == spelling) = some a ↔ name a = spelling := by
  have hname {b : α} (h : (all.find? fun b => name b == spelling) = some b) :
      name b = spelling := by
    simpa using List.find?_some h
  constructor
  · exact hname
  · intro h
    cases hfind : all.find? fun b => name b == spelling with
    | none => exact absurd h ((find?_name_eq_none_iff hall).mp hfind a)
    | some b => rw [hinj ((hname hfind).trans h.symm)]

end Names

namespace FormatId

/-- The names are strictly ascending. -/
theorem pairwise_byName : byName.Pairwise fun i j => i.name < j.name := by
  have hchain : (byName.map name).IsChain (· < ·) := by decide +kernel
  exact List.pairwise_map.mp (List.isChain_iff_pairwise.mp hchain)

/-- What is to be shown of all identifiers may be checked on the list of them. -/
theorem forall_of_all {P : FormatId → Bool} (h : byName.all P) (i : FormatId) : P i :=
  List.all_eq_true.mp h i (FormatSet.mem_byName i)

theorem name_injective : Function.Injective name := by
  have hdistinct : byName.Pairwise fun i j => i.name ≠ j.name := by
    refine pairwise_byName.imp fun {i j} hlt heq => ?_
    rw [heq] at hlt
    exact List.lt_irrefl _ hlt
  exact fun i j h => List.inj_on_of_nodup_map (List.pairwise_map.mpr hdistinct)
    (FormatSet.mem_byName i) (FormatSet.mem_byName j) h

theorem mem_all (i : FormatId) : i ∈ all := by cases i <;> decide

/-- An identifier is found by its name and by no other. -/
theorem ofName?_eq_some_iff {spelling : Text} {i : FormatId} :
    ofName? spelling = some i ↔ i.name = spelling :=
  find?_name_eq_some_iff mem_all name_injective

theorem ofName?_eq_none_iff {spelling : Text} :
    ofName? spelling = none ↔ ∀ i : FormatId, i.name ≠ spelling :=
  find?_name_eq_none_iff mem_all

end FormatId

/-! ### Sets -/

namespace FormatSet

/-- **The members are in the strict order of their names**, none of them twice. -/
theorem pairwise_toList (s : FormatSet) : s.toList.Pairwise fun i j => i.name < j.name := by
  rw [s.ordered]
  exact FormatId.pairwise_byName.filter _

/-- A set is determined by the list that it is kept as. -/
@[ext]
theorem ext {s t : FormatSet} (h : s.toList = t.toList) : s = t := by
  cases s
  cases t
  cases h
  rfl

/-- **Sets with the same members are equal**, whatever they were made from. -/
theorem ofList_eq_ofList_iff {xs ys : List FormatId} :
    ofList xs = ofList ys ↔ ∀ i, i ∈ xs ↔ i ∈ ys := by
  constructor
  · intro h i
    rw [← contains_ofList_iff, h, contains_ofList_iff]
  · intro h
    refine ext (List.filter_congr fun i _ => ?_)
    rw [Bool.eq_iff_iff, List.contains_iff_mem, List.contains_iff_mem]
    exact h i

end FormatSet

/-- Devices are equal if they go by the same name and play the same formats. -/
theorem Profile.ofList_eq_ofList_iff {a b : Text} {xs ys : List FormatId} :
    ofList a xs = ofList b ys ↔ a = b ∧ ∀ i, i ∈ xs ↔ i ∈ ys := by
  rw [ofList, ofList, mk.injEq, FormatSet.ofList_eq_ofList_iff]

end MediaCatalog
