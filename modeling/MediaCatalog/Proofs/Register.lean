/-!
# Registers

A register is a place that some operations write and the others leave alone. After operations it
holds what was written last, or what it held at first where nothing was written. Which operations
write, and what, is all there is to know of them.
-/

namespace MediaCatalog

namespace Register

variable {α β : Type} (written? : α → Option β)

/-- What a register holds after operations: what was written last, or what it held at first. -/
def content (first : β) (operations : List α) : β :=
  (operations.filterMap written?).getLastD first

theorem content_cons (first : β) (a : α) (operations : List α) :
    content written? first (a :: operations) =
      content written? ((written? a).getD first) operations := by
  rw [content, content, List.filterMap_cons]
  cases written? a with
  | none => rfl
  | some b => rw [List.getLastD_cons, Option.getD_some]

theorem content_append (first : β) (xs ys : List α) :
    content written? first (xs ++ ys) = content written? (content written? first xs) ys := by
  induction xs generalizing first with
  | nil => rfl
  | cons a xs ih => rw [List.cons_append, content_cons, ih, content_cons]

theorem content_concat (first : β) (operations : List α) (a : α) :
    content written? first (operations ++ [a]) =
      (written? a).getD (content written? first operations) := by
  rw [content_append, content_cons]
  rfl

end Register

end MediaCatalog
