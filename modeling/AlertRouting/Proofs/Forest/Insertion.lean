import AlertRouting.Proofs.Forest.Paths

/-!
# Trees put into a forest

A forest with one more tree than another, somewhere on one of its levels. The trees on that level
from there on move by one position; all else keeps its place.
-/
namespace AlertRouting.Forest

variable {α : Type} {a : α} {below f g : Forest α} {path : List ℕ}

/-- The second forest is the first with a tree put in, which then stands at the path. -/
inductive Inserted (a : α) (below : Forest α) : List ℕ → Forest α → Forest α → Prop where
  | here (f : Forest α) : Inserted a below [0] f (node a below f)
  | inside {path children children'} (b : α) (rest : Forest α)
      (h : Inserted a below path children children') :
      Inserted a below (0 :: path) (node b children rest) (node b children' rest)
  | after {i path rest rest'} (b : α) (children : Forest α)
      (h : Inserted a below (i :: path) rest rest') :
      Inserted a below ((i + 1) :: path) (node b children rest) (node b children rest')

theorem Inserted.ne_nil (h : Inserted a below path f g) : path ≠ [] := by
  cases h <;> exact List.cons_ne_nil _ _

theorem Inserted.get?_eq (h : Inserted a below path f g) : g.get? path = some (a, below) := by
  induction h with
  | here f => rfl
  | @inside path children children' b rest h ih =>
    obtain ⟨i, path, rfl⟩ := List.exists_cons_of_ne_nil h.ne_nil
    exact ih
  | after b children h ih => exact ih

end AlertRouting.Forest
