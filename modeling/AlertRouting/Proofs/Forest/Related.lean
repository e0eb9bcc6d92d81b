import AlertRouting.Proofs.Forest.Nodes

/-!
# Forests of one shape

Two forests have the same shape, and a relation holds between the values at the same places. Then
they have nodes at the same paths, and are equally long and deep.
-/
namespace AlertRouting.Forest

variable {α β : Type} {R : α → β → Prop} {f : Forest α} {g : Forest β} {path : List ℕ}

inductive Forall₂ (R : α → β → Prop) : Forest α → Forest β → Prop where
  | nil : Forall₂ R .nil .nil
  | node {a b children below rest more} (hroot : R a b) (hbelow : Forall₂ R children below)
      (hrest : Forall₂ R rest more) : Forall₂ R (.node a children rest) (.node b below more)

namespace Forall₂

/-- At a path either both forests have related nodes, with related forests below, or neither has
one. -/
theorem get? (h : Forall₂ R f g) (path : List ℕ) :
    Option.Rel (fun s t => R s.1 t.1 ∧ Forall₂ R s.2 t.2) (f.get? path) (g.get? path) := by
  induction h generalizing path with
  | nil => simp
  | node hroot hbelow hrest ihc ihr =>
    match path with
    | [] => simp
    | [0] => exact .some ⟨hroot, hbelow⟩
    | 0 :: i :: path => exact ihc (i :: path)
    | (i + 1) :: path => exact ihr (i :: path)

theorem isSome_get?_eq (h : Forall₂ R f g) (path : List ℕ) :
    (f.get? path).isSome = (g.get? path).isSome := by
  have hpath := h.get? path
  generalize f.get? path = s, g.get? path = t at hpath
  cases hpath <;> rfl

/-- Every node of the first forest has its partner in the second. -/
theorem exists_get?_eq (h : Forall₂ R f g) {a : α} {below : Forest α}
    (ha : f.get? path = some (a, below)) :
    ∃ b below', g.get? path = some (b, below') ∧ R a b ∧ Forall₂ R below below' := by
  have hpath := h.get? path
  rw [ha] at hpath
  generalize g.get? path = t at hpath
  cases hpath with
  | some ht => exact ⟨_, _, rfl, ht⟩

/-- What the relation makes of a property of all values of the first forest holds in the second. -/
theorem forall_mem (h : Forall₂ R f g) {p : α → Prop} {q : β → Prop} (hp : ∀ a ∈ f, p a)
    (hq : ∀ a b, R a b → p a → q b) : ∀ b ∈ g, q b := by
  induction h with
  | nil => simp
  | node hroot _ _ ihc ihr =>
    obtain ⟨ha, hbelow, hrest⟩ := forall_mem_node_iff.mp hp
    exact forall_mem_node_iff.mpr ⟨hq _ _ hroot ha, ihc hbelow, ihr hrest⟩

theorem length_eq (h : Forall₂ R f g) : f.length = g.length := by
  induction h with
  | nil => rfl
  | node _ _ _ _ ih => rw [length, length, ih]

theorem isEmpty_eq (h : Forall₂ R f g) : f.isEmpty = g.isEmpty := by
  cases h <;> rfl

theorem depth_eq (h : Forall₂ R f g) : f.depth = g.depth := by
  induction h with
  | nil => rfl
  | node _ _ _ ihc ihr => rw [depth, depth, ihc, ihr]

end Forall₂

end AlertRouting.Forest
