import AlertRouting.Proofs.Forest.Nodes

/-!
# The trees of a forest

What holds of a forest if it holds of each of its trees: of its values, and of its depth.
-/
namespace AlertRouting.Forest

variable {α : Type} {a b : α} {f below : Forest α} {path : List ℕ} {n : ℕ}

theorem forall_mem_iff_trees {p : α → Prop} :
    (∀ x ∈ f, p x) ↔ ∀ t ∈ f.trees, p t.1 ∧ ∀ x ∈ t.2, p x := by
  induction f with
  | nil => simp [trees]
  | node a children rest _ ih => rw [forall_mem_node_iff, ih, trees, List.forall_mem_cons, and_assoc]

/-- What stands below a node stands in the forest. -/
theorem mem_of_mem_below (h : f.get? path = some (a, below)) (hb : b ∈ below) : b ∈ f := by
  induction f generalizing path with
  | nil => simp at h
  | node c children rest ihc ihr =>
    rw [mem_node_iff]
    rcases get?_node_eq_some_iff.mp h with ⟨-, heq⟩ | ⟨p, -, hp⟩ | ⟨i, p, -, hp⟩
    · cases heq
      exact .inr (.inl hb)
    · exact .inr (.inl (ihc hp))
    · exact .inr (.inr (ihr hp))

theorem depth_le_iff_trees : f.depth ≤ n ↔ ∀ t ∈ f.trees, t.2.depth + 1 ≤ n := by
  induction f with
  | nil => simp [depth, trees]
  | node a children rest _ ih => rw [depth, Nat.max_le, ih, trees, List.forall_mem_cons]

/-- A forest is as deep as one of its trees. -/
theorem exists_mem_trees_deepest (h : 0 < f.depth) : ∃ t ∈ f.trees, t.2.depth + 1 = f.depth := by
  by_contra hnone
  have hless : f.depth ≤ f.depth - 1 := depth_le_iff_trees.mpr fun t ht => by
    have hle := depth_le_iff_trees.mp le_rfl t ht
    have hne : t.2.depth + 1 ≠ f.depth := fun heq => hnone ⟨t, ht, heq⟩
    omega
  omega

/-- The deepest tree of a forest is as deep as the forest. -/
theorem depth_of_deepest {t : α × Forest α} (ht : t ∈ f.trees)
    (h : ∀ u ∈ f.trees, u.2.depth ≤ t.2.depth) : t.2.depth + 1 = f.depth :=
  Nat.le_antisymm (depth_le_iff_trees.mp le_rfl t ht)
    (depth_le_iff_trees.mpr fun u hu => Nat.succ_le_succ (h u hu))

end AlertRouting.Forest
