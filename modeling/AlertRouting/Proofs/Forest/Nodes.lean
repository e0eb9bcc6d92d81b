import AlertRouting.Proofs.Forest.Paths
import Mathlib.Order.Bounds.Basic

/-!
# The nodes of a forest

The nodes in the order of a walk that meets each before those inside it. This is the lexicographic
order of their paths. The depth of a forest is the length of its longest path.
-/
namespace AlertRouting.Forest

variable {α : Type} {a b : α} {f children rest : Forest α} {path : List ℕ}

/-- A path in a nonempty forest leads to the first root, into the first tree, or past it. -/
theorem get?_node_eq_some_iff {t : α × Forest α} :
    (node a children rest).get? path = some t ↔
      path = [0] ∧ t = (a, children) ∨ (∃ p, path = 0 :: p ∧ children.get? p = some t) ∨
        ∃ i p, path = (i + 1) :: p ∧ rest.get? (i :: p) = some t := by
  match path with
  | [] => simp
  | [0] => simp [eq_comm]
  | 0 :: i :: p => simp
  | (i + 1) :: p => simp

instance : Membership α (Forest α) := ⟨fun f a => ∃ path below, f.get? path = some (a, below)⟩

theorem mem_iff_get? : a ∈ f ↔ ∃ path below, f.get? path = some (a, below) := Iff.rfl

theorem mem_of_get? {below : Forest α} (h : f.get? path = some (a, below)) : a ∈ f :=
  ⟨path, below, h⟩

@[simp] theorem not_mem_nil : a ∉ (nil : Forest α) := by simp [mem_iff_get?]

@[simp] theorem mem_node_iff : b ∈ node a children rest ↔ b = a ∨ b ∈ children ∨ b ∈ rest := by
  constructor
  · rintro ⟨path, below, h⟩
    rcases get?_node_eq_some_iff.mp h with ⟨-, heq⟩ | ⟨p, -, hp⟩ | ⟨i, p, -, hp⟩
    · exact .inl (congrArg Prod.fst heq)
    · exact .inr (.inl (mem_of_get? hp))
    · exact .inr (.inr (mem_of_get? hp))
  · rintro (rfl | ⟨p, below, hp⟩ | ⟨p, below, hp⟩)
    · exact mem_of_get? (get?_zero b children rest)
    · exact mem_of_get? (get?_node_eq_some_iff.mpr (.inr (.inl ⟨p, rfl, hp⟩)))
    · cases p with
      | nil => simp at hp
      | cons i p => exact mem_of_get? (get?_node_eq_some_iff.mpr (.inr (.inr ⟨i, p, rfl, hp⟩)))

theorem forall_mem_node_iff {p : α → Prop} : (∀ x ∈ node a children rest, p x) ↔
    p a ∧ (∀ x ∈ children, p x) ∧ ∀ x ∈ rest, p x := by
  simp only [mem_node_iff, or_imp, forall_and, forall_eq]

def nodesFrom : ℕ → Forest α → List (List ℕ × α)
  | _, nil => []
  | i, node a children rest =>
    ([i], a) :: (nodesFrom 0 children).map (fun n => (i :: n.1, n.2)) ++ nodesFrom (i + 1) rest

/-- The nodes with their paths, each before those inside it. -/
def nodes (f : Forest α) : List (List ℕ × α) := f.nodesFrom 0

theorem mem_nodesFrom_node_iff {k : ℕ} : (path, b) ∈ (node a children rest).nodesFrom k ↔
    path = [k] ∧ b = a ∨ (∃ p, path = k :: p ∧ (p, b) ∈ children.nodesFrom 0) ∨
      (path, b) ∈ rest.nodesFrom (k + 1) := by
  simp [nodesFrom, and_comm, eq_comm]

theorem mem_nodesFrom_iff {k : ℕ} : (path, b) ∈ f.nodesFrom k ↔
    ∃ i p below, path = (k + i) :: p ∧ f.get? (i :: p) = some (b, below) := by
  induction f generalizing k path with
  | nil => simp [nodesFrom]
  | node a children rest ihc ihr =>
    rw [mem_nodesFrom_node_iff, ihr]
    constructor
    · rintro (⟨rfl, rfl⟩ | ⟨p, rfl, hmem⟩ | ⟨i, p, below, rfl, hp⟩)
      · exact ⟨0, [], children, rfl, rfl⟩
      · obtain ⟨i, p, below, rfl, hp⟩ := ihc.mp hmem
        exact ⟨0, i :: p, below, by simp, hp⟩
      · exact ⟨i + 1, p, below, by rw [Nat.add_assoc, Nat.add_comm 1 i], hp⟩
    · rintro ⟨i, p, below, rfl, hp⟩
      match i, p with
      | 0, [] =>
        cases hp
        exact .inl ⟨rfl, rfl⟩
      | 0, j :: p => exact .inr (.inl ⟨j :: p, rfl, ihc.mpr ⟨j, p, below, by simp, hp⟩⟩)
      | i + 1, p =>
        exact .inr (.inr ⟨i, p, below, by rw [Nat.add_assoc, Nat.add_comm 1 i], hp⟩)

/-- The list of nodes has exactly what stands at the paths. -/
theorem mem_nodes_iff : (path, a) ∈ f.nodes ↔ ∃ below, f.get? path = some (a, below) := by
  rw [nodes, mem_nodesFrom_iff]
  constructor
  · rintro ⟨i, p, below, rfl, hp⟩
    exact ⟨below, by rwa [Nat.zero_add]⟩
  · rintro ⟨below, hp⟩
    cases path with
    | nil => simp at hp
    | cons i p => exact ⟨i, p, below, by rw [Nat.zero_add], hp⟩

theorem pairwise_nodesFrom (f : Forest α) (k : ℕ) :
    (f.nodesFrom k).Pairwise fun m n => m.1 < n.1 := by
  induction f generalizing k with
  | nil => exact .nil
  | node a children rest ihc ihr =>
    -- The paths of the first tree begin with `k`, those of the rest with a larger number.
    have hroot : ∀ n ∈ children.nodesFrom 0, [k] < k :: n.1 := by
      rintro ⟨path, b⟩ hn
      obtain ⟨i, p, -, rfl, -⟩ := mem_nodesFrom_iff.mp hn
      simp
    have hrest : ∀ n ∈ rest.nodesFrom (k + 1), ∀ p, k :: p < n.1 := by
      rintro ⟨path, b⟩ hn p
      obtain ⟨i, q, -, rfl, -⟩ := mem_nodesFrom_iff.mp hn
      exact List.cons_lt_cons_iff.mpr (.inl (by omega))
    refine List.pairwise_append.mpr ⟨List.pairwise_cons.mpr ⟨?_, ?_⟩, ihr (k + 1), ?_⟩
    · exact List.forall_mem_map.mpr hroot
    · exact List.pairwise_map.mpr ((ihc 0).imp fun h => by simpa [List.cons_lt_cons_iff] using h)
    · intro m hm n hn
      rcases List.mem_cons.mp hm with rfl | hm
      · exact hrest n hn []
      · obtain ⟨m, -, rfl⟩ := List.mem_map.mp hm
        exact hrest n hn m.1

/-- The paths of the nodes come in lexicographic order. -/
theorem pairwise_nodes (f : Forest α) : f.nodes.Pairwise fun m n => m.1 < n.1 :=
  f.pairwise_nodesFrom 0

def toList (f : Forest α) : List α := f.nodes.map (·.2)

theorem map_nodesFrom (f : Forest α) (k : ℕ) : (f.nodesFrom k).map (·.2) = f.toList := by
  rw [toList, nodes]
  induction f generalizing k with
  | nil => rfl
  | node a children rest _ ihr => simp [nodesFrom, ihr (k + 1), ihr 1]

@[simp] theorem toList_nil : (nil : Forest α).toList = [] := rfl

@[simp] theorem toList_node :
    (node a children rest).toList = a :: (children.toList ++ rest.toList) := by
  rw [← map_nodesFrom (node a children rest) 0, ← map_nodesFrom children 0, ← map_nodesFrom rest 1]
  simp [nodesFrom]

theorem mem_toList_iff : a ∈ f.toList ↔ a ∈ f := by
  rw [toList, List.mem_map]
  constructor
  · rintro ⟨⟨path, b⟩, hn, rfl⟩
    obtain ⟨below, hb⟩ := mem_nodes_iff.mp hn
    exact mem_of_get? hb
  · rintro ⟨path, below, ha⟩
    exact ⟨(path, a), mem_nodes_iff.mpr ⟨below, ha⟩, rfl⟩

/-- The depth of a forest is that of its deepest tree. -/
theorem depth_eq_max? (f : Forest α) :
    f.depth = (f.trees.map fun t => 1 + t.2.depth).max?.getD 0 := by
  induction f with
  | nil => rfl
  | node a children rest _ ih =>
    rw [depth, trees, List.map_cons, List.max?_cons, ih]
    cases (rest.trees.map fun t => 1 + t.2.depth).max? <;> simp [Nat.add_comm]

theorem depth_le_iff {n : ℕ} :
    f.depth ≤ n ↔ ∀ path t, f.get? path = some t → path.length ≤ n := by
  induction f generalizing n with
  | nil => simp [depth]
  | node a children rest ihc ihr =>
    rw [depth, Nat.max_le, ihr]
    constructor
    · rintro ⟨hc, hr⟩ path t ht
      rcases get?_node_eq_some_iff.mp ht with ⟨rfl, -⟩ | ⟨p, rfl, hp⟩ | ⟨i, p, rfl, hp⟩
      · exact (Nat.le_add_left 1 _).trans hc
      · exact (Nat.succ_le_succ (ihc.mp le_rfl p t hp)).trans hc
      · exact hr (i :: p) t hp
    · intro h
      constructor
      · have hone : 1 ≤ n := h [0] (a, children) rfl
        have hc : children.depth ≤ n - 1 := ihc.mpr fun p t hp => by
          have hlen := h (0 :: p) t (get?_node_eq_some_iff.mpr (.inr (.inl ⟨p, rfl, hp⟩)))
          rw [List.length_cons] at hlen
          omega
        omega
      · intro p t hp
        cases p with
        | nil => simp at hp
        | cons i p => exact h ((i + 1) :: p) t hp

theorem length_le_depth {t : α × Forest α} (h : f.get? path = some t) : path.length ≤ f.depth :=
  depth_le_iff.mp le_rfl path t h

/-- Below a node there is room for what its path leaves of the depth. -/
theorem length_add_depth_le {below : Forest α} (h : f.get? path = some (a, below)) :
    path.length + below.depth ≤ f.depth := by
  induction f generalizing path with
  | nil => simp at h
  | node b children rest ihc ihr =>
    rw [depth]
    rcases get?_node_eq_some_iff.mp h with ⟨rfl, heq⟩ | ⟨p, rfl, hp⟩ | ⟨i, p, rfl, hp⟩
    · cases heq
      rw [List.length_singleton]
      omega
    · have hlen := ihc hp
      rw [List.length_cons]
      omega
    · exact (ihr hp).trans (Nat.le_max_right _ _)

/-- The depth is the length of the longest path, and zero if there is none. -/
theorem isLUB_depth (f : Forest α) :
    IsLUB {n | ∃ path, (f.get? path).isSome ∧ path.length = n} f.depth := by
  refine isLUB_iff_le_iff.mpr fun n => depth_le_iff.trans ⟨?_, fun h path t ht => ?_⟩
  · rintro h - ⟨path, hpath, rfl⟩
    obtain ⟨t, ht⟩ := Option.isSome_iff_exists.mp hpath
    exact h path t ht
  · exact h ⟨path, Option.isSome_of_eq_some ht, rfl⟩

end AlertRouting.Forest
