import AlertRouting.Proofs.Forest.Nodes

/-!
# Forests by their levels

The values of a forest in the order of a walk, each with the number of those above it. The forest can
be put together again from this list: what stands inside a node goes on until a value stands no
further down than the node.
-/
namespace AlertRouting.Forest

variable {α β : Type} {f g children rest : Forest α} {a : α} {k : ℕ}

/-- The values from level `k` on, each with its level and before those inside it. -/
def levels (k : ℕ) : Forest α → List (ℕ × α)
  | nil => []
  | node a children rest => (k, a) :: (levels (k + 1) children ++ levels k rest)

/-- The level of a node is the length of its path, from which the node itself is taken off. -/
theorem map_nodesFrom_levels (f : Forest α) (k i : ℕ) :
    (f.nodesFrom i).map (fun n => (k + (n.1.length - 1), n.2)) = f.levels k := by
  induction f generalizing k i with
  | nil => rfl
  | node a children rest ihc ihr =>
    have hinner : ∀ n ∈ children.nodesFrom 0,
        (k + ((i :: n.1).length - 1), n.2) = ((k + 1) + (n.1.length - 1), n.2) := by
      rintro ⟨path, b⟩ hn
      obtain ⟨j, p, -, rfl, -⟩ := mem_nodesFrom_iff.mp hn
      simp only [List.length_cons, Prod.mk.injEq, and_true]
      omega
    simp only [nodesFrom, levels, List.map_append, List.map_cons, List.map_map, Function.comp_def,
      List.map_congr_left hinner, ihc, ihr, List.cons_append]
    rfl

theorem levels_eq_map_nodes (f : Forest α) :
    f.levels 0 = f.nodes.map fun n => (n.1.length - 1, n.2) := by
  have h := f.map_nodesFrom_levels 0 0
  simp only [Nat.zero_add] at h
  exact h.symm

theorem snd_mem_of_mem_levels {p : ℕ × α} (h : p ∈ f.levels k) : p.2 ∈ f := by
  rw [← f.map_nodesFrom_levels k 0] at h
  obtain ⟨n, hn, rfl⟩ := List.mem_map.mp h
  obtain ⟨below, hb⟩ := mem_nodes_iff.mp hn
  exact mem_of_get? hb

theorem le_of_mem_levels {p : ℕ × α} (h : p ∈ f.levels k) : k ≤ p.1 := by
  rw [← f.map_nodesFrom_levels k 0] at h
  obtain ⟨n, hn, rfl⟩ := List.mem_map.mp h
  exact Nat.le_add_right k _

/-- The trees stand on the first level. -/
theorem countP_levels (f : Forest α) (k : ℕ) : (f.levels k).countP (·.1 = k) = f.length := by
  induction f with
  | nil => rfl
  | node a children rest _ ih =>
    have hinner : (children.levels (k + 1)).countP (·.1 = k) = 0 := by
      refine List.countP_eq_zero.mpr fun p hp => ?_
      have hle := le_of_mem_levels hp
      rw [decide_eq_true_eq]
      omega
    rw [levels, List.countP_cons_of_pos (by simp), List.countP_append, hinner, ih, length,
      Nat.zero_add]

theorem lt_of_mem_levels {p : ℕ × α} (h : p ∈ f.levels k) : p.1 < k + f.depth := by
  induction f generalizing k with
  | nil => cases h
  | node a children rest ihc ihr =>
    rw [depth]
    rcases List.mem_cons.mp h with rfl | h
    · exact Nat.lt_add_of_pos_right (Nat.lt_of_lt_of_le (Nat.succ_pos _) (Nat.le_max_left _ _))
    · rcases List.mem_append.mp h with h | h
      · have hlt := ihc h
        omega
      · have hlt := ihr h
        omega

/-- The depth is reached by some value. -/
theorem exists_mem_levels_deepest (hf : f ≠ nil) : ∃ p ∈ f.levels k, p.1 + 1 = k + f.depth := by
  induction f generalizing k with
  | nil => exact absurd rfl hf
  | node a children rest ihc ihr =>
    rw [depth]
    by_cases hdeep : rest.depth ≤ children.depth + 1
    · rw [Nat.max_eq_left hdeep]
      cases children with
      | nil => exact ⟨(k, a), List.mem_cons_self, rfl⟩
      | node b below more =>
        obtain ⟨p, hp, hlevel⟩ := @ihc (k + 1) (by simp)
        exact ⟨p, List.mem_cons_of_mem _ (List.mem_append_left _ hp), by omega⟩
    · rw [Nat.max_eq_right (Nat.le_of_not_le hdeep)]
      cases rest with
      | nil => exact absurd (Nat.zero_le _) hdeep
      | node b below more =>
        obtain ⟨p, hp, hlevel⟩ := @ihr k (by simp)
        exact ⟨p, List.mem_cons_of_mem _ (List.mem_append_right _ hp), hlevel⟩

theorem levels_map (v : α → β) (f : Forest α) (k : ℕ) :
    (f.map v).levels k = (f.levels k).map fun p => (p.1, v p.2) := by
  induction f generalizing k with
  | nil => rfl
  | node a children rest ihc ihr => simp [map, levels, ihc, ihr]

/-- Behind a level comes a value of the level, or what follows it. -/
theorem lt_of_mem_head?_levels_append {x : List (ℕ × α)} (hx : ∀ p ∈ x.head?, p.1 < k) :
    ∀ p ∈ (f.levels k ++ x).head?, p.1 < k + 1 := by
  intro p hp
  cases f with
  | nil => exact Nat.lt_succ_of_lt (hx p hp)
  | node a children rest =>
    obtain rfl := Option.some.inj hp
    exact Nat.lt_succ_self k

/-- Levels can be told apart if what stands behind them is further out. -/
theorem eq_of_levels_append {x y : List (ℕ × α)} (hx : ∀ p ∈ x.head?, p.1 < k)
    (hy : ∀ p ∈ y.head?, p.1 < k) (h : f.levels k ++ x = g.levels k ++ y) : f = g ∧ x = y := by
  induction f generalizing g k x y with
  | nil =>
    cases g with
    | nil => exact ⟨rfl, h⟩
    | node b children rest =>
      obtain rfl : x = _ := h
      exact absurd (hx _ rfl) (Nat.lt_irrefl k)
  | node a children rest ihc ihr =>
    cases g with
    | nil =>
      obtain rfl : _ = y := h
      exact absurd (hy _ rfl) (Nat.lt_irrefl k)
    | node b below more =>
      simp only [levels, List.cons_append, List.append_assoc, List.cons.injEq, Prod.mk.injEq,
        true_and] at h
      obtain ⟨rfl, h⟩ := h
      obtain ⟨rfl, hrest⟩ := ihc (lt_of_mem_head?_levels_append hx)
        (lt_of_mem_head?_levels_append hy) h
      obtain ⟨rfl, hxy⟩ := ihr hx hy hrest
      exact ⟨rfl, hxy⟩

/-- The levels determine the forest. -/
theorem levels_injective (k : ℕ) : Function.Injective (levels k : Forest α → List (ℕ × α)) := by
  intro f g h
  have happend : f.levels k ++ [] = g.levels k ++ [] := by rw [h]
  exact (eq_of_levels_append (by simp) (by simp) happend).1

/-- What stands at the paths determines the forest. -/
theorem ext_get? (h : ∀ path, (f.get? path).map (·.1) = (g.get? path).map (·.1)) : f = g := by
  induction f generalizing g with
  | nil =>
    cases g with
    | nil => rfl
    | node b below more => cases h [0]
  | node a children rest ihc ihr =>
    cases g with
    | nil => cases h [0]
    | node b below more =>
      obtain rfl : a = b := Option.some.inj (h [0])
      have hbelow : children = below := ihc fun path => by
        cases path with
        | nil => simp
        | cons i path => exact h (0 :: i :: path)
      have hmore : rest = more := ihr fun path => by
        cases path with
        | nil => simp
        | cons i path => exact h ((i + 1) :: path)
      rw [hbelow, hmore]

theorem get?_map (v : α → β) (f : Forest α) (path : List ℕ) :
    (f.map v).get? path = (f.get? path).map fun t => (v t.1, t.2.map v) := by
  induction f generalizing path with
  | nil => simp [map]
  | node a children rest ihc ihr =>
    match path with
    | [] => simp
    | [0] => rfl
    | 0 :: i :: path => exact ihc (i :: path)
    | (i + 1) :: path => exact ihr (i :: path)

/-- Forests have the same values of a kind at all paths if and only if they are the same forest once
the values are taken. -/
theorem map_eq_map_iff {v : α → β} : f.map v = g.map v ↔
    ∀ path, (f.get? path).map (fun t => v t.1) = (g.get? path).map fun t => v t.1 := by
  have hvalue (f : Forest α) (path : List ℕ) :
      ((f.map v).get? path).map (·.1) = (f.get? path).map fun t => v t.1 := by
    rw [get?_map, Option.map_map]
    rfl
  constructor
  · intro h path
    rw [← hvalue, ← hvalue, h]
  · intro h
    refine ext_get? fun path => ?_
    rw [hvalue, hvalue, h]

end AlertRouting.Forest
