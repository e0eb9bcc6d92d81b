import AlertRouting.Forest
import Mathlib.Data.List.Infix

/-!
# Paths in a forest

How a path goes down through the first tree of a forest or passes it by. The values on the way to a
node are its line, which begins with the node itself and ends at the top.
-/
namespace AlertRouting.Forest

variable {α β : Type}

@[simp] theorem get?_nil_path (f : Forest α) : f.get? [] = none := by cases f <;> rfl

@[simp] theorem get?_nil (path : List ℕ) : (nil : Forest α).get? path = none := by
  cases path <;> rfl

@[simp] theorem get?_zero (a : α) (children rest : Forest α) :
    (node a children rest).get? [0] = some (a, children) := rfl

@[simp] theorem get?_zero_cons (a : α) (children rest : Forest α) (i : ℕ) (path : List ℕ) :
    (node a children rest).get? (0 :: i :: path) = children.get? (i :: path) := rfl

@[simp] theorem get?_succ (a : α) (children rest : Forest α) (i : ℕ) (path : List ℕ) :
    (node a children rest).get? ((i + 1) :: path) = rest.get? (i :: path) := rfl

/-- The trees of a forest stand at the paths of length one. -/
theorem mem_trees_iff (f : Forest α) (t : α × Forest α) :
    t ∈ f.trees ↔ ∃ i, f.get? [i] = some t := by
  induction f with
  | nil => simp [trees]
  | node a children rest _ ih =>
    simp only [trees, List.mem_cons, ih]
    constructor
    · rintro (rfl | ⟨i, hi⟩)
      · exact ⟨0, rfl⟩
      · exact ⟨i + 1, hi⟩
    · rintro ⟨i, hi⟩
      cases i with
      | zero => exact .inl (Option.some.inj hi).symm
      | succ i => exact .inr ⟨i, hi⟩

/-- Every node has the nodes above it. -/
theorem isSome_get?_of_isPrefix (f : Forest α) {p q : List ℕ} (hp : p ≠ []) (hpq : p <+: q)
    (hq : (f.get? q).isSome) : (f.get? p).isSome := by
  induction f generalizing p q with
  | nil => simp at hq
  | node a children rest ihc ihr =>
    obtain ⟨i, p, rfl⟩ := List.exists_cons_of_ne_nil hp
    obtain ⟨s, rfl⟩ := hpq
    cases i with
    | succ i => exact ihr (List.cons_ne_nil i p) ⟨s, rfl⟩ hq
    | zero =>
      cases p with
      | nil => rfl
      | cons j p => exact ihc (List.cons_ne_nil j p) ⟨s, rfl⟩ hq

/-- The values at the node of a path and at the nodes above it, from the node up. -/
def line (f : Forest α) (path : List ℕ) : List α :=
  path.inits.reverse.filterMap fun p => (f.get? p).map (·.1)

@[simp] theorem line_nil (path : List ℕ) : (nil : Forest α).line path = [] := by
  simp [line]

@[simp] theorem line_nil_path (f : Forest α) : f.line [] = [] := by
  simp [line]

theorem line_zero (a : α) (children rest : Forest α) (path : List ℕ) :
    (node a children rest).line (0 :: path) = children.line path ++ [a] := by
  cases path with
  | nil => simp [line]
  | cons i path =>
    simp only [line, List.inits_cons, List.reverse_cons, List.map_cons, List.filterMap_append]
    simp [List.filterMap_reverse, List.filterMap_map, Function.comp_def]

theorem line_succ (a : α) (children rest : Forest α) (i : ℕ) (path : List ℕ) :
    (node a children rest).line ((i + 1) :: path) = rest.line (i :: path) := by
  simp [line, List.filterMap_reverse, List.filterMap_map, Function.comp_def]

/-- The line of a node begins with its own value. -/
theorem line_eq_cons {f : Forest α} {path : List ℕ} {a : α} {below : Forest α}
    (h : f.get? path = some (a, below)) : ∃ outer, f.line path = a :: outer := by
  obtain ⟨init, i, rfl⟩ : ∃ init i, path = init ++ [i] := by
    rcases List.eq_nil_or_concat path with rfl | ⟨init, i, rfl⟩
    · simp at h
    · exact ⟨init, i, by simp⟩
  rw [line, List.inits_append]
  simp [h]

end AlertRouting.Forest
