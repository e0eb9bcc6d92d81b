import AlertRouting.Config.Editing
import AlertRouting.Proofs.Forest.Insertion

/-!
# Adding and removing a route

Removing a route goes down a path level by level. It undoes the insertion of the route, and nothing
but the insertion of the route undoes it.
-/
namespace AlertRouting.Config

open Forest (Inserted)

variable {s t : Settings} {c c' inner children rest : Config} {path : List ℕ}

/-- The route to remove stands at the last position of its path, on the level that the rest of the
path leads to. -/
theorem remove?_concat (c : Config) (outer : List ℕ) (i : ℕ) : c.remove? (outer ++ [i]) =
    if (c.level? outer).all (·.length ≤ i) then none
    else if outer.isEmpty then some (c.eraseIdx i)
    else c.modify? (fun a children => (a, children.eraseIdx i)) outer := by
  simp [remove?]

theorem level?_zero (outer : List ℕ) :
    level? (.node t children rest) (0 :: outer) = children.level? outer := by
  cases outer <;> rfl

theorem level?_succ (i : ℕ) (outer : List ℕ) :
    level? (.node t children rest) ((i + 1) :: outer) = rest.level? (i :: outer) := rfl

theorem remove?_zero : remove? (.node t children rest) [0] = some rest := by
  simp [remove?, level?, Forest.eraseIdx, Forest.length]

theorem remove?_zero_cons (h : path ≠ []) : remove? (.node t children rest) (0 :: path) =
    (children.remove? path).map fun c => .node t c rest := by
  obtain ⟨outer, i, rfl⟩ := (List.eq_nil_or_concat path).resolve_left h
  rw [List.concat_eq_append, ← List.cons_append, remove?_concat, remove?_concat, level?_zero]
  by_cases hi : (children.level? outer).all (·.length ≤ i)
  · rw [if_pos hi, if_pos hi, Option.map_none]
  · rw [if_neg hi, if_neg hi]
    cases outer <;> rfl

theorem remove?_succ {i : ℕ} : remove? (.node t children rest) ((i + 1) :: path) =
    (rest.remove? (i :: path)).map fun c => .node t children c := by
  rcases List.eq_nil_or_concat path with rfl | ⟨outer, j, rfl⟩
  · have hlength : (Forest.node t children rest).length ≤ i + 1 ↔ rest.length ≤ i :=
      Nat.succ_le_succ_iff
    have htop (c : Config) (j : ℕ) :
        c.remove? [j] = if c.length ≤ j then none else some (c.eraseIdx j) := by
      simp [remove?, level?]
    rw [htop, htop]
    by_cases hi : rest.length ≤ i
    · rw [if_pos hi, if_pos (hlength.mpr hi), Option.map_none]
    · rw [if_neg hi, if_neg (mt hlength.mp hi), Option.map_some, Forest.eraseIdx]
  · rw [List.concat_eq_append, ← List.cons_append, ← List.cons_append, remove?_concat,
      remove?_concat, level?_succ]
    by_cases hj : (rest.level? (i :: outer)).all (·.length ≤ j)
    · rw [if_pos hj, if_pos hj, Option.map_none]
    · rw [if_neg hj, if_neg hj]
      rfl

/-- One configuration is another with a route put in if and only if taking out the route gives the
other. -/
theorem inserted_iff : Inserted s inner path c c' ↔
    c'.get? path = some (s, inner) ∧ c'.remove? path = some c := by
  constructor
  · intro h
    refine ⟨h.get?_eq, ?_⟩
    induction h with
    | here c => exact remove?_zero
    | inside t rest h ih => rw [remove?_zero_cons h.ne_nil, ih, Option.map_some]
    | after t children h ih => rw [remove?_succ, ih, Option.map_some]
  · rintro ⟨hget, hremove⟩
    induction c' generalizing path c with
    | nil => simp at hget
    | node t children rest ihc ihr =>
      match path with
      | [] => simp at hget
      | [0] =>
        cases hget
        rw [remove?_zero] at hremove
        cases hremove
        exact .here rest
      | 0 :: i :: path =>
        rw [remove?_zero_cons (List.cons_ne_nil _ _)] at hremove
        obtain ⟨children', hchildren, rfl⟩ := Option.map_eq_some_iff.mp hremove
        exact .inside t rest (ihc hget hchildren)
      | (i + 1) :: path =>
        rw [remove?_succ] at hremove
        obtain ⟨rest', hrest, rfl⟩ := Option.map_eq_some_iff.mp hremove
        exact .after t children (ihr hget hrest)

end AlertRouting.Config
