import AlertRouting.Proofs.Routing.Visit

/-!
# How many policies an alert gets

There is always one. Each further policy is due to a route that continues: it takes the alert, and so
does a later route of its level.
-/
namespace AlertRouting.Routes

variable {labels : Labels} {r : Route} {children rest : Routes}

/-- How many routes take the alert if it gets to them, and let later routes match after them. -/
def continuing (labels : Labels) (routes : Routes) : ℕ :=
  routes.toList.countP fun r => r.continues && r.gate.holds labels

theorem continuing_node :
    continuing labels (.node r children rest) = continuing labels children + continuing labels rest +
      if r.continues ∧ r.gate.holds labels then 1 else 0 := by
  simp [continuing, List.countP_cons]

theorem length_taken (inner : List Policy) : (r.taken inner).length = max 1 inner.length := by
  unfold Route.taken
  split_ifs with h
  · rw [h]
    rfl
  · have hpos : 0 < inner.length := List.length_pos_iff.mpr h
    rw [max_eq_right hpos]

/-- A level finds one policy and, at most, one more for each route that continues. -/
theorem length_visit_le (routes : Routes) :
    (visit labels routes).result.length ≤ continuing labels routes + 1 := by
  induction routes with
  | nil => exact Nat.zero_le _
  | node r children rest ihc ihr =>
    rw [continuing_node]
    by_cases hr : r.gate.holds labels
    · rw [visit_of_holds hr, List.length_append, length_taken]
      -- What a route that continues adds to the bound pays for the level after it.
      cases hk : r.continues with
      | true =>
        simp only [hr, if_true, and_self]
        omega
      | false =>
        simp only [Bool.false_eq_true, if_false, List.length_nil, false_and]
        omega
    · rw [Bool.not_eq_true] at hr
      rw [visit_of_not_holds hr]
      omega

theorem length_matches (routes : Routes) :
    (routes.matches labels).length = max 1 (visit labels routes).result.length := by
  rw [matches_eq]
  split_ifs with h
  · rw [h]
    rfl
  · have hpos : 0 < (visit labels routes).result.length := List.length_pos_iff.mpr h
    rw [max_eq_right hpos]

/-- An alert gets at least one policy, and at most one more than there are routes, at any depth, whose
gates hold and that continue. If there is no such route it gets exactly one. -/
theorem length_matches_bounds (routes : Routes) (labels : Labels) :
    1 ≤ (routes.matches labels).length ∧
    (routes.matches labels).length ≤ 1 + continuing labels routes ∧
    ((∀ r ∈ routes, r.continues = true → r.gate.holds labels = false) →
      (routes.matches labels).length = 1) := by
  have hvisit : (visit labels routes).result.length ≤ continuing labels routes + 1 :=
    length_visit_le routes
  rw [length_matches]
  refine ⟨le_max_left _ _, by omega, fun hnone => ?_⟩
  have hzero : continuing labels routes = 0 := List.countP_eq_zero.mpr fun r hr => by
    cases hk : r.continues with
    | true => simp [hnone r (Forest.mem_toList_iff.mp hr) hk]
    | false => simp
  omega

/-- A route that continues, around another that continues, and a last one. -/
def relayRoutes : Routes :=
  .node ⟨.fallback, [], true⟩
    (.node ⟨.fallback, [], true⟩ .nil (.node ⟨.fallback, [], false⟩ .nil .nil))
    (.node ⟨.fallback, [], false⟩ .nil .nil)

/-- The bound is reached: two routes continue, and there are three policies. Without the first of
the routes at the top there is one. -/
theorem length_matches_bounds_relay :
    (relayRoutes.matches ∅).length = 1 + continuing ∅ relayRoutes ∧
    (Routes.matches (.node ⟨.fallback, [], false⟩ .nil .nil) ∅).length = 1 := by
  refine ⟨by decide, (length_matches_bounds _ _).2.2 ?_⟩
  exact Forest.forall_mem_node_iff.mpr ⟨fun h => absurd h (by decide), by simp, by simp⟩

end AlertRouting.Routes
