import AlertRouting.Proofs.Forest.Nodes
import AlertRouting.Route.Matching
import Mathlib.Tactic.SplitIfs

/-!
# What a level of routes finds

Matching on a level goes on until a route has found something and does not continue. A route finds
something if and only if its gate holds, so there are two equations: a route whose gate does not hold
is passed over; any other adds what is found inside it, or else its own policy, and decides whether
matching goes on.
-/
namespace AlertRouting

/-- Does the route take the alert and keep it from later routes of its level? -/
def Route.Keeps (r : Route) (labels : Labels) : Prop :=
  r.gate.holds labels = true ∧ r.continues = false

instance (r : Route) (labels : Labels) : Decidable (r.Keeps labels) :=
  inferInstanceAs (Decidable (_ ∧ _))

/-- What is found in a route, given what is found in the routes inside it. -/
def Route.taken (r : Route) (inner : List Policy) : List Policy :=
  if inner = [] then [r.policy] else inner

theorem Route.taken_ne_nil (r : Route) (inner : List Policy) : r.taken inner ≠ [] := by
  unfold Route.taken
  split_ifs with h
  · exact List.cons_ne_nil _ _
  · exact h

namespace Route

variable {labels : Labels} {r : Route} {children : Routes}

theorem matches_of_not_holds (h : r.gate.holds labels = false) :
    r.matches children labels = [] := by
  simp [Route.matches, Routes.visit, h]

theorem matches_of_holds (h : r.gate.holds labels = true) :
    r.matches children labels = r.taken (Routes.visit labels children).result := by
  by_cases hi : (Routes.visit labels children).result = [] <;>
    simp [Route.matches, Routes.visit, Route.taken, h, hi]

/-- To ask whether a route has found nothing is to ask whether its gate does not hold. -/
theorem isEmpty_matches (r : Route) (children : Routes) :
    (r.matches children labels).isEmpty = !r.gate.holds labels := by
  cases h : r.gate.holds labels with
  | false =>
    rw [matches_of_not_holds h]
    rfl
  | true =>
    rw [matches_of_holds h, Bool.not_true, List.isEmpty_eq_false_iff]
    exact r.taken_ne_nil _

end Route

namespace Routes

variable {labels : Labels} {r : Route} {children rest : Routes}

/-- A level ends after the first route that has found something and does not continue. -/
theorem visit_node : (visit labels (.node r children rest)).result =
    r.matches children labels ++
      if !(r.matches children labels).isEmpty && !r.continues then []
      else (visit labels rest).result := by
  cases hgate : r.gate.holds labels with
  | false => simp [Route.matches, visit, hgate]
  | true =>
    by_cases hinner : (visit labels children).result = [] <;> cases hcontinues : r.continues <;>
      simp [Route.matches, visit, hgate, hinner, hcontinues]

theorem visit_of_not_holds (h : r.gate.holds labels = false) :
    (visit labels (.node r children rest)).result = (visit labels rest).result := by
  rw [visit_node, r.isEmpty_matches, h, Route.matches_of_not_holds h]
  rfl

theorem visit_of_holds (h : r.gate.holds labels = true) :
    (visit labels (.node r children rest)).result =
      r.taken (visit labels children).result ++
        if r.continues then (visit labels rest).result else [] := by
  rw [visit_node, r.isEmpty_matches, h, Route.matches_of_holds h]
  cases r.continues <;> rfl

/-- A level finds nothing if and only if no gate on it holds. -/
theorem visit_eq_nil_iff (routes : Routes) :
    (visit labels routes).result = [] ↔ ∀ t ∈ routes.trees, t.1.gate.holds labels = false := by
  induction routes with
  | nil => simp [visit, Forest.trees]
  | node r children rest _ ih =>
    by_cases hr : r.gate.holds labels
    · simp [visit_of_holds hr, Forest.trees, hr, r.taken_ne_nil]
    · rw [Bool.not_eq_true] at hr
      simp [visit_of_not_holds hr, Forest.trees, hr, ih]

/-- What a level finds are policies of routes on it or further in. -/
theorem exists_mem_of_mem_visit {routes : Routes} {p : Policy}
    (h : p ∈ (visit labels routes).result) : ∃ r ∈ routes, r.policy = p := by
  induction routes with
  | nil => simp [visit] at h
  | node r children rest ihc ihr =>
    have hrest (h : p ∈ (visit labels rest).result) :
        ∃ t ∈ Forest.node r children rest, t.policy = p := by
      obtain ⟨t, ht, hp⟩ := ihr h
      exact ⟨t, Forest.mem_node_iff.mpr (.inr (.inr ht)), hp⟩
    by_cases hr : r.gate.holds labels
    · rw [visit_of_holds hr, List.mem_append] at h
      rcases h with h | h
      · unfold Route.taken at h
        split_ifs at h
        · exact ⟨r, Forest.mem_node_iff.mpr (.inl rfl), (List.mem_singleton.mp h).symm⟩
        · obtain ⟨t, ht, hp⟩ := ihc h
          exact ⟨t, Forest.mem_node_iff.mpr (.inr (.inl ht)), hp⟩
      · split_ifs at h
        · exact hrest h
        · simp at h
    · rw [Bool.not_eq_true] at hr
      rw [visit_of_not_holds hr] at h
      exact hrest h

theorem matches_eq (routes : Routes) :
    routes.matches labels =
      if (visit labels routes).result = [] then [.fallback] else (visit labels routes).result := by
  by_cases h : (visit labels routes).result = [] <;> simp [Routes.matches, run, h]

end Routes

end AlertRouting
