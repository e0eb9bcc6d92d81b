import AlertRouting.Proofs.Trace.Steps

/-!
# A trace finds what matching finds

Matching asks of every level whether a list is empty. A trace keeps one list for the whole walk and
compares its length before and after a level. The walk adds to the list exactly what matching finds,
whatever stands in the list already.
-/
namespace AlertRouting

namespace Routes

variable {labels : Labels}

/-- The walk adds what matching finds to the policies found before. -/
theorem walk_policies (found : List Policy) (routes : Routes) :
    (walk labels found routes).policies = found ++ (visit labels routes).result := by
  rw [walk_eq]

/-- A trace has the policies of the alert as its result, and the walk through a single route adds
exactly the policies of that route to any that were found before. -/
theorem trace_result_eq_matches :
    (∀ (routes : Routes) (labels : Labels),
      (routes.trace labels).result = routes.matches labels) ∧
    ∀ (r : Route) (children : Routes) (labels : Labels) (found : List Policy),
      (r.walk children labels found).policies = found ++ r.matches children labels := by
  refine ⟨fun routes labels => ?_, fun r children labels found => walk_policies found _⟩
  have hw : (routes.walk labels []).policies = (visit labels routes).result :=
    walk_policies [] routes
  rw [matches_eq, trace, hw]
  by_cases h : (visit labels routes).result = [] <;> simp [h]

end Routes

end AlertRouting
