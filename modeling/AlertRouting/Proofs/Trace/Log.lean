import AlertRouting.Proofs.Trace.Steps

/-!
# The log of matching and the trace

While an alert is matched, an event is recorded for every route that is pruned and for every route
at which the alert stops. A trace tells the same events in the same order: those of a route come
after all that was recorded inside it, and routes that are not tried have none.
-/
namespace AlertRouting

def stepEvents : Forest Step → List Event
  | .nil => []
  | .node step inner later =>
    (if step.matched then
      stepEvents inner ++ if step.usedOwn then [.matchedAsLeaf step.target] else []
    else [.pruned step.matchers]) ++ stepEvents later

/-- The events that the trace of an alert tells of, given the labels of the alert. -/
def Trace.events (t : Trace) (labels : Labels) : List Event :=
  stepEvents t.steps ++ if t.usedFallback then [.usedFallback labels.text] else []

namespace Routes

variable {labels : Labels} {r : Route} {children rest : Routes}

theorem log_visit_of_not_holds (h : r.gate.holds labels = false) :
    (visit labels (.node r children rest)).log =
      .pruned r.gate.text :: (visit labels rest).log := by
  simp [visit, h]

theorem log_visit_of_holds (h : r.gate.holds labels = true) :
    (visit labels (.node r children rest)).log =
      ((visit labels children).log ++
        if (visit labels children).result.isEmpty then [.matchedAsLeaf r.policy.target] else []) ++
        if r.continues then (visit labels rest).log else [] := by
  cases hnil : (visit labels children).result.isEmpty <;> cases hk : r.continues <;>
    simp [visit, h, hnil, hk]

/-- What is recorded on a level is what its steps tell of. -/
theorem log_visit (routes : Routes) :
    (visit labels routes).log = stepEvents (steps labels routes) := by
  induction routes with
  | nil => rfl
  | node r children rest ihc ihr =>
    cases hr : r.gate.holds labels with
    | false =>
      have hstep : (r.step labels children).matched = false := hr
      rw [log_visit_of_not_holds hr, steps_of_not_holds hr, stepEvents, ihr, hstep]
      rfl
    | true =>
      have hstep : (r.step labels children).matched = true := hr
      have hown : (r.step labels children).usedOwn = (visit labels children).result.isEmpty := by
        rw [Route.step, hr, Bool.true_and]
      rw [log_visit_of_holds hr, steps_of_holds hr, stepEvents, ihc, ihr, hstep, hown, if_pos rfl]
      cases r.continues <;> rfl

/-- What is recorded while an alert is matched is what its trace tells of, in the same order. -/
theorem log_run_eq_events (routes : Routes) (labels : Labels) :
    (routes.run labels).log = (routes.trace labels).events labels := by
  rw [trace_eq, Trace.events, ← log_visit, run]
  cases (visit labels routes).result.isEmpty with
  | true => rfl
  | false => exact (List.append_nil _).symm

/-- A route that is pruned, and then the fallback. -/
example : (run (.node ⟨.fallback, [.exact "zone" "eu"], false⟩ .nil .nil) ∅).log =
    [.pruned "\x7bzone=\"eu\"\x7d", .usedFallback "\x7b\x7d"] :=
  rfl

end Routes

end AlertRouting
