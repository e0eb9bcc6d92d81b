import AlertRouting.Config.Editing
import AlertRouting.Proofs.Trace.Steps
import AlertRouting.Route.Build
import Mathlib.Logic.Function.Iterate

/-!
# The root around all routes

The routes of a configuration behave as if they stood inside one more route, which takes every alert
and has the fallback policy. A route for which nothing is written is built as that root, so putting
all routes inside it does not change where alerts go.
-/
namespace AlertRouting

/-- The route that takes every alert and has the fallback policy. -/
def Route.root : Route := ⟨.fallback, [], false⟩

theorem Route.root_holds (labels : Labels) : Route.root.gate.holds labels = true := rfl

theorem Settings.gate_empty [Regex.SizeLimit] : Settings.empty.gate = .ok [] := rfl

theorem Settings.resolve_empty : Settings.empty.resolve .fallback = .fallback := rfl

namespace Routes

variable {labels : Labels}

def enclosed (routes : Routes) : Routes := .node .root routes .nil

/-- A route for which nothing is written is built as the root, with the same errors and the same
record. -/
theorem ofConfig_enclosed [Regex.SizeLimit] (c : Config) :
    ofConfig .fallback (.node .empty c .nil) =
    ⟨(ofConfig .fallback c).result.map enclosed, (ofConfig .fallback c).log⟩ := by
  rw [ofConfig, Settings.gate_empty, Settings.resolve_empty]
  dsimp only
  cases (ofConfig .fallback c).result with
  | error e => rfl
  | ok routes => simp [ofConfig, Except.map, enclosed, Route.root, Settings.empty]

theorem ofConfig_wrap [Regex.SizeLimit] (n : ℕ) (c : Config) :
    (ofConfig .fallback (c.wrap n)).result = (ofConfig .fallback c).result.map enclosed^[n] := by
  induction n generalizing c with
  | zero => cases h : (ofConfig .fallback c).result <;> simp [Config.wrap, h, Except.map]
  | succ n ih =>
    rw [Config.wrap, ih, ofConfig_enclosed]
    cases (ofConfig .fallback c).result with
    | error e => rfl
    | ok routes => rfl

/-- All routes find what the root finds. Where none of them takes the alert, the root has the
fallback policy. -/
theorem matches_eq_taken (routes : Routes) :
    routes.matches labels = Route.root.taken (visit labels routes).result :=
  matches_eq routes

theorem visit_enclosed (routes : Routes) :
    (visit labels routes.enclosed).result = routes.matches labels := by
  rw [matches_eq_taken, enclosed, visit_of_holds (Route.root_holds labels)]
  exact List.append_nil _

theorem matches_ne_nil (routes : Routes) : routes.matches labels ≠ [] := by
  rw [matches_eq_taken]
  exact Route.taken_ne_nil _ _

theorem matches_enclosed (routes : Routes) :
    routes.enclosed.matches labels = routes.matches labels := by
  rw [matches_eq, visit_enclosed, if_neg routes.matches_ne_nil]

theorem matches_iterate_enclosed (n : ℕ) (routes : Routes) :
    (enclosed^[n] routes).matches labels = routes.matches labels := by
  induction n generalizing routes with
  | zero => rfl
  | succ n ih => rw [Function.iterate_succ_apply, ih, matches_enclosed]

/-- The step of the root tells of the routes inside it what a trace of all routes tells. -/
theorem walk_root (routes : Routes) (found : List Policy) :
    ∃ step, (Route.root.walk routes labels found).steps =
        .node step (routes.trace labels).steps .nil ∧
      step.matched = true ∧ step.skipped = (routes.trace labels).skipped ∧
      step.usedOwn = (routes.trace labels).usedFallback ∧
      (Route.root.walk routes labels found).policies = found ++ (routes.trace labels).result := by
  have hwalk : walk labels found routes.enclosed = _ := walk_eq found routes.enclosed
  rw [visit_enclosed, enclosed, steps_of_holds (Route.root_holds labels)] at hwalk
  rw [Route.walk, hwalk, trace_eq]
  exact ⟨Route.root.step labels routes, rfl, rfl, rfl, rfl, rfl⟩

/-- Routes behave as if they stood inside the root. They are built inside a route for which nothing
is written, with the same error if there is one. The root finds the policies of all routes, and its
step has the steps of the trace inside it, with as many routes skipped, and its own policy in the
place of the fallback. So routes may be put inside any number of roots. -/
theorem behave_as_inside_root [Regex.SizeLimit] :
    (∀ c : Config, (ofConfig .fallback (.node .empty c .nil)).result =
      (ofConfig .fallback c).result.map enclosed) ∧
    (∀ (routes : Routes) (labels : Labels),
      Route.root.matches routes labels = routes.matches labels) ∧
    (∀ (routes : Routes) (labels : Labels) (found : List Policy),
      ∃ step, (Route.root.walk routes labels found).steps =
          .node step (routes.trace labels).steps .nil ∧
        step.matched = true ∧ step.skipped = (routes.trace labels).skipped ∧
        step.usedOwn = (routes.trace labels).usedFallback ∧
        (Route.root.walk routes labels found).policies = found ++ (routes.trace labels).result) ∧
    (∀ (n : ℕ) (routes : Routes) (labels : Labels),
      (enclosed^[n] routes).matches labels = routes.matches labels) ∧
    ∀ (n : ℕ) (c : Config) (labels : Labels),
      (ofConfig .fallback (c.wrap n)).result.map (fun routes => routes.matches labels) =
        (ofConfig .fallback c).result.map fun routes => routes.matches labels := by
  refine ⟨fun c => ?_, fun routes labels => visit_enclosed routes,
    fun routes labels found => walk_root routes found,
    fun n routes labels => matches_iterate_enclosed n routes, fun n c labels => ?_⟩
  · rw [ofConfig_enclosed]
  · rw [ofConfig_wrap]
    cases (ofConfig .fallback c).result with
    | error e => rfl
    | ok routes => exact congrArg Except.ok (matches_iterate_enclosed n routes)

end Routes

end AlertRouting
