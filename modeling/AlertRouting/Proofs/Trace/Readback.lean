import AlertRouting.Proofs.Trace.Levels

/-!
# The result in a trace

The policies of an alert can be read back from the steps: they are those of the routes at which the
alert stopped. A route took the alert if and only if it stopped there or further in.
-/
namespace AlertRouting

/-- The targets of the steps that stopped at their own route, each before those inside it. -/
def ownTargets (steps : Forest Step) : List String :=
  (steps.toList.filter Step.usedOwn).map Step.target

theorem ownTargets_node (step : Step) (inner later : Forest Step) :
    ownTargets (.node step inner later) =
      (if step.usedOwn then [step.target] else []) ++ ownTargets inner ++ ownTargets later := by
  cases h : step.usedOwn <;> simp [ownTargets, h]

theorem anyUsedOwn_node (step : Step) (inner later : Forest Step) :
    anyUsedOwn (.node step inner later) = (step.producedMatch inner || anyUsedOwn later) :=
  rfl

namespace Routes

variable {labels : Labels} {r : Route} {children rest : Routes}

/-- A step produced a match if its gate holds, since then the alert stops at the route or inside. -/
theorem producedMatch_of_anyUsedOwn
    (h : anyUsedOwn (steps labels children) = !(visit labels children).result.isEmpty) :
    (r.step labels children).producedMatch (r.stepsInside labels children) =
      r.gate.holds labels := by
  rw [Step.producedMatch, Route.stepsInside]
  cases hr : r.gate.holds labels with
  | true => simp [Route.step, hr, h]
  | false => simp [Route.step, hr, anyUsedOwn]

/-- Some step of a level stopped at its own route if and only if the level finds something. -/
theorem anyUsedOwn_steps (routes : Routes) :
    anyUsedOwn (steps labels routes) = !(visit labels routes).result.isEmpty := by
  induction routes with
  | nil => rfl
  | node r children rest ihc ihr =>
    rw [steps_node, anyUsedOwn_node, producedMatch_of_anyUsedOwn ihc]
    cases hr : r.gate.holds labels with
    | true => simp [visit_of_holds hr, r.taken_ne_nil]
    | false => simp [Route.Keeps, visit_of_not_holds hr, hr, ihr]

theorem producedMatch_step (r : Route) (below : Routes) :
    (r.step labels below).producedMatch (r.stepsInside labels below) = r.gate.holds labels :=
  producedMatch_of_anyUsedOwn (anyUsedOwn_steps below)

/-- The steps that stopped at their own route have the targets that the level finds. -/
theorem ownTargets_steps (routes : Routes) :
    ownTargets (steps labels routes) = (visit labels routes).result.map Policy.target := by
  induction routes with
  | nil => rfl
  | node r children rest ihc ihr =>
    cases hr : r.gate.holds labels with
    | false =>
      have hnone : ownTargets .nil = [] := rfl
      rw [steps_of_not_holds hr, visit_of_not_holds hr, ownTargets_node, hnone, ihr]
      simp [Route.step, hr]
    | true =>
      have hfirst : (if (r.step labels children).usedOwn then [(r.step labels children).target]
          else []) ++ ownTargets (steps labels children) =
            (r.taken (visit labels children).result).map Policy.target := by
        rw [ihc, Route.taken]
        by_cases hnil : (visit labels children).result = [] <;> simp [Route.step, hr, hnil]
      rw [steps_of_holds hr, visit_of_holds hr, ownTargets_node, hfirst, List.map_append]
      cases hk : r.continues with
      | true => simp [ihr]
      | false => simp [ownTargets]

theorem matches_ne_nil_iff {below : Routes} :
    r.matches below labels ≠ [] ↔ r.gate.holds labels = true := by
  rw [Route.matches, ne_eq, visit_eq_nil_iff]
  simp [Forest.trees]

/-- The targets of the steps that stopped at their own route are those of the alert. There are none
if and only if the fallback was used, and this is so if and only if no gate at the top holds. A step
produced a match if and only if its gate holds, and if and only if its route finds something. -/
theorem result_read_from_trace (routes : Routes) (labels : Labels) :
    let t := routes.trace labels
    (ownTargets t.steps ≠ [] → ownTargets t.steps = routes.targets labels) ∧
    (ownTargets t.steps = [] ↔ t.usedFallback = true) ∧
    (t.usedFallback = true → t.result = [.fallback]) ∧
    (t.usedFallback = true ↔ ∀ u ∈ routes.trees, u.1.gate.holds labels = false) ∧
    ∀ path step inner, t.steps.get? path = some (step, inner) →
      ∃ r below, routes.get? path = some (r, below) ∧ Traces labels (r, below) (step, inner) ∧
        (step.producedMatch inner = true ↔ step.matched = true) ∧
        (step.matched = true ↔ r.matches below labels ≠ []) := by
  simp only [trace_eq, ownTargets_steps, List.isEmpty_iff]
  refine ⟨fun hsome => ?_, List.map_eq_nil_iff, fun hnil => ?_, visit_eq_nil_iff routes,
    fun path step inner hstep => ?_⟩
  · rw [targets, matches_eq, if_neg (mt List.map_eq_nil_iff.mpr hsome)]
  · rw [matches_eq, if_pos hnil]
  · obtain ⟨r, below, hr, rfl, rfl⟩ := exists_of_get?_steps hstep
    refine ⟨r, below, hr, traces_step r below, ?_, matches_ne_nil_iff.symm⟩
    rw [producedMatch_step, Route.step]

/-- The step for the team did not stop at its own route, but the one inside it did. -/
theorem result_read_from_trace_audit :
    let t := auditRoutes.trace pageLabels
    ownTargets t.steps = ["oncall", "audit"] ∧
      auditRoutes.targets pageLabels = ["oncall", "audit"] ∧
      ∃ step inner, t.steps.get? [0] = some (step, inner) ∧ step.usedOwn = false ∧
        step.producedMatch inner = true := by
  have hown : ownTargets (auditRoutes.trace pageLabels).steps = ["oncall", "audit"] := rfl
  have hget : (auditRoutes.trace pageLabels).steps.get? [0] = some _ := rfl
  obtain ⟨hresult, -, -, -, hsteps⟩ := result_read_from_trace auditRoutes pageLabels
  obtain ⟨r, below, -, -, hproduced, -⟩ := hsteps [0] _ _ hget
  have htargets := hresult (by rw [hown]; exact List.cons_ne_nil _ _)
  exact ⟨hown, htargets.symm.trans hown, _, _, hget, rfl, hproduced.mpr rfl⟩

/-- A route may have the fallback policy, and its alerts do not use the fallback. -/
example : (trace (.node ⟨.fallback, [], false⟩ .nil .nil) ∅).usedFallback = false := rfl

end Routes

end AlertRouting
