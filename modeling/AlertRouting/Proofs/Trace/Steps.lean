import AlertRouting.Proofs.Routing.Visit
import AlertRouting.Route.Trace

/-!
# What a walk records

A walk carries along the policies that were found before, and compares their number before and after
a level. What it adds and what it records do not depend on them. So the steps of a level, and how
many of its routes are not tried, are given here by the gates and by what matching finds.
-/
namespace AlertRouting

/-- How many routes of a level stand after the first that keeps the alert. -/
def Routes.untried (labels : Labels) : Routes → ℕ
  | .nil => 0
  | .node r _ rest => if r.Keeps labels then rest.length else untried labels rest

def Route.step (r : Route) (labels : Labels) (children : Routes) : Step where
  matched := r.gate.holds labels
  matchers := r.gate.text
  target := r.policy.target
  continues := r.continues
  skipped := if r.gate.holds labels then children.untried labels else 0
  usedOwn := r.gate.holds labels && (Routes.visit labels children).result.isEmpty

/-- The steps of a level, up to that of the first route that keeps the alert. -/
def Routes.steps (labels : Labels) : Routes → Forest Step
  | .nil => .nil
  | .node r children rest =>
    .node (r.step labels children) (if r.gate.holds labels then steps labels children else .nil)
      (if r.Keeps labels then .nil else steps labels rest)

def Route.stepsInside (r : Route) (labels : Labels) (children : Routes) : Forest Step :=
  if r.gate.holds labels then Routes.steps labels children else .nil

namespace Routes

variable {labels : Labels} {r : Route} {children rest : Routes} {found : List Policy}

theorem steps_node : steps labels (.node r children rest) =
    .node (r.step labels children) (r.stepsInside labels children)
      (if r.Keeps labels then .nil else steps labels rest) :=
  rfl

theorem untried_of_not_holds (h : r.gate.holds labels = false) :
    untried labels (.node r children rest) = untried labels rest := by
  simp [untried, Route.Keeps, h]

theorem untried_of_holds (h : r.gate.holds labels = true) :
    untried labels (.node r children rest) =
      if r.continues then untried labels rest else rest.length := by
  cases hk : r.continues <;> simp [untried, Route.Keeps, h, hk]

theorem steps_of_not_holds (h : r.gate.holds labels = false) :
    steps labels (.node r children rest) =
      .node (r.step labels children) .nil (steps labels rest) := by
  simp [steps, Route.Keeps, h]

theorem steps_of_holds (h : r.gate.holds labels = true) :
    steps labels (.node r children rest) = .node (r.step labels children) (steps labels children)
      (if r.continues then steps labels rest else .nil) := by
  cases hk : r.continues <;> simp [steps, Route.Keeps, h, hk]

theorem walk_of_not_holds (h : r.gate.holds labels = false) :
    walk labels found (.node r children rest) =
      { walk labels found rest with
        steps := .node (r.step labels children) .nil (walk labels found rest).steps } := by
  simp [walk, Route.step, h]

/-- One step of the walk, given what the walk inside the route adds and records. -/
theorem walk_of_holds (h : r.gate.holds labels = true)
    (hinner : walk labels found children =
      ⟨steps labels children, untried labels children, found ++ (visit labels children).result⟩) :
    walk labels found (.node r children rest) =
      if r.continues then
        let later := walk labels (found ++ r.taken (visit labels children).result) rest
        { later with steps := .node (r.step labels children) (steps labels children) later.steps }
      else ⟨.node (r.step labels children) (steps labels children) .nil, rest.length,
        found ++ r.taken (visit labels children).result⟩ := by
  -- The list has grown inside the route if and only if something was found there.
  by_cases hnil : (visit labels children).result = []
  · by_cases hk : r.continues <;>
      simp [walk, Route.step, Route.taken, h, hinner, hnil, hk]
  · have hpos : 0 < (visit labels children).result.length := List.length_pos_iff.mpr hnil
    by_cases hk : r.continues <;>
      simp [walk, Route.step, Route.taken, h, hinner, hnil, hpos, hk]

/-- A walk adds what matching finds. What it records does not depend on what was found before. -/
theorem walk_eq (found : List Policy) (routes : Routes) :
    walk labels found routes =
      ⟨steps labels routes, untried labels routes, found ++ (visit labels routes).result⟩ := by
  induction routes generalizing found with
  | nil => simp [walk, steps, untried, visit]
  | node r children rest ihc ihr =>
    by_cases hr : r.gate.holds labels
    · rw [walk_of_holds hr (ihc found), steps_of_holds hr, untried_of_holds hr, visit_of_holds hr]
      by_cases hk : r.continues
      · simp [hk, ihr, List.append_assoc]
      · simp [hk]
    · rw [Bool.not_eq_true] at hr
      rw [walk_of_not_holds hr, steps_of_not_holds hr, untried_of_not_holds hr,
        visit_of_not_holds hr, ihr]

theorem trace_eq (routes : Routes) :
    routes.trace labels = ⟨routes.matches labels, steps labels routes, untried labels routes,
      (visit labels routes).result.isEmpty⟩ := by
  rw [trace, walk_eq, List.nil_append, matches_eq]
  cases (visit labels routes).result <;> rfl

end Routes

end AlertRouting
