import AlertRouting.Route.Matching
import AlertRouting.Text.Layout

/-!
# Traces

A trace shows which routes were tried for an alert, which of them took it, and how many were never
reached since an earlier route had taken the alert.
-/
namespace AlertRouting

/-- What happened at one route. The steps of the routes inside it stand below it in the forest. -/
structure Step where
  matched : Bool
  matchers : String
  target : String
  continues : Bool
  /-- The routes inside that were not tried. -/
  skipped : Nat
  /-- Did the alert stop at the route itself? -/
  usedOwn : Bool
deriving DecidableEq, Repr

/-- The steps of a level, with how many of its routes were not tried. -/
structure Walk where
  steps : Forest Step
  skipped : Nat
  /-- The policies found before the level and in it. -/
  policies : List Policy

namespace Routes

/-- Follows an alert through the routes of a level, adding to the policies already found. -/
def walk (labels : Labels) (found : List Policy) : Routes → Walk
  | .nil => ⟨.nil, 0, found⟩
  | .node r children rest =>
    if !r.gate.holds labels then
      let step : Step := ⟨false, r.gate.text, r.policy.target, r.continues, 0, false⟩
      let later := walk labels found rest
      { later with steps := .node step .nil later.steps }
    else
      let inner := walk labels found children
      let usedOwn := inner.policies.length = found.length
      let policies := if usedOwn then inner.policies ++ [r.policy] else inner.policies
      let step : Step :=
        ⟨true, r.gate.text, r.policy.target, r.continues, inner.skipped, usedOwn⟩
      if policies.length > found.length ∧ !r.continues then
        ⟨.node step inner.steps .nil, rest.length, policies⟩
      else
        let later := walk labels policies rest
        { later with steps := .node step inner.steps later.steps }

end Routes

structure Trace where
  result : List Policy
  steps : Forest Step
  skipped : Nat
  usedFallback : Bool
deriving DecidableEq

def Routes.trace (routes : Routes) (labels : Labels) : Trace :=
  let w := routes.walk labels []
  if w.policies.isEmpty then ⟨[.fallback], w.steps, w.skipped, true⟩
  else ⟨w.policies, w.steps, w.skipped, false⟩

/-- Follows an alert through one route and the routes inside it, adding to the policies found. -/
def Route.walk (r : Route) (children : Routes) (labels : Labels) (found : List Policy) : Walk :=
  Routes.walk labels found (.node r children .nil)

def anyUsedOwn : Forest Step → Bool
  | .nil => false
  | .node s children rest => s.usedOwn || anyUsedOwn children || anyUsedOwn rest

namespace Step

def producedMatch (s : Step) (children : Forest Step) : Bool := s.usedOwn || anyUsedOwn children

/-- All of a step, given the layouts of the steps inside it. -/
def layout (s : Step) (children : List Text.Layout) : Text.Layout :=
  .record "RouteTrace" [
    .field "matched" (.bool s.matched),
    .field "matchers" (.quoted s.matchers),
    .field "target" (.quoted s.target),
    .field "continue_matching" (.bool s.continues),
    .field "children" (.list children),
    .field "skipped" (.atom (toString s.skipped)),
    .field "used_own_options" (.bool s.usedOwn)]

def layouts : Forest Step → List Text.Layout
  | .nil => []
  | .node s children rest => s.layout (layouts children) :: layouts rest

end Step

def Trace.layout (t : Trace) : Text.Layout :=
  .record "MatchTrace" [
    .field "result" (.list (t.result.map Policy.layout)),
    .field "steps" (.list (Step.layouts t.steps)),
    .field "skipped" (.atom (toString t.skipped)),
    .field "used_fallback" (.bool t.usedFallback)]

end AlertRouting
