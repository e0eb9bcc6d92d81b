import AlertRouting.Route.Basic

/-!
# Matching alerts

An alert enters a route if its gate holds. It then goes down to the routes inside, and stops at the
route itself only if none of them takes it. The first route of a level that takes the alert keeps it
from later ones, unless that route continues.
-/
namespace AlertRouting

namespace Routes

/-- The policies of the routes of a level that take an alert, in order. -/
def visit (labels : Labels) : Routes → Logged (List Policy)
  | .nil => ⟨[], []⟩
  | .node r children rest =>
    let first : Logged (List Policy) :=
      if !r.gate.holds labels then ⟨[], [.pruned r.gate.text]⟩
      else
        let inner := visit labels children
        if inner.result.isEmpty then ⟨[r.policy], inner.log ++ [.matchedAsLeaf r.policy.target]⟩
        else inner
    if !first.result.isEmpty && !r.continues then first
    else
      let later := visit labels rest
      ⟨first.result ++ later.result, first.log ++ later.log⟩

def run (routes : Routes) (labels : Labels) : Logged (List Policy) :=
  let found := visit labels routes
  if found.result.isEmpty then ⟨[.fallback], found.log ++ [.usedFallback labels.text]⟩ else found

/-- The policies of an alert. There is always one. -/
def «matches» (routes : Routes) (labels : Labels) : List Policy := (routes.run labels).result

def targets (routes : Routes) (labels : Labels) : List String :=
  (routes.matches labels).map Policy.target

end Routes

def Route.matches (r : Route) (children : Routes) (labels : Labels) : List Policy :=
  (Routes.visit labels (.node r children .nil)).result

end AlertRouting
