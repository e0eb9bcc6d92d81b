import AlertRouting.Config.Validation
import AlertRouting.Policy

/-!
# Routes

A route has a gate of matchers and the policy of the alerts that stop at it. Its policy is complete:
it holds what the route takes from the routes around it. The outline shows every route on a line,
below the route around it and two blanks further in.
-/
namespace AlertRouting

structure Route where
  policy : Policy
  gate : Gate
  /-- Do later routes of the same level still match after this one? -/
  continues : Bool
deriving DecidableEq

abbrev Routes := Forest Route

def Route.line (r : Route) : String :=
  r.gate.text ++ " " ++ r.policy.text ++ (if r.continues then " continue" else "")

namespace Routes

def outlineIndentation (depth : Nat) : String := String.ofList (List.replicate (2 * depth) ' ')

def outlineLines (depth : Nat) : Routes → List String
  | .nil => []
  | .node r children rest =>
    (outlineIndentation depth ++ r.line) :: outlineLines (depth + 1) children
      ++ outlineLines depth rest

def outline (routes : Routes) : String := Text.lines (outlineLines 0 routes)

end Routes

inductive Event
  | matching (labels : String)
  | pruned (matchers : String)
  | matchedAsLeaf (target : String)
  | usedFallback (labels : String)
  | buildFailed (error : String)
  | built (routes depth : Nat)
deriving DecidableEq, Repr

inductive Level
  | trace | debug | error
deriving DecidableEq, Repr

/-- How verbose the program has to be for an event of the level to be shown. -/
def Level.verbosity : Level → Nat
  | error => 0
  | debug => 1
  | trace => 2

namespace Event

def level : Event → Level
  | pruned _ | matchedAsLeaf _ | usedFallback _ => .trace
  | matching _ | built .. => .debug
  | buildFailed _ => .error

def message : Event → String
  | matching _ => "matching"
  | pruned _ => "route pruned"
  | matchedAsLeaf _ => "route matched as leaf"
  | usedFallback _ => "no route matched, using defaults"
  | buildFailed _ => "route construction on unvalidated config"
  | built .. => "built routing tree"

def fields : Event → List (String × String)
  | matching labels => [("labels", labels)]
  | pruned matchers => [("matchers", matchers)]
  | matchedAsLeaf target => [("send_to", target)]
  | usedFallback labels => [("labels", labels)]
  | buildFailed error => [("error", error)]
  | built routes depth => [("routes", toString routes), ("depth", toString depth)]

def line (e : Event) : String :=
  " ".intercalate (e.message :: e.fields.map fun f => f.1 ++ "=" ++ f.2)

end Event

structure Logged (α : Type) where
  result : α
  log : List Event

end AlertRouting
