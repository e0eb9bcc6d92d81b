import AlertRouting.Duration
import AlertRouting.Forest
import AlertRouting.Labels

/-!
# Configurations

A configuration is the forest of the routes as they are written. What a route leaves out it takes from
the route around it, except for the grouping, of which every route has its own.
-/
namespace AlertRouting

structure Settings where
  /-- Where notifications go; nothing and the empty text both leave it to the route around. -/
  sendTo : Option String
  groupBy : List String
  groupWait : Option Duration
  groupInterval : Option Duration
  repeatInterval : Option Duration
  sendResolved : Option Bool
  /-- Labels and the texts they must have. -/
  exact : Labels
  /-- Labels and the patterns that must hold of them. -/
  patterns : Labels
  /-- Do later routes of the same level still match after this one? -/
  continues : Bool
deriving DecidableEq

namespace Settings

def empty : Settings := ⟨none, [], none, none, none, none, ∅, ∅, false⟩

instance : Inhabited Settings := ⟨empty⟩

end Settings

abbrev Config := Forest Settings

/-- The place of a route: on its own, in the list of a configuration, or among the routes inside
another. -/
inductive Location
  | route
  | top (i : Nat)
  | inside (outer : Location) (i : Nat)
deriving DecidableEq, Repr

def Location.text : Location → String
  | route => "route"
  | top i => "routes[" ++ toString i ++ "]"
  | inside outer i => outer.text ++ ".routes[" ++ toString i ++ "]"

end AlertRouting
