import AlertRouting.Proofs.Forest.Nodes
import AlertRouting.Proofs.NameMap.Lookup
import AlertRouting.Route.Trace

/-!
# The labels that routes ask for

A matcher sees one label, and it sees no difference between an absent label and an empty one. So
routing depends only on what the labels read as under the names that the matchers ask for.
-/
namespace AlertRouting

variable {a b : Labels}

namespace Labels

theorem valueOrEmpty_insert (labels : Labels) (name value n : String) :
    valueOrEmpty (labels.insert name value) n =
      if n = name then value else labels.valueOrEmpty n := by
  rw [valueOrEmpty, NameMap.get?_insert]
  by_cases hn : n = name
  · rw [if_pos hn, if_pos hn, Option.getD_some]
  · rw [if_neg hn, if_neg hn, valueOrEmpty]

end Labels

theorem Matcher.holds_congr {m : Matcher} (h : a.valueOrEmpty m.name = b.valueOrEmpty m.name) :
    m.holds a = m.holds b := by
  rw [Matcher.holds, Matcher.holds, h]

theorem Gate.holds_congr {g : Gate}
    (h : ∀ m ∈ g, a.valueOrEmpty m.name = b.valueOrEmpty m.name) : g.holds a = g.holds b := by
  induction g with
  | nil => rfl
  | cons m g ih =>
    obtain ⟨hm, hg⟩ := List.forall_mem_cons.mp h
    have htail : g.all (fun m => m.holds a) = g.all fun m => m.holds b := ih hg
    rw [Gate.holds, Gate.holds, List.all_cons, List.all_cons, Matcher.holds_congr hm, htail]

namespace Routes

variable {routes : Routes} {name : String}

/-- A matcher of the routes, at any depth, asks for the label of that name. -/
def AsksFor (routes : Routes) (name : String) : Prop :=
  ∃ r ∈ routes, ∃ m ∈ r.gate, m.name = name

/-- The routes do the same with both labels: they find the same policies on the same way. -/
def SameRouting (routes : Routes) (a b : Labels) : Prop :=
  routes.matches a = routes.matches b ∧ routes.trace a = routes.trace b

/-- Labels that open the same gates find and record the same. -/
theorem visit_congr (h : ∀ r ∈ routes, r.gate.holds a = r.gate.holds b) :
    visit a routes = visit b routes := by
  induction routes with
  | nil => rfl
  | node r children rest ihc ihr =>
    obtain ⟨hr, hchildren, hrest⟩ := Forest.forall_mem_node_iff.mp h
    rw [visit, visit, hr, ihc hchildren, ihr hrest]

theorem walk_congr (h : ∀ r ∈ routes, r.gate.holds a = r.gate.holds b) (found : List Policy) :
    walk a found routes = walk b found routes := by
  induction routes generalizing found with
  | nil => rfl
  | node r children rest ihc ihr =>
    obtain ⟨hr, hchildren, hrest⟩ := Forest.forall_mem_node_iff.mp h
    simp only [walk, hr, ihc hchildren, ihr hrest]

theorem sameRouting_of_gates (h : ∀ r ∈ routes, r.gate.holds a = r.gate.holds b) :
    routes.SameRouting a b := by
  constructor
  · cases hnil : (visit b routes).result <;> simp [Routes.matches, run, visit_congr h, hnil]
  · rw [trace, trace, walk_congr h]

theorem sameRouting_of_valueOrEmpty_eq
    (h : ∀ name, routes.AsksFor name → a.valueOrEmpty name = b.valueOrEmpty name) :
    routes.SameRouting a b := by
  refine sameRouting_of_gates fun r hr => Gate.holds_congr fun m hm => ?_
  exact h m.name ⟨r, hr, m, hm, rfl⟩

/-- Labels that read alike under every name that a matcher asks for are routed alike, and by the
same steps. So a label that no matcher asks for may come, change or go, and an absent label may be
written as an empty one. -/
theorem sameRouting_of_agree (routes : Routes) :
    (∀ a b : Labels, (∀ name, routes.AsksFor name → a.valueOrEmpty name = b.valueOrEmpty name) →
      routes.SameRouting a b) ∧
    (∀ (a b : Labels) (name : String), ¬ routes.AsksFor name →
      (∀ n, n ≠ name → a.get? n = b.get? n) → routes.SameRouting a b) ∧
    (∀ (a : Labels) (name value : String), ¬ routes.AsksFor name →
      routes.SameRouting (a.insert name value) a) ∧
    ∀ (a : Labels) (name : String), a.get? name = none →
      routes.SameRouting (a.insert name "") a := by
  have hread (a b : Labels) := @sameRouting_of_valueOrEmpty_eq a b routes
  refine ⟨hread, ?_, ?_, ?_⟩
  · intro a b name hname hsame
    refine hread a b fun n hn => ?_
    have hne : n ≠ name := fun heq => hname (heq ▸ hn)
    rw [Labels.valueOrEmpty, Labels.valueOrEmpty, hsame n hne]
  · intro a name value hname
    refine hread _ a fun n hn => ?_
    have hne : n ≠ name := fun heq => hname (heq ▸ hn)
    rw [Labels.valueOrEmpty_insert, if_neg hne]
  · intro a name habsent
    refine hread _ a fun n _ => ?_
    rw [Labels.valueOrEmpty_insert]
    by_cases hn : n = name
    · rw [if_pos hn, hn, Labels.valueOrEmpty, habsent, Option.getD_none]
    · rw [if_neg hn]

attribute [local instance] Regex.SizeLimit.unlimited

/-- A pattern that also holds of the empty text. -/
def pagePattern : Pattern := (Pattern.ofText? "(page)?").get (by decide +kernel)

/-- A route for a service, and inside it a route that continues, with a pattern for the severity. -/
def serviceRoutes : Routes :=
  .node ⟨.fallback, [.exact "service" "api"], false⟩
    (.node ⟨.fallback, [⟨"severity", .matching pagePattern⟩], true⟩ .nil .nil) .nil

theorem asksFor_serviceRoutes_iff (name : String) :
    serviceRoutes.AsksFor name ↔ name = "service" ∨ name = "severity" := by
  simp [AsksFor, serviceRoutes, Matcher.exact, eq_comm]

def apiLabels : Labels := .ofList [("service", "api")]

/-- These routes do not ask for the zone, and an empty severity is as good as none. -/
theorem sameRouting_of_agree_service :
    serviceRoutes.SameRouting (apiLabels.insert "zone" "eu") (apiLabels.insert "severity" "") ∧
    serviceRoutes.SameRouting apiLabels (apiLabels.insert "zone" "eu") ∧
    serviceRoutes.SameRouting ((apiLabels.insert "zone" "eu").insert "zone" "us")
      (apiLabels.insert "zone" "eu") ∧
    serviceRoutes.SameRouting (apiLabels.insert "severity" "") apiLabels := by
  obtain ⟨hread, hother, hinsert, hempty⟩ := sameRouting_of_agree serviceRoutes
  have hzone : ¬ serviceRoutes.AsksFor "zone" := by
    rw [asksFor_serviceRoutes_iff]
    decide
  refine ⟨hread _ _ fun name hname => ?_, hother _ _ "zone" hzone fun n hn => ?_,
    hinsert _ "zone" "us" hzone, hempty _ "severity" (by decide)⟩
  · rcases (asksFor_serviceRoutes_iff name).mp hname with rfl | rfl <;> decide
  · rw [NameMap.get?_insert, if_neg hn]

end Routes

end AlertRouting
