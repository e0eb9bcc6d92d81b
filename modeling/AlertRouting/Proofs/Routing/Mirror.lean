import AlertRouting.Proofs.NameMap.Names
import AlertRouting.Proofs.Routing.Building
import AlertRouting.Proofs.Routing.Gates

/-!
# Routes mirror the configuration

Building goes through a configuration node by node. No route is lost, added or moved, and every
matcher of a route is one that is written for it: first the exact texts, then the patterns, both in
the order of label names.
-/
namespace AlertRouting

def Condition.written : Condition → String
  | .equals value => value
  | .matching pattern => pattern.text

/-- What is written for a matcher: its label, whether its text is a pattern, and the text. -/
def Matcher.written (m : Matcher) : String × Bool × String :=
  (m.name, m.isRegex, m.condition.written)

namespace Matcher

theorem written_exact (name value : String) : (exact name value).written = (name, false, value) :=
  rfl

theorem written_of_regex [Regex.SizeLimit] {name text : String} {m : Matcher}
    (h : regex name text = .ok m) : m.written = (name, true, text) := by
  obtain ⟨p, hp, rfl⟩ := regex_eq_ok_iff.mp h
  rw [← (Pattern.ofText?_eq_some hp).1]
  rfl

end Matcher

namespace Settings

theorem map_written_patternMatchers [Regex.SizeLimit] {entries : List (String × String)}
    {g : Gate} (h : patternMatchers entries = .ok g) :
    g.map Matcher.written = entries.map fun e => (e.1, true, e.2) := by
  induction entries generalizing g with
  | nil =>
    cases h
    rfl
  | cons e entries ih =>
    obtain ⟨m, more, hm, hmore, rfl⟩ := patternMatchers_cons_eq_ok_iff.mp h
    rw [List.map_cons, List.map_cons, Matcher.written_of_regex hm, ih hmore]

/-- The matchers of a gate are those that are written, one for each entry and in the same order. -/
theorem map_written_gate [Regex.SizeLimit] {s : Settings} {g : Gate} (h : s.gate = .ok g) :
    g.map Matcher.written = (s.exact.entries.map fun e => (e.1, false, e.2)) ++
      s.patterns.entries.map fun e => (e.1, true, e.2) := by
  obtain ⟨more, hmore, rfl⟩ := gate_eq_ok_iff.mp h
  have hexact : (s.exact.entries.map fun e => Matcher.exact e.1 e.2).map Matcher.written =
      s.exact.entries.map fun e => (e.1, false, e.2) := by
    rw [List.map_map]
    exact List.map_congr_left fun e _ => Matcher.written_exact e.1 e.2
  rw [List.map_append, hexact, map_written_patternMatchers hmore]

end Settings

/-- What a route, with the routes inside it, has from the settings and the configuration inside them.
-/
structure Route.Mirrors [Regex.SizeLimit] (r : Route) (below : Routes) (s : Settings)
    (inner : Config) : Prop where
  continues : r.continues = s.continues
  /-- The matchers are those that are written, the exact texts before the patterns. -/
  matchers : r.gate.map Matcher.written = (s.exact.entries.map fun e => (e.1, false, e.2)) ++
    s.patterns.entries.map fun e => (e.1, true, e.2)
  exactNames : s.exact.names.Pairwise (· < ·)
  patternNames : s.patterns.names.Pairwise (· < ·)
  holds_iff : ∀ labels : Labels, r.gate.holds labels = true ↔ s.Admits labels
  length_eq : below.length = inner.length
  isEmpty_iff : below.isEmpty = true ↔ inner = .nil
  depth_eq : below.depth = inner.depth

namespace Routes

theorem mirrors_of_makes [Regex.SizeLimit] {s : Settings} {r : Route} {inner : Config}
    {below : Routes} (hmakes : s.Makes r) (h : Forest.Forall₂ Settings.Makes inner below) :
    r.Mirrors below s inner where
  continues := hmakes.continues
  matchers := Settings.map_written_gate hmakes.gate
  exactNames := s.exact.pairwise_names
  patternNames := s.patterns.pairwise_names
  holds_iff _ := Settings.gate_holds_iff hmakes.gate
  length_eq := h.length_eq.symm
  isEmpty_iff := by
    rw [← h.isEmpty_eq]
    cases inner <;> simp [Forest.isEmpty]
  depth_eq := h.depth_eq.symm

/-- The routes that are built have their places, flags and matchers from the configuration. A gate
holds if and only if the labels have all the texts and match all the patterns that are written,
where a label may be asked for by both. Levels are as long as they are written, and the routes are
nested as deep as the longest line of the configuration goes down. -/
theorem built_mirrors_config [Regex.SizeLimit] {outer : Policy} {c : Config} {routes : Routes}
    (h : (ofConfig outer c).result = .ok routes) :
    (∀ path, (routes.get? path).isSome = (c.get? path).isSome) ∧
    (∀ path s inner, c.get? path = some (s, inner) →
      ∃ r below, routes.get? path = some (r, below) ∧ r.Mirrors below s inner) ∧
    routes.length = c.length ∧ routes.depth = c.depth ∧
    c.depth = (c.trees.map fun t => 1 + t.2.depth).max?.getD 0 ∧
    IsLUB {n | ∃ path, (c.get? path).isSome ∧ path.length = n} c.depth := by
  have hmirror := forall₂_of_ofConfig h
  refine ⟨fun path => (hmirror.isSome_get?_eq path).symm, fun path s inner hs => ?_,
    hmirror.length_eq.symm, hmirror.depth_eq.symm, c.depth_eq_max?, c.isLUB_depth⟩
  obtain ⟨r, below, hr, hmakes, hbelow⟩ := hmirror.exists_get?_eq hs
  exact ⟨r, below, hr, mirrors_of_makes hmakes hbelow⟩

attribute [local instance] Regex.SizeLimit.unlimited

/-- A route that asks for a zone twice, by a text and by a pattern, and one inside it. -/
def zoneTwiceConfig : Config :=
  .node { Settings.empty with
      exact := .ofList [("zone", "eu"), ("app", "web")], patterns := .ofList [("zone", "e.*|us")],
      continues := true }
    (.node .empty .nil .nil) .nil

/-- Its matchers stand in the order of names, and both of those for the zone have to hold. -/
theorem built_mirrors_config_zone : ∃ routes r below,
    (ofConfig .fallback zoneTwiceConfig).result = .ok routes ∧
      routes.get? [0] = some (r, below) ∧ r.continues = true ∧
      r.gate.map Matcher.written =
        [("app", false, "web"), ("zone", false, "eu"), ("zone", true, "e.*|us")] ∧
      r.gate.holds (.ofList [("zone", "eu"), ("app", "web")]) = true ∧
      r.gate.holds (.ofList [("zone", "us"), ("app", "web")]) = false ∧
      below.length = 1 ∧ routes.depth = 2 := by
  have hgates : ∀ s ∈ zoneTwiceConfig, ∃ gate, s.gate = .ok gate := by
    simp only [zoneTwiceConfig, Forest.forall_mem_node_iff, Settings.exists_gate_iff]
    refine ⟨?_, ⟨fun _ he => absurd he List.not_mem_nil, by simp⟩, by simp⟩
    decide +kernel
  obtain ⟨routes, hroutes⟩ := exists_ofConfig_iff.mpr hgates
  obtain ⟨-, hnodes, -, hdepth, -⟩ := built_mirrors_config hroutes
  obtain ⟨r, below, hr, hmirrors⟩ := hnodes [0] _ _ (Forest.get?_zero _ _ _)
  have hpattern : ∃ expr, compile? (anchored "e.*|us") = some expr ∧ expr.isMatch "eu" = true :=
    (Option.any_eq_true _ _).mp (by decide +kernel)
  refine ⟨routes, r, below, hroutes, hr, hmirrors.continues, hmirrors.matchers, ?_, ?_,
    hmirrors.length_eq, hdepth⟩
  · refine (hmirrors.holds_iff _).mpr ⟨by decide, fun e he => ?_⟩
    obtain rfl := List.mem_singleton.mp he
    exact hpattern
  · rw [← Bool.not_eq_true, hmirrors.holds_iff]
    intro hadmits
    exact absurd (hadmits.exact ("zone", "eu") (by decide)) (by decide)

end Routes

end AlertRouting
