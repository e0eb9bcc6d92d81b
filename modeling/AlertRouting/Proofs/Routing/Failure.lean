import AlertRouting.Proofs.Config.Checked
import AlertRouting.Proofs.Forest.Search

/-!
# Where building fails

Building stops at the first pattern that does not compile: on the first route that has one, and there
at the first in the order of label names. The failure is recorded where it happens, and the routes
around it pass it on without another record. A configuration that is refused when it is checked is
not built, so nothing is recorded.
-/
namespace AlertRouting

section

variable [Regex.SizeLimit]

def faultOf? (e : String × String) : Option BadPattern :=
  if compile? (anchored e.2) = none then some ⟨e.1, e.2⟩ else none

theorem faultOf?_eq_none_iff {e : String × String} :
    faultOf? e = none ↔ compile? (anchored e.2) ≠ none := by
  simp [faultOf?]

theorem faultOf?_eq_some_iff {e : String × String} {bad : BadPattern} :
    faultOf? e = some bad ↔ compile? (anchored e.2) = none ∧ bad = ⟨e.1, e.2⟩ := by
  simp [faultOf?, eq_comm]

namespace Settings

variable {s : Settings} {bad : BadPattern}

/-- The first pattern of a route that does not compile. -/
def badPattern? (s : Settings) : Option BadPattern := s.patterns.entries.findSome? faultOf?

def Compiles (s : Settings) : Prop := ∀ e ∈ s.patterns.entries, compile? (anchored e.2) ≠ none

/-- The pattern does not compile, and all patterns under earlier names of the route do. -/
def FirstBad (s : Settings) (bad : BadPattern) : Prop :=
  compile? (anchored bad.pattern) = none ∧
    ∃ front later, s.patterns.entries = front ++ (bad.label, bad.pattern) :: later ∧
      ∀ e ∈ front, compile? (anchored e.2) ≠ none

theorem badPattern?_eq_none_iff : s.badPattern? = none ↔ s.Compiles := by
  simp only [badPattern?, List.findSome?_eq_none_iff, faultOf?_eq_none_iff, Compiles]

theorem badPattern?_eq_some_iff : s.badPattern? = some bad ↔ s.FirstBad bad := by
  simp only [badPattern?, List.findSome?_eq_some_iff, faultOf?_eq_none_iff, faultOf?_eq_some_iff]
  constructor
  · rintro ⟨front, e, later, hentries, ⟨hbad, rfl⟩, hfront⟩
    exact ⟨hbad, front, later, hentries, hfront⟩
  · rintro ⟨hbad, front, later, hentries, hfront⟩
    exact ⟨front, _, later, hentries, ⟨hbad, rfl⟩, hfront⟩

theorem patternMatchers_eq_error_iff {entries : List (String × String)} :
    patternMatchers entries = .error bad ↔ entries.findSome? faultOf? = some bad := by
  induction entries with
  | nil => simp [patternMatchers]
  | cons e entries ih =>
    rw [patternMatchers, List.findSome?_cons]
    cases hm : Matcher.regex e.1 e.2 with
    | error f =>
      have hf : faultOf? e = some f :=
        faultOf?_eq_some_iff.mpr (Matcher.regex_eq_error_iff.mp hm)
      simp [hf, bind, Except.bind]
    | ok m =>
      have hnone : faultOf? e = none :=
        faultOf?_eq_none_iff.mpr ((Matcher.exists_regex_iff e.1).mp ⟨m, hm⟩)
      rw [hnone, ← ih]
      cases patternMatchers entries <;> simp [bind, Except.bind]

theorem gate_eq_error_iff : s.gate = .error bad ↔ s.badPattern? = some bad := by
  rw [badPattern?, ← patternMatchers_eq_error_iff, gate]
  cases patternMatchers s.patterns.entries <;> simp [Except.map]

end Settings

namespace Config

variable {c : Config} {bad : BadPattern}

def badPattern? (c : Config) : Option BadPattern := c.toList.findSome? Settings.badPattern?

/-- The pattern is the first of a route that does not compile, and all patterns of the routes at
earlier paths do. -/
def FirstBad (c : Config) (bad : BadPattern) : Prop :=
  ∃ path s inner, c.get? path = some (s, inner) ∧ s.FirstBad bad ∧
    ∀ earlier t inside, c.get? earlier = some (t, inside) → earlier < path → t.Compiles

theorem badPattern?_eq_some_iff : c.badPattern? = some bad ↔ c.FirstBad bad := by
  simp only [badPattern?, Forest.findSome?_toList_eq_some_iff, Settings.badPattern?_eq_some_iff,
    Settings.badPattern?_eq_none_iff, FirstBad]

theorem badPattern?_node {s : Settings} {children rest : Config} :
    badPattern? (.node s children rest) =
      s.badPattern?.or ((badPattern? children).or (badPattern? rest)) := by
  rw [badPattern?, Forest.toList_node, List.findSome?_cons, List.findSome?_append]
  cases s.badPattern? <;> rfl

end Config

namespace Routes

variable {outer : Policy} {c : Config} {bad : BadPattern}

/-- If all patterns compile, the routes are built and nothing is recorded. -/
theorem exists_ofConfig_eq (outer : Policy) (h : c.badPattern? = none) :
    ∃ routes, ofConfig outer c = ⟨.ok routes, []⟩ := by
  induction c generalizing outer with
  | nil => exact ⟨.nil, rfl⟩
  | node s children rest ihc ihr =>
    rw [Config.badPattern?_node, Option.or_eq_none_iff, Option.or_eq_none_iff] at h
    obtain ⟨hs, hchildren, hrest⟩ := h
    obtain ⟨gate, hgate⟩ := Settings.exists_gate_iff.mpr (Settings.badPattern?_eq_none_iff.mp hs)
    obtain ⟨below, hbelow⟩ := ihc (s.resolve outer) hchildren
    obtain ⟨more, hmore⟩ := ihr outer hrest
    refine ⟨.node ⟨s.resolve outer, gate, s.continues⟩ below more, ?_⟩
    simp only [ofConfig, hgate, hbelow, hmore, Except.map, List.append_nil]

/-- Otherwise building fails at the first that does not, and this is all that is recorded. -/
theorem ofConfig_eq_of_badPattern? (h : c.badPattern? = some bad) :
    ofConfig outer c = ⟨.error bad, [.buildFailed bad.message]⟩ := by
  induction c generalizing outer with
  | nil => cases h
  | node s children rest ihc ihr =>
    rw [Config.badPattern?_node] at h
    cases hs : s.badPattern? with
    | some f =>
      rw [hs] at h
      cases h
      simp only [ofConfig, Settings.gate_eq_error_iff.mpr hs]
    | none =>
      obtain ⟨gate, hgate⟩ := Settings.exists_gate_iff.mpr (Settings.badPattern?_eq_none_iff.mp hs)
      rw [hs, Option.none_or] at h
      cases hchildren : Config.badPattern? children with
      | some f =>
        rw [hchildren] at h
        cases h
        simp only [ofConfig, hgate, ihc hchildren]
      | none =>
        rw [hchildren, Option.none_or] at h
        obtain ⟨below, hbelow⟩ := exists_ofConfig_eq (s.resolve outer) hchildren
        simp only [ofConfig, hgate, hbelow, ihr h, Except.map, List.nil_append]

theorem ofConfig_eq_error_iff :
    (ofConfig outer c).result = .error bad ↔ c.badPattern? = some bad := by
  cases h : c.badPattern? with
  | some f => rw [ofConfig_eq_of_badPattern? h, Except.error.injEq, Option.some_inj]
  | none =>
    obtain ⟨routes, hroutes⟩ := exists_ofConfig_eq outer h
    simp [hroutes]

/-- Building records its failure, and nothing else. -/
theorem log_ofConfig (outer : Policy) (c : Config) :
    (ofConfig outer c).log = match (ofConfig outer c).result with
      | .error e => [.buildFailed e.message]
      | .ok _ => [] := by
  cases h : c.badPattern? with
  | some bad => rw [ofConfig_eq_of_badPattern? h]
  | none =>
    obtain ⟨routes, hroutes⟩ := exists_ofConfig_eq outer h
    rw [hroutes]

end Routes

namespace Config

/-- A configuration that is checked first records its success, and nothing else. -/
theorem log_build (c : Config) :
    c.build.log = match c.build.result with
      | .error _ => []
      | .ok routes => [.built routes.length routes.depth] := by
  cases h : c.validate with
  | error e => simp [build, h]
  | ok u =>
    obtain ⟨routes, hbuild, hroutes⟩ := build_result_of_ok h
    have hlog := Routes.log_ofConfig .fallback c
    have hdepth := Routes.depth_of_ofConfig hroutes
    rw [hroutes] at hlog
    rw [hbuild]
    simp [build, h, hroutes, hlog, hdepth]

end Config

/-- Building fails if and only if some pattern does not compile between anchors, and then at the
first such pattern in the order of paths and, on one route, of names. The policy from outside has no
part in this. The failure is recorded once, as an error with the message of what is returned, and if
the routes are built, nothing is recorded. A configuration that is checked before it is built records
how many routes it has and how deep they are nested, or nothing if it is refused. -/
theorem Routes.ofConfig_fails_at_first_bad (c : Config) :
    (∀ outer, (∃ bad, (ofConfig outer c).result = .error bad) ↔
      ∃ s ∈ c, ∃ e ∈ s.patterns.entries, compile? (anchored e.2) = none) ∧
    (∀ outer bad, (ofConfig outer c).result = .error bad ↔ c.FirstBad bad) ∧
    (∀ outer, ((ofConfig outer c).log.map fun ev => (ev.level, ev.fields)) =
      match (ofConfig outer c).result with
      | .error bad => [(.error, [("error", bad.message)])]
      | .ok _ => []) ∧
    (c.build.log.map fun ev => (ev.level, ev.fields)) =
      match c.build.result with
      | .error _ => []
      | .ok routes =>
        [(.debug, [("routes", toString routes.length), ("depth", toString routes.depth)])] := by
  refine ⟨fun outer => ?_, fun outer bad => ?_, fun outer => ?_, ?_⟩
  · have hfail : (∃ bad, (ofConfig outer c).result = .error bad) ↔
        ¬ ∃ routes, (ofConfig outer c).result = .ok routes := by
      cases (ofConfig outer c).result <;> simp
    rw [hfail, exists_ofConfig_iff]
    simp only [Settings.exists_gate_iff]
    push Not
    rfl
  · rw [ofConfig_eq_error_iff, Config.badPattern?_eq_some_iff]
  · rw [log_ofConfig]
    cases (ofConfig outer c).result <;> rfl
  · rw [Config.log_build]
    cases c.build.result <;> rfl

end

attribute [local instance] Regex.SizeLimit.unlimited

/-- On one route the order of names counts, and a route comes before those inside it. -/
example : Config.badPattern?
    (.node { Settings.empty with patterns := .ofList [("zone", "("), ("app", ")"), ("team", "")] }
      (.node { Settings.empty with patterns := .ofList [("a", "*")] } .nil .nil) .nil) =
    some ⟨"app", ")"⟩ := by
  decide +kernel

end AlertRouting
