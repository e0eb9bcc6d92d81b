import AlertRouting.Proofs.Pattern.Anchors
import AlertRouting.Route.Build

/-!
# The gate of a route

The gate of a route can be made if and only if its patterns compile. It holds if and only if the
labels have the texts that are written for the route and match its patterns.
-/
namespace AlertRouting

/-- The labels have all the texts that are asked for, and match all the patterns. -/
structure Settings.Admits [Regex.SizeLimit] (s : Settings) (labels : Labels) : Prop where
  exact : ∀ e ∈ s.exact.entries, labels.valueOrEmpty e.1 = e.2
  patterns : ∀ e ∈ s.patterns.entries, ∃ expr, compile? (anchored e.2) = some expr ∧
    expr.isMatch (labels.valueOrEmpty e.1) = true

namespace Settings

variable [Regex.SizeLimit] {e : String × String} {entries : List (String × String)} {g : Gate}
  {labels : Labels}

theorem patternMatchers_cons_eq_ok_iff : patternMatchers (e :: entries) = .ok g ↔
    ∃ m more, Matcher.regex e.1 e.2 = .ok m ∧ patternMatchers entries = .ok more ∧
      g = m :: more := by
  rw [patternMatchers]
  cases hm : Matcher.regex e.1 e.2 with
  | error f => simp [bind, Except.bind]
  | ok m =>
    cases hmore : patternMatchers entries with
    | error f => simp [bind, Except.bind]
    | ok more => simp [bind, Except.bind, eq_comm]

theorem exists_patternMatchers_iff : (∃ g, patternMatchers entries = .ok g) ↔
    ∀ e ∈ entries, compile? (anchored e.2) ≠ none := by
  induction entries with
  | nil => simp [patternMatchers]
  | cons e entries ih =>
    rw [List.forall_mem_cons, ← ih, ← Matcher.exists_regex_iff e.1]
    simp only [patternMatchers_cons_eq_ok_iff]
    constructor
    · rintro ⟨g, m, more, hm, hmore, rfl⟩
      exact ⟨⟨m, hm⟩, ⟨more, hmore⟩⟩
    · rintro ⟨⟨m, hm⟩, ⟨more, hmore⟩⟩
      exact ⟨m :: more, m, more, hm, hmore, rfl⟩

theorem patternMatchers_holds_iff (h : patternMatchers entries = .ok g) :
    g.holds labels = true ↔ ∀ e ∈ entries, ∃ expr, compile? (anchored e.2) = some expr ∧
      expr.isMatch (labels.valueOrEmpty e.1) = true := by
  induction entries generalizing g with
  | nil => cases h; simp [Gate.holds]
  | cons e entries ih =>
    obtain ⟨m, more, hm, hmore, rfl⟩ := patternMatchers_cons_eq_ok_iff.mp h
    rw [List.forall_mem_cons, ← ih hmore, ← Matcher.holds_of_regex hm]
    simp [Gate.holds]

theorem gate_eq_ok_iff {s : Settings} : s.gate = .ok g ↔
    ∃ more, patternMatchers s.patterns.entries = .ok more ∧
      g = (s.exact.entries.map fun e => Matcher.exact e.1 e.2) ++ more := by
  unfold gate
  cases patternMatchers s.patterns.entries with
  | error f => simp [Except.map]
  | ok more => simp [Except.map, eq_comm]

/-- The gate of a route can be made if and only if its patterns compile between anchors. -/
theorem exists_gate_iff {s : Settings} :
    (∃ g, s.gate = .ok g) ↔ ∀ e ∈ s.patterns.entries, compile? (anchored e.2) ≠ none := by
  rw [← exists_patternMatchers_iff]
  constructor
  · rintro ⟨g, hg⟩
    obtain ⟨more, hmore, -⟩ := gate_eq_ok_iff.mp hg
    exact ⟨more, hmore⟩
  · rintro ⟨more, hmore⟩
    exact ⟨_, gate_eq_ok_iff.mpr ⟨more, hmore, rfl⟩⟩

/-- The gate of a route asks what is written for the route. -/
theorem gate_holds_iff {s : Settings} (h : s.gate = .ok g) :
    g.holds labels = true ↔ s.Admits labels := by
  obtain ⟨more, hmore, rfl⟩ := gate_eq_ok_iff.mp h
  have hexact : Gate.holds (s.exact.entries.map fun e => Matcher.exact e.1 e.2) labels = true ↔
      ∀ e ∈ s.exact.entries, labels.valueOrEmpty e.1 = e.2 := by
    simp [Gate.holds, Matcher.holds, Matcher.exact, Condition.holds]
  have happend : Gate.holds ((s.exact.entries.map fun e => Matcher.exact e.1 e.2) ++ more) labels =
      (Gate.holds (s.exact.entries.map fun e => Matcher.exact e.1 e.2) labels &&
        Gate.holds more labels) := List.all_append
  rw [happend, Bool.and_eq_true, hexact, patternMatchers_holds_iff hmore]
  exact ⟨fun h => ⟨h.1, h.2⟩, fun h => ⟨h.exact, h.patterns⟩⟩

end Settings

end AlertRouting
