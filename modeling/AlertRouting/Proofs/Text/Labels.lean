import AlertRouting.Proofs.Routing.Outline

/-!
# The texts of labels and gates

Labels are shown as the matchers that ask for their texts, so they can be told from what is shown as
a gate can. A value may have any characters in it, but a name has to be a label name: another could
hold a whole matcher with the comma behind it.
-/
namespace AlertRouting

theorem Matcher.eq_iff_written {m n : Matcher} : m = n ↔
    m.name = n.name ∧ m.isRegex = n.isRegex ∧ m.condition.written = n.condition.written := by
  rw [← written_injective.eq_iff, written, written, Prod.mk.injEq, Prod.mk.injEq]

/-- Gates are the same if the same is written for them in every place. -/
theorem Gate.eq_iff_written {g g' : Gate} : g = g' ↔
    g.length = g'.length ∧ ∀ i (hi : i < g.length) (hi' : i < g'.length),
      g[i].name = g'[i].name ∧ g[i].isRegex = g'[i].isRegex ∧
        g[i].condition.written = g'[i].condition.written := by
  simp only [List.ext_getElem_iff, Matcher.eq_iff_written]

namespace Labels

variable {l l' : Labels}

def asked (l : Labels) : Gate := l.entries.map fun e => Matcher.exact e.1 e.2

theorem text_asked (l : Labels) : l.asked.text = l.text := by
  rw [Gate.text, asked, List.map_map]
  rfl

theorem asked_injective : Function.Injective asked := by
  have hexact : Function.Injective fun e : String × String => Matcher.exact e.1 e.2 := by
    rintro ⟨name, value⟩ ⟨name', value'⟩ h
    cases h
    rfl
  exact fun _ _ h => NameMap.ext_entries (List.map_injective_iff.mpr hexact h)

theorem named_asked (h : ∀ n ∈ l.names, isLabelName n) : ∀ m ∈ l.asked, m ∈ Matcher.named :=
  List.forall_mem_map.mpr fun _ he => h _ (List.mem_map_of_mem he)

theorem text_eq_iff (hl : ∀ n ∈ l.names, isLabelName n) (hl' : ∀ n ∈ l'.names, isLabelName n) :
    l.text = l'.text ↔ l = l' := by
  rw [← text_asked, ← text_asked, Gate.text_eq_iff (named_asked hl) (named_asked hl'),
    asked_injective.eq_iff]

end Labels

/-- Labels with label names are shown the same if and only if they are the same. Gates that ask for
label names are shown the same if and only if they have as many matchers, and in every place the same
name, the same kind and the same text. The routes of a checked configuration have only such gates. -/
theorem texts_determine_labels_and_gates [Regex.SizeLimit] :
    (∀ l l' : Labels, (∀ n ∈ l.names, isLabelName n) → (∀ n ∈ l'.names, isLabelName n) →
      (l.text = l'.text ↔ l = l')) ∧
    (∀ g g' : Gate, (∀ m ∈ g, isLabelName m.name) → (∀ m ∈ g', isLabelName m.name) →
      (g.text = g'.text ↔
        g.length = g'.length ∧ ∀ i (hi : i < g.length) (hi' : i < g'.length),
          g[i].name = g'[i].name ∧ g[i].isRegex = g'[i].isRegex ∧
            g[i].condition.written = g'[i].condition.written)) ∧
    ∀ (c : Config) (outer : Policy) (routes : Routes), c.validate = .ok () →
      (Routes.ofConfig outer c).result = .ok routes →
      ∀ r ∈ routes, ∀ m ∈ r.gate, isLabelName m.name := by
  refine ⟨fun l l' hl hl' => Labels.text_eq_iff hl hl', fun g g' hg hg' => ?_, ?_⟩
  · rw [Gate.text_eq_iff hg hg', Gate.eq_iff_written]
  · intro c outer routes hvalidate hroutes
    exact Routes.named_of_ofConfig (Config.validate_eq_ok_iff.mp hvalidate).2 hroutes

attribute [local instance] Regex.SizeLimit.unlimited

/-- A route that asks for an app whose text looks as if a pattern came behind it, and a route that has
the pattern. -/
def lookalikeConfig : Config :=
  .node { Settings.empty with exact := .ofList [("app", "a\", zone=~\"eu")] } .nil
    (.node { Settings.empty with
      exact := .ofList [("app", "a")], patterns := .ofList [("zone", "eu")] } .nil .nil)

/-- The gates of the two routes are shown in two ways, and so are labels that look alike. -/
theorem texts_determine_labels_and_gates_lookalike :
    ∃ routes r r', lookalikeConfig.validate = .ok () ∧
      (Routes.ofConfig .fallback lookalikeConfig).result = .ok routes ∧
      r ∈ routes ∧ r' ∈ routes ∧
      r.gate.map Matcher.written = [("app", false, "a\", zone=~\"eu")] ∧
      r'.gate.map Matcher.written = [("app", false, "a"), ("zone", true, "eu")] ∧
      r.gate.text ≠ r'.gate.text ∧
      Labels.text (.ofList [("app", "a\", zone=\"eu")]) ≠
        Labels.text (.ofList [("app", "a"), ("zone", "eu")]) := by
  have hvalidate : lookalikeConfig.validate = .ok () := by decide +kernel
  obtain ⟨routes, -, hroutes⟩ := Config.build_result_of_ok hvalidate
  have hfirst : lookalikeConfig.get? [0] = some (_, .nil) := rfl
  have hsecond : lookalikeConfig.get? [1] = some (_, .nil) := rfl
  obtain ⟨r, _, hget, hgate, -⟩ := Routes.exists_get?_of_ofConfig hroutes hfirst
  obtain ⟨r', _, hget', hgate', -⟩ := Routes.exists_get?_of_ofConfig hroutes hsecond
  have hr : r ∈ routes := Forest.mem_of_get? hget
  have hr' : r' ∈ routes := Forest.mem_of_get? hget'
  have hone : r.gate.map Matcher.written = [("app", false, "a\", zone=~\"eu")] :=
    Settings.map_written_gate hgate
  have htwo : r'.gate.map Matcher.written = [("app", false, "a"), ("zone", true, "eu")] :=
    Settings.map_written_gate hgate'
  obtain ⟨hlabels, hgates, hnamed⟩ := texts_determine_labels_and_gates
  have hnames := hnamed lookalikeConfig .fallback routes hvalidate hroutes
  refine ⟨routes, r, r', hvalidate, hroutes, hr, hr', hone, htwo, fun htext => ?_, fun htext => ?_⟩
  · have hlength := ((hgates r.gate r'.gate (hnames r hr) (hnames r' hr')).mp htext).1
    rw [← List.length_map Matcher.written, hone, ← List.length_map Matcher.written, htwo] at hlength
    cases hlength
  · exact absurd ((hlabels _ _ (by decide) (by decide)).mp htext) (by decide)

/-- A name that is no label name can look like a label with the comma behind it. -/
example : Labels.text (.ofList [("app=\"a\", zone", "eu")]) =
    Labels.text (.ofList [("app", "a"), ("zone", "eu")]) := by decide

end AlertRouting
