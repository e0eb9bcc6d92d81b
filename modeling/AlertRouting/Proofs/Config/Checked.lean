import AlertRouting.Proofs.Config.Validity
import AlertRouting.Proofs.Routing.Building
import AlertRouting.Proofs.Routing.Gates

/-!
# Checked configurations can be built

Checking and building go through a configuration apart from each other. Building asks less: it fails
only at a pattern that does not compile, and checking has found every such pattern before.
-/
namespace AlertRouting

theorem Settings.Valid.exists_gate [Regex.SizeLimit] {s : Settings} (h : s.Valid) :
    ∃ gate, s.gate = .ok gate :=
  Settings.exists_gate_iff.mpr h.compiles

/-- Valid routes are built, whatever the policy from outside. -/
theorem Routes.exists_ofConfig_of_valid [Regex.SizeLimit] {c : Config} (outer : Policy)
    (h : ∀ s ∈ c, s.Valid) :
    ∃ routes, (ofConfig outer c).result = .ok routes :=
  exists_ofConfig_iff.mpr fun s hs => (h s hs).exists_gate

namespace Config

section

variable [Regex.SizeLimit]

/-- Checking never reports a failure of building. -/
theorem validate_ne_build (c : Config) (e : BadPattern) : c.validate ≠ .error (.build e) := by
  intro h
  rw [validate_eq] at h
  split_ifs at h
  · cases h
  · obtain ⟨n, -, hn⟩ := List.mem_flatMap.mp (mem_of_reportFirst h)
    cases Settings.place?_of_mem_violations hn

theorem build_result_of_error {c : Config} {e : ConfigError} (h : c.validate = .error e) :
    c.build.result = .error e := by
  simp [build, h]

/-- Once a configuration has been checked, building is all that is left to do. -/
theorem build_result_of_ok {c : Config} (h : c.validate = .ok ()) :
    ∃ routes, c.build.result = .ok routes ∧ (Routes.ofConfig .fallback c).result = .ok routes := by
  obtain ⟨routes, hroutes⟩ :=
    Routes.exists_ofConfig_of_valid .fallback (validate_eq_ok_iff.mp h).2
  exact ⟨routes, by simp [build, h, hroutes], hroutes⟩

theorem build_result_eq_ok_iff {c : Config} {routes : Routes} :
    c.build.result = .ok routes ↔
      c.validate = .ok () ∧ (Routes.ofConfig .fallback c).result = .ok routes := by
  cases h : c.validate with
  | error e => simp [build_result_of_error h]
  | ok u =>
    obtain ⟨routes', hbuild, hroutes⟩ := build_result_of_ok h
    simp [hbuild, hroutes]

theorem build_result_eq_error_iff {c : Config} {e : ConfigError} :
    c.build.result = .error e ↔ c.validate = .error e := by
  cases h : c.validate with
  | error f => simp [build_result_of_error h]
  | ok u =>
    obtain ⟨routes, hbuild, -⟩ := build_result_of_ok h
    simp [hbuild]

/-- Building a configuration fails exactly when checking it does, and with the same error, so it
never fails of itself. A route that passes on its own is built inside any other. -/
theorem build_fails_iff_validate_fails :
    (∀ c : Config, ((∃ routes, c.build.result = .ok routes) ↔ c.validate = .ok ()) ∧
      (∀ e, c.build.result = .error e ↔ c.validate = .error e) ∧
      ∀ e, c.build.result ≠ .error (.build e)) ∧
    ∀ (s : Settings) (inner : Config) (outer : Policy), s.validate inner = .ok () →
      ∃ r below, (Routes.ofConfig outer (.node s inner .nil)).result = .ok (.node r below .nil) := by
  refine ⟨fun c => ⟨⟨?_, ?_⟩, fun e => build_result_eq_error_iff, fun e h => ?_⟩, ?_⟩
  · rintro ⟨routes, h⟩
    exact (build_result_eq_ok_iff.mp h).1
  · intro h
    obtain ⟨routes, hbuild, -⟩ := build_result_of_ok h
    exact ⟨routes, hbuild⟩
  · exact c.validate_ne_build e (build_result_eq_error_iff.mp h)
  · intro s inner outer h
    obtain ⟨-, hs, hinner⟩ := Settings.validate_eq_ok_iff.mp h
    have hvalid : ∀ t ∈ (Forest.node s inner .nil : Config), t.Valid :=
      Forest.forall_mem_node_iff.mpr ⟨hs, hinner, by simp⟩
    obtain ⟨routes, hroutes⟩ := Routes.exists_ofConfig_of_valid outer hvalid
    obtain ⟨gate, below, more, -, -, hmore, rfl⟩ := Routes.ofConfig_node_eq_ok_iff.mp hroutes
    obtain rfl := Routes.ofConfig_nil_eq_ok_iff.mp hmore
    exact ⟨_, below, hroutes⟩

end

attribute [local instance] Regex.SizeLimit.unlimited

def zoneSettings : Settings :=
  { Settings.empty with groupBy := ["zone"], patterns := .ofList [("zone", "a|b")] }

/-- Two such routes, one inside the other, pass and are built. -/
theorem build_fails_iff_validate_fails_zone :
    zoneSettings.validate (.node zoneSettings .nil .nil) = .ok () ∧ ∃ r below,
      (Routes.ofConfig .fallback (.node zoneSettings (.node zoneSettings .nil .nil) .nil)).result =
        .ok (.node r below .nil) := by
  have hvalid : zoneSettings.validate (.node zoneSettings .nil .nil) = .ok () := by
    decide +kernel
  exact ⟨hvalid, build_fails_iff_validate_fails.2 _ _ .fallback hvalid⟩

end Config

end AlertRouting
