import AlertRouting.Fixture
import AlertRouting.Proofs.NameMap.Names
import Mathlib.Data.List.Forall2

/-!
# Verdicts

A fixture holds if its configuration is refused as it should be, or if it is built as it should be and
every case has the targets that it must have. The verdict says so, and if the fixture does not hold,
it names the first case to blame, or the error of the configuration, or that there is none.
-/
namespace AlertRouting

namespace TestCase

variable {c : TestCase} {routes : Routes}

def alert (c : TestCase) : Labels := .ofList c.labels.entries

/-- Does the alert have the targets that it must have, in order and no others? -/
def Holds (c : TestCase) (routes : Routes) : Prop :=
  c.expected = (routes.matches c.alert).map Policy.target

structure ResultIs (c : TestCase) (routes : Routes) (r : CaseResult) : Prop where
  name : r.name = c.name
  expected : r.expected = c.expected
  actual : r.actual = (routes.matches c.alert).map Policy.target
  passed : r.passed ↔ c.expected = (routes.matches c.alert).map Policy.target

instance : Decidable (c.Holds routes) := inferInstanceAs (Decidable (_ = _))

theorem alert_eq (c : TestCase) : c.alert = c.labels :=
  NameMap.ofList_of_perm (.refl _)

theorem run_eq (c : TestCase) (routes : Routes) :
    c.run routes = ⟨c.name, c.expected, (routes.matches c.alert).map Policy.target⟩ := by
  rw [alert_eq]
  rfl

theorem passed_run : (c.run routes).passed = decide (c.Holds routes) := by
  rw [run_eq]
  rfl

theorem resultIs_iff {r : CaseResult} : c.ResultIs routes r ↔ c.run routes = r := by
  constructor
  · rintro ⟨hname, hexpected, hactual, -⟩
    rw [run_eq, ← hname, ← hexpected, ← hactual]
  · rintro rfl
    have hpassed : (c.run routes).passed ↔ c.Holds routes := by rw [passed_run, decide_eq_true_iff]
    rw [run_eq] at hpassed ⊢
    exact ⟨rfl, rfl, rfl, hpassed⟩

end TestCase

namespace Fixture

theorem message_failedCase (name : String) (c : TestCase) (routes : Routes) :
    (FixtureFault.failedCase (c.run routes)).message name =
      "Fixture '" ++ name ++ "' case '" ++ c.name ++ "' failed: expected " ++
        Text.brackets (c.expected.map Text.quote) ++ ", got " ++
        Text.brackets (((routes.matches c.alert).map Policy.target).map Text.quote) := by
  rw [TestCase.run_eq]
  rfl

variable [Regex.SizeLimit] {f : Fixture} {routes : Routes} {e : ConfigError}

inductive FailsWith (f : Fixture) : String → Prop
  | failedCase {routes : Routes} {before after : List TestCase} {c : TestCase}
      (hasked : f.expectsError = false) (hbuild : f.config.build.result = .ok routes)
      (hcases : f.cases = before ++ c :: after) (hbefore : ∀ d ∈ before, d.Holds routes)
      (hcase : ¬ c.Holds routes) :
      FailsWith f ("Fixture '" ++ f.name ++ "' case '" ++ c.name ++ "' failed: expected " ++
        Text.brackets (c.expected.map Text.quote) ++ ", got " ++
        Text.brackets (((routes.matches c.alert).map Policy.target).map Text.quote))
  | missingError {routes : Routes} (hasked : f.expectsError = true)
      (hbuild : f.config.build.result = .ok routes) :
      FailsWith f ("Fixture '" ++ f.name ++ "' expected a config error")
  | refused {e : ConfigError} (hasked : f.expectsError = false)
      (hbuild : f.config.build.result = .error e) :
      FailsWith f ("Fixture '" ++ f.name ++ "' config failed: " ++ e.message)

theorem run_of_error (h : f.config.build.result = .error e) : f.run = .error e := by
  rw [run, h]
  rfl

theorem run_of_ok (h : f.config.build.result = .ok routes) :
    f.run = .ok (f.cases.map (·.run routes)) := by
  rw [run, h]
  rfl

theorem run_eq_error_iff : f.run = .error e ↔ f.config.build.result = .error e := by
  cases hbuild : f.config.build.result with
  | error e' => rw [run_of_error hbuild]; simp
  | ok routes => rw [run_of_ok hbuild]; simp

/-- A fixture whose configuration is built has one result for each case, in order. -/
theorem run_eq_ok_iff {results : List CaseResult} : f.run = .ok results ↔
    ∃ routes, f.config.build.result = .ok routes ∧
      List.Forall₂ (fun c r => c.ResultIs routes r) f.cases results := by
  cases hbuild : f.config.build.result with
  | error e => rw [run_of_error hbuild]; simp
  | ok routes =>
    simp only [run_of_ok hbuild, Except.ok.injEq, exists_eq_left', TestCase.resultIs_iff]
    rw [← List.forall₂_map_left_iff (f := fun c : TestCase => c.run routes), List.forall₂_eq_eq_eq]

theorem verdict_of_error (h : f.config.build.result = .error e) :
    f.verdict = if f.expectsError then .ok () else .error (.refused e) := by
  rw [verdict, run_of_error h]
  cases f.expectsError <;> rfl

/-- The verdict on routes that are built is about the first case that does not hold. -/
theorem verdict_of_ok (h : f.config.build.result = .ok routes) :
    f.verdict = if f.expectsError then .error .missingError
      else match f.cases.find? fun c => !decide (c.Holds routes) with
        | some c => .error (.failedCase (c.run routes))
        | none => .ok () := by
  rw [verdict, run_of_ok h]
  cases f.expectsError with
  | true => rfl
  | false =>
    simp only [List.find?_map, Function.comp_def, TestCase.passed_run]
    cases f.cases.find? fun c => !decide (c.Holds routes) <;> rfl

/-- A fixture holds if its configuration is built as it should be and all cases pass, or is refused
as it should be. -/
theorem verdict_eq_ok_iff : f.verdict = .ok () ↔
    (f.expectsError = false ∧ ∃ results, f.run = .ok results ∧ ∀ r ∈ results, r.passed) ∨
    (f.expectsError = true ∧ ∃ e, f.config.build.result = .error e) := by
  cases hbuild : f.config.build.result with
  | error e =>
    rw [verdict_of_error hbuild, run_of_error hbuild]
    cases f.expectsError <;> simp
  | ok routes =>
    have hpass : (∀ r ∈ f.cases.map (·.run routes), r.passed) ↔
        f.cases.find? (fun c => !decide (c.Holds routes)) = none := by
      simp [TestCase.passed_run]
    rw [verdict_of_ok hbuild, run_of_ok hbuild]
    simp only [Except.ok.injEq, exists_eq_left', hpass]
    cases f.expectsError <;> cases f.cases.find? fun c => !decide (c.Holds routes) <;> simp

/-- A fixture fails with the text of its first fault. -/
theorem exists_verdict_eq_error_iff {text : String} :
    (∃ fault, f.verdict = .error fault ∧ fault.message f.name = text) ↔ f.FailsWith text := by
  constructor
  · rintro ⟨fault, hverdict, rfl⟩
    cases hbuild : f.config.build.result with
    | error e =>
      cases hasked : f.expectsError <;> rw [verdict_of_error hbuild, hasked] at hverdict
      · cases hverdict
        exact .refused hasked hbuild
      · cases hverdict
    | ok routes =>
      cases hasked : f.expectsError <;> rw [verdict_of_ok hbuild, hasked] at hverdict
      · cases hfind : f.cases.find? fun c => !decide (c.Holds routes) with
        | none => simp [hfind] at hverdict
        | some c =>
          simp only [hfind] at hverdict
          cases hverdict
          obtain ⟨hcase, before, after, hcases, hbefore⟩ := List.find?_eq_some_iff_append.mp hfind
          rw [message_failedCase]
          exact .failedCase hasked hbuild hcases (fun d hd => by simpa using hbefore d hd)
            (by simpa using hcase)
      · cases hverdict
        exact .missingError hasked hbuild
  · intro h
    cases h with
    | @failedCase routes before after c hasked hbuild hcases hbefore hcase =>
      have hfind : f.cases.find? (fun c => !decide (c.Holds routes)) = some c :=
        List.find?_eq_some_iff_append.mpr
          ⟨by simpa using hcase, before, after, hcases, fun d hd => by simpa using hbefore d hd⟩
      refine ⟨_, ?_, message_failedCase f.name c routes⟩
      simp [verdict_of_ok hbuild, hasked, hfind]
    | missingError hasked hbuild =>
      exact ⟨.missingError, by simp [verdict_of_ok hbuild, hasked], rfl⟩
    | refused hasked hbuild => exact ⟨.refused _, by simp [verdict_of_error hbuild, hasked], rfl⟩

/-- Running a fixture gives the error of its configuration, or one result for each case, in order,
with the targets of its alert; a case passes if these are the targets that it must have. The fixture
holds if all cases pass, or if its configuration is refused as it should be. Otherwise the text of its
failure names the first case that does not pass, with both lists of targets, or tells of the error of
the configuration or that there is none. -/
theorem verdict_names_first_fault (f : Fixture) :
    (∀ e, f.run = .error e ↔ f.config.build.result = .error e) ∧
    (∀ results, f.run = .ok results ↔ ∃ routes, f.config.build.result = .ok routes ∧
      List.Forall₂ (fun c r => c.ResultIs routes r) f.cases results) ∧
    (f.verdict = .ok () ↔
      (f.expectsError = false ∧ ∃ results, f.run = .ok results ∧ ∀ r ∈ results, r.passed) ∨
      (f.expectsError = true ∧ ∃ e, f.config.build.result = .error e)) ∧
    ∀ text, (∃ fault, f.verdict = .error fault ∧ fault.message f.name = text) ↔
      f.FailsWith text :=
  ⟨fun _ => run_eq_error_iff, fun _ => run_eq_ok_iff, verdict_eq_ok_iff,
    fun _ => exists_verdict_eq_error_iff⟩

end Fixture

end AlertRouting
