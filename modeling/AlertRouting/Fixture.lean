import AlertRouting.Config.Reading
import AlertRouting.Route.Build
import AlertRouting.Route.Matching

/-!
# Fixtures

A fixture is a configuration with alerts to try on it, and the targets that each of them must have, in
order. A fixture may also ask that its configuration is refused.
-/
namespace AlertRouting

open Yaml (Decode Document Node)

structure TestCase where
  name : String
  labels : Labels
  expected : List String
deriving DecidableEq

structure Fixture where
  name : String
  description : String
  config : Config
  cases : List TestCase
  /-- Must the configuration be refused? -/
  expectsError : Bool
deriving DecidableEq

structure CaseResult where
  name : String
  expected : List String
  actual : List String
deriving DecidableEq, Repr

def CaseResult.passed (r : CaseResult) : Bool := r.expected = r.actual

inductive FixtureFault
  | failedCase (r : CaseResult)
  | missingError
  | refused (e : ConfigError)
deriving DecidableEq, Repr

def FixtureFault.message (fixture : String) : FixtureFault → String
  | failedCase r =>
    "Fixture '" ++ fixture ++ "' case '" ++ r.name ++ "' failed: expected "
      ++ Text.brackets (r.expected.map Text.quote) ++ ", got "
      ++ Text.brackets (r.actual.map Text.quote)
  | missingError => "Fixture '" ++ fixture ++ "' expected a config error"
  | refused e => "Fixture '" ++ fixture ++ "' config failed: " ++ e.message

def TestCase.run (c : TestCase) (routes : Routes) : CaseResult :=
  ⟨c.name, c.expected, routes.targets c.labels⟩

namespace Fixture

def run [Regex.SizeLimit] (f : Fixture) : Except ConfigError (List CaseResult) :=
  f.config.build.result.map fun routes => f.cases.map (·.run routes)

/-- Does the fixture hold? If not, the first fault is reported. -/
def verdict [Regex.SizeLimit] (f : Fixture) : Except FixtureFault Unit :=
  match f.run, f.expectsError with
  | .ok results, false =>
    match results.find? (!·.passed) with
    | some r => .error (.failedCase r)
    | none => .ok ()
  | .error _, true => .ok ()
  | .ok _, true => .error .missingError
  | .error e, false => .error (.refused e)

end Fixture

/-- Reads a case. Other fields than its own are passed over. -/
def TestCase.ofYamlNode (d : Document) (depth : Nat) (n : Node) : Decode TestCase :=
  match depth with
  | 0 => failure
  | depth + 1 => do
    let fields ← Yaml.fields d n
    return {
      name := ← Yaml.required fields "name" (Yaml.text d)
      labels := ← Yaml.withDefault fields "labels" ∅ (Yaml.labels d depth)
      expected := ← Yaml.required fields "expect" (Yaml.texts d depth) }

namespace Fixture

/-- Reads a fixture. Other fields than its own are passed over. -/
def ofYamlNode (d : Document) (depth : Nat) (n : Node) : Decode Fixture :=
  match depth with
  | 0 => failure
  | depth + 1 => do
    let fields ← Yaml.fields d n
    return {
      name := ← Yaml.required fields "name" (Yaml.text d)
      description := ← Yaml.withDefault fields "description" "" (Yaml.text d)
      config := ← Yaml.required fields "config" (Config.ofYamlNode d depth)
      cases := ← Yaml.withDefault fields "cases" [] fun n =>
        Yaml.deeper d depth n [] fun depth => do
          (← Yaml.items d n).mapM (TestCase.ofYamlNode d depth)
      expectsError := ← Yaml.withDefault fields "expect_error" false (Yaml.bool d) }

def ofDocument? (d : Document) : Option Fixture := d.read? (ofYamlNode d Yaml.maxNesting)

/-- Reads the fixtures of a text, one of every document. -/
def listOfYaml? (text : String) : Option (List Fixture) :=
  match Yaml.documents? text with
  | some (d :: rest) => (d :: rest).mapM ofDocument?
  | _ => none

def ofYaml? (text : String) : Option Fixture :=
  match listOfYaml? text with
  | some [f] => some f
  | _ => none

end Fixture

end AlertRouting
