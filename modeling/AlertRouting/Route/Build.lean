import AlertRouting.Route.Basic

/-!
# Building routes from a configuration

Routes are built from the outside in, so that a route finds the complete policy of the route around
it. Building fails at the first pattern that does not compile.
-/
namespace AlertRouting

namespace Settings

/-- The policy of a route inside one with the policy `outer`. -/
def resolve (s : Settings) (outer : Policy) : Policy where
  target := match s.sendTo with
    | some t => if t = "" then outer.target else t
    | none => outer.target
  sendResolved := s.sendResolved.getD outer.sendResolved
  groupBy := .ofNames s.groupBy
  groupWait := s.groupWait.getD outer.groupWait
  groupInterval := s.groupInterval.getD outer.groupInterval
  repeatInterval := s.repeatInterval.getD outer.repeatInterval

def patternMatchers [Regex.SizeLimit] : List (String × String) → Except BadPattern Gate
  | [] => .ok []
  | e :: rest => do
    let m ← Matcher.regex e.1 e.2
    let more ← patternMatchers rest
    .ok (m :: more)

/-- The matchers of a route: exact texts by label name, then patterns by label name. -/
def gate [Regex.SizeLimit] (s : Settings) : Except BadPattern Gate :=
  (patternMatchers s.patterns.entries).map fun more =>
    (s.exact.entries.map fun e => Matcher.exact e.1 e.2) ++ more

end Settings

namespace Routes

/-- Builds the routes of a level inside a route with the policy `outer`. -/
def ofConfig [Regex.SizeLimit] (outer : Policy) : Config → Logged (Except BadPattern Routes)
  | .nil => ⟨.ok .nil, []⟩
  | .node s children rest =>
    match s.gate with
    | .error e => ⟨.error e, [.buildFailed e.message]⟩
    | .ok gate =>
      let policy := s.resolve outer
      let inner := ofConfig policy children
      match inner.result with
      | .error e => ⟨.error e, inner.log⟩
      | .ok below =>
        let later := ofConfig outer rest
        ⟨later.result.map fun more => .node ⟨policy, gate, s.continues⟩ below more,
          inner.log ++ later.log⟩

end Routes

namespace Config

def build [Regex.SizeLimit] (c : Config) : Logged (Except ConfigError Routes) :=
  match c.validate with
  | .error e => ⟨.error e, []⟩
  | .ok () =>
    let built := Routes.ofConfig .fallback c
    match built.result with
    | .error e => ⟨.error (.build e), built.log⟩
    | .ok routes => ⟨.ok routes, built.log ++ [.built routes.length c.depth]⟩

end Config

end AlertRouting
