import AlertRouting.Labels
import AlertRouting.Pattern

/-!
# Matchers

A matcher tests the text of one label. A route is entered only if all of its matchers hold.
-/
namespace AlertRouting

inductive Condition
  | equals (value : String)
  | matching (pattern : Pattern)
deriving DecidableEq

def Condition.holds (c : Condition) (value : String) : Bool :=
  match c with
  | equals expected => value = expected
  | matching pattern => pattern.isMatch value

structure Matcher where
  name : String
  condition : Condition
deriving DecidableEq

structure BadPattern where
  label : String
  pattern : String
deriving DecidableEq, Repr

/-- Stands for the description of a fault that is found while a pattern or document is read. -/
def reason : String := "<reason>"

def BadPattern.message (e : BadPattern) : String :=
  "invalid regex for label \"" ++ e.label ++ "\" (\"" ++ e.pattern ++ "\"): " ++ reason

namespace Matcher

def exact (name value : String) : Matcher := ⟨name, .equals value⟩

def regex [Regex.SizeLimit] (name pattern : String) : Except BadPattern Matcher :=
  match Pattern.ofText? pattern with
  | some p => .ok ⟨name, .matching p⟩
  | none => .error ⟨name, pattern⟩

def isRegex (m : Matcher) : Bool := m.condition matches .matching _

def holds (m : Matcher) (labels : Labels) : Bool := m.condition.holds (labels.valueOrEmpty m.name)

/-- The matcher as shown: `name="value"` or `name=~"pattern"`. -/
def text (m : Matcher) : String :=
  match m.condition with
  | .equals value => m.name ++ "=" ++ Text.quote value
  | .matching pattern => m.name ++ "=~" ++ Text.quote pattern.text

end Matcher

/-- The matchers of a route, in the order in which they are tested. -/
abbrev Gate := List Matcher

namespace Gate

def holds (g : Gate) (labels : Labels) : Bool := g.all fun m => m.holds labels

def text (g : Gate) : String := Text.braces (g.map Matcher.text)

end Gate

end AlertRouting
