import AlertRouting.Regex.Matching
import AlertRouting.Regex.Reader

/-!
# Patterns

A pattern is compiled as the text between an anchored group: `^(?:` before it and `)$` after it. The
text is joined before it is read, so it is the joined text that has to be well-formed.
-/
namespace AlertRouting

/-- A bound on the size of compiled patterns. How large a pattern becomes is for the engine to say,
so the bound is given by the texts that are within it. -/
class Regex.SizeLimit where
  allows : String → Bool

namespace Regex.SizeLimit

@[reducible]
def unlimited : SizeLimit := ⟨fun _ => true⟩

end Regex.SizeLimit

def anchored (text : String) : String := "^(?:" ++ text ++ ")$"

/-- The expression of a text that is well-formed and within the limits. -/
def compile? [Regex.SizeLimit] (text : String) : Option Regex.Expr :=
  (Regex.read? text.toList).filter fun e =>
    e.height ≤ Regex.Expr.maxHeight && Regex.SizeLimit.allows text

theorem read?_of_compile? [Regex.SizeLimit] {text : String} {e : Regex.Expr}
    (h : compile? text = some e) : Regex.read? text.toList = some e :=
  (Option.filter_eq_some_iff.mp h).1

/-- A pattern, with the expression of its anchored text. -/
structure Pattern where
  text : String
  expr : Regex.Expr
  reads : Regex.read? (anchored text).toList = some expr
deriving DecidableEq

namespace Pattern

def ofText? [Regex.SizeLimit] (text : String) : Option Pattern :=
  match h : compile? (anchored text) with
  | some expr => some ⟨text, expr, read?_of_compile? h⟩
  | none => none

def isMatch (p : Pattern) (value : String) : Bool := p.expr.isMatch value

end Pattern

end AlertRouting
