import AlertRouting.NameMap
import AlertRouting.Text.Quoted

/-!
# Labels

The labels of an alert are a map from label names to texts. A label that is absent reads as the
empty text wherever labels are matched.
-/
namespace AlertRouting

def isNameStart (c : Char) : Bool :=
  ('a' ≤ c && c ≤ 'z') || ('A' ≤ c && c ≤ 'Z') || c = '_'

def isNameRest (c : Char) : Bool := isNameStart c || ('0' ≤ c && c ≤ '9')

/-- A label name is an ASCII letter or underscore, then letters, digits and underscores. -/
def isLabelName (name : String) : Bool :=
  match name.toList with
  | [] => false
  | c :: rest => isNameStart c && rest.all isNameRest

abbrev Labels := NameMap String

namespace Labels

/-- The text of a name; a name that is absent reads as the empty text. -/
def valueOrEmpty (l : Labels) (name : String) : String := (l.get? name).getD ""

/-- The labels as shown: `service="api", severity="page"` between braces. -/
def text (l : Labels) : String :=
  Text.braces (l.entries.map fun e => e.1 ++ "=" ++ Text.quote e.2)

end Labels

abbrev NameSet := NameMap Unit

namespace NameSet

def ofNames (names : List String) : NameSet := NameMap.ofList (names.map fun n => (n, ()))

/-- The set as shown: quoted names between braces. -/
def text (s : NameSet) : String := Text.braces (s.names.map Text.quote)

end NameSet

end AlertRouting
