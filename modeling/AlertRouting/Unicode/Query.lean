import AlertRouting.Unicode.Age
import AlertRouting.Unicode.Segmentation

/-!
# Queries for a property by name
-/
namespace AlertRouting.Unicode

/-- Loose matching of names: only ASCII counts, case, blanks, underscores and hyphens do not, nor
does a leading "is", unless the name is "isc". -/
def loosen (name : String) : String :=
  let cs := name.toList
  let rest := match cs with
    | i :: s :: rest => if i.toLower = 'i' && s.toLower = 's' then some rest else none
    | _ => none
  let kept := ((rest.getD cs).filter fun c => c.toNat < 128 && c != ' ' && c != '_' && c != '-').map
    Char.toLower
  if rest.isSome && kept = ['c'] then "isc" else String.ofList kept

/-- What stands between the braces of a property query. -/
inductive Query
  | name (text : String)
  | value (property text : String)
deriving Repr, DecidableEq

/-- The code points that a query asks for. A name is a binary property, else a category, else a
script. -/
def Query.find? : Query → Option CharSet
  | .name text => let n := loosen text; binary? n <|> category? n <|> script? n
  | .value property text =>
    match loosen property with
    | "generalcategory" | "gc" => category? (loosen text)
    | "script" | "sc" => script? (loosen text)
    | "scriptextensions" | "scx" => scriptExtension? (loosen text)
    | "age" => age? (loosen text)
    | "graphemeclusterbreak" | "gcb" => graphemeBreak? (loosen text)
    | "wordbreak" | "wb" => wordBreak? (loosen text)
    | "sentencebreak" | "sb" => sentenceBreak? (loosen text)
    | _ => none

end AlertRouting.Unicode
