import AlertRouting.Text.Quoted

/-!
# Layouts of values

A value is shown on one line or, with an indentation for every level, on many.
-/
namespace AlertRouting.Text

/-- Both ways to show a value; the second is told how deep the value stands. -/
structure Layout where
  inline : String
  indented : Nat → String

namespace Layout

def atom (text : String) : Layout := ⟨text, fun _ => text⟩

def quoted (text : String) : Layout := atom (quote text)

def bool (b : Bool) : Layout := atom (if b then "true" else "false")

def indentation (depth : Nat) : String := String.ofList (List.replicate (4 * depth) ' ')

def block (parts : List Layout) (depth : Nat) : String :=
  "\n" ++ String.join (parts.map fun p =>
    indentation (depth + 1) ++ p.indented (depth + 1) ++ ",\n") ++ indentation depth

def enclosed (left right : String) (items : List Layout) : Layout where
  inline := left ++ commas (items.map inline) ++ right
  indented depth := left ++ (if items.isEmpty then "" else block items depth) ++ right

def list (items : List Layout) : Layout := enclosed "[" "]" items

def set (items : List Layout) : Layout := enclosed "\x7b" "\x7d" items

def field (name : String) (value : Layout) : Layout :=
  ⟨name ++ ": " ++ value.inline, fun depth => name ++ ": " ++ value.indented depth⟩

def record (name : String) (fields : List Layout) : Layout where
  inline := name ++ " \x7b " ++ commas (fields.map inline) ++ " \x7d"
  indented depth := name ++ " \x7b" ++ block fields depth ++ "\x7d"

def pretty (l : Layout) : String := l.indented 0

end Layout

end AlertRouting.Text
