import AlertRouting.Text.Basic
import AlertRouting.Unicode.Property

/-!
# Quoted text

A text is shown between double quotes. A quote and a backslash are escaped by a backslash, the usual
control characters have a letter, and any other character that has no glyph of its own is written by
its code point in hexadecimal.
-/
namespace AlertRouting.Text

/-- The characters with a glyph: letters, numbers, punctuation, symbols, spacing marks and the blank,
but not those that extend another character or are ignorable. -/
def graphic : CharSet :=
  ((Unicode.categories ["Lu", "Ll", "Lt", "Lm", "Lo", "Mn", "Mc", "Me", "Nd", "Nl", "No", "Pc",
    "Pd", "Ps", "Pe", "Pi", "Pf", "Po", "Sm", "Sc", "Sk", "So"]).union
      (CharSet.singleton ' ')).diff
    (Unicode.graphemeExtend.union (Unicode.listed "Default_Ignorable_Code_Point"))

def isGraphic (c : Char) : Bool :=
  if c.toNat < 128 then 32 ≤ c.toNat && c.toNat < 127 else graphic.contains c

def escape (c : Char) : List Char :=
  match c with
  | '"' => ['\\', '"']
  | '\\' => ['\\', '\\']
  | '\n' => ['\\', 'n']
  | '\r' => ['\\', 'r']
  | '\t' => ['\\', 't']
  | '\x00' => ['\\', '0']
  | _ => if isGraphic c then [c] else '\\' :: 'u' :: '\x7b' :: hex c.toNat ++ ['\x7d']

def quote (s : String) : String :=
  String.ofList ('"' :: s.toList.flatMap escape ++ ['"'])

end AlertRouting.Text
