/-!
# Texts

Blank characters, digits in hexadecimal, and texts that are joined from others.
-/
namespace AlertRouting.Text

/-- Is the character white space, in any script? -/
def isBlank (c : Char) : Bool :=
  let n := c.toNat
  (9 ≤ n && n ≤ 13) || n = 0x20 || n = 0x85 || n = 0xa0 || n = 0x1680 || (0x2000 ≤ n && n ≤ 0x200a)
    || n = 0x2028 || n = 0x2029 || n = 0x202f || n = 0x205f || n = 0x3000

def hexValue? (c : Char) : Option Nat :=
  if c.isDigit then some (c.toNat - 48)
  else if 'a' ≤ c && c ≤ 'f' then some (c.toNat - 87)
  else if 'A' ≤ c && c ≤ 'F' then some (c.toNat - 55)
  else none

def hexNumber? (digits : List Char) : Option Nat :=
  (digits.mapM hexValue?).map (List.foldl (fun n v => 16 * n + v) 0)

def hex (n : Nat) : List Char := Nat.toDigits 16 n

def commas (parts : List String) : String := ", ".intercalate parts

/-- A set or map: the parts between braces. -/
def braces (parts : List String) : String := "\x7b" ++ commas parts ++ "\x7d"

/-- A list: the parts between brackets. -/
def brackets (parts : List String) : String := "[" ++ commas parts ++ "]"

def lines (texts : List String) : String := String.join (texts.map (· ++ "\n"))

end AlertRouting.Text
