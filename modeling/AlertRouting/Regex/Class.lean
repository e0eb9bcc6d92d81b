import AlertRouting.Regex.Expr
import AlertRouting.Regex.Flags
import AlertRouting.Unicode.CaseFolding
import AlertRouting.Unicode.Query

/-!
# Character classes under flags

Without the Unicode flag a class is a set of bytes, and one with bytes beyond ASCII is refused, since
a match could end inside a character.
-/
namespace AlertRouting.Regex

inductive LetterClass
  | digit | space | word
deriving DecidableEq, Repr

def LetterClass.ofChar? : Char → Option LetterClass
  | 'd' => some digit
  | 's' => some space
  | 'w' => some word
  | _ => none

def LetterClass.chars (k : LetterClass) (unicode : Bool) : CharSet :=
  match k with
  | digit => if unicode then Unicode.categories ["Nd"] else CharSet.ofRange 0x30 0x39
  | space =>
    if unicode then Unicode.listed "White_Space" else CharSet.ofRanges [(9, 13), (0x20, 0x20)]
  | word => if unicode then unicodeWordChars else wordChars false

def LetterClass.resolve? (k : LetterClass) (f : Flags) (negated : Bool) : Option CharSet :=
  let s := k.chars f.unicode
  if !negated then some s else if f.unicode then some s.compl else none

def namedClass? (name : String) : Option CharSet :=
  (ranges.lookup name).map CharSet.ofRanges
where
  ranges : List (String × List (Nat × Nat)) := [
    ("alnum", [(0x30, 0x39), (0x41, 0x5a), (0x61, 0x7a)]), ("alpha", [(0x41, 0x5a), (0x61, 0x7a)]),
    ("ascii", [(0, 0x7f)]), ("blank", [(9, 9), (0x20, 0x20)]), ("cntrl", [(0, 0x1f), (0x7f, 0x7f)]),
    ("digit", [(0x30, 0x39)]), ("graph", [(0x21, 0x7e)]), ("lower", [(0x61, 0x7a)]),
    ("print", [(0x20, 0x7e)]), ("punct", [(0x21, 0x2f), (0x3a, 0x40), (0x5b, 0x60), (0x7b, 0x7e)]),
    ("space", [(9, 13), (0x20, 0x20)]), ("upper", [(0x41, 0x5a)]),
    ("word", [(0x30, 0x39), (0x41, 0x5a), (0x5f, 0x5f), (0x61, 0x7a)]),
    ("xdigit", [(0x30, 0x39), (0x41, 0x46), (0x61, 0x66)])]

namespace Flags

def fold (f : Flags) (s : CharSet) : CharSet :=
  if !f.ignoreCase then s
  else if f.unicode then Unicode.closeUnderCase s
  else Unicode.closeUnderAsciiCase s

/-- A class as written becomes a set: case variants come before the complement. -/
def close? (f : Flags) (negated : Bool) (s : CharSet) : Option CharSet :=
  let folded := f.fold s
  if f.unicode then some (if negated then folded.compl else folded)
  else
    let bytes := if negated then folded.complUpTo 255 else folded
    if bytes.isAscii then some bytes else none

/-- A literal character, in a class or outside; `byte` tells that it is written as a byte. -/
def literal? (f : Flags) (c : Char) (byte : Bool) : Option CharSet :=
  if !f.unicode && byte && c.toNat ≥ 128 then none else some (f.fold (CharSet.singleton c))

/-- A literal character of a class, which is a byte if the class is one of bytes. -/
def classLiteral? (f : Flags) (c : Char) (byte : Bool) : Option Nat :=
  if f.unicode || byte || c.toNat < 128 then some c.toNat else none

def dot? (f : Flags) : Option CharSet :=
  if !f.unicode then none
  else if f.dotAll then some CharSet.full
  else if f.crlf then some (CharSet.ofChars ['\n', '\r']).compl
  else some (CharSet.singleton '\n').compl

/-- The code points of a property, or all others. -/
def property? (f : Flags) (negated : Bool) (q : Unicode.Query) : Option CharSet :=
  if f.unicode then q.find?.bind (f.close? negated) else none

def caret (f : Flags) : Look :=
  if !f.multiLine then .textStart else if f.crlf then .crlfLineStart else .lineStart

def dollar (f : Flags) : Look :=
  if !f.multiLine then .textEnd else if f.crlf then .crlfLineEnd else .lineEnd

end Flags

end AlertRouting.Regex
