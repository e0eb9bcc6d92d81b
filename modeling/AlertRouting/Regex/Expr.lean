import AlertRouting.Unicode.Property

/-!
# Regular expressions

An expression is the meaning of a pattern: flags are resolved, a class is its set of characters, and
an assertion depends on the two characters around a position. How greedy a repetition is does not
matter, since only the existence of a match is asked.
-/
namespace AlertRouting.Regex

/-- The word characters, in all scripts or in ASCII. -/
def wordChars (unicode : Bool) : CharSet :=
  if unicode then
    CharSet.unions [Unicode.alphabetic, Unicode.categories ["Mn", "Mc", "Me", "Nd", "Pc"],
      Unicode.listed "Join_Control"]
  else CharSet.ofRanges [(0x30, 0x39), (0x41, 0x5a), (0x5f, 0x5f), (0x61, 0x7a)]

def unicodeWordChars : CharSet := wordChars true

def isWordChar (unicode : Bool) (c : Char) : Bool :=
  if c.toNat < 128 then c.isAlphanum || c = '_' else unicode && unicodeWordChars.contains c

inductive WordLook
  | boundary | notBoundary | start | stop | startHalf | stopHalf
deriving DecidableEq, Repr

inductive Look
  | textStart | textEnd | lineStart | lineEnd | crlfLineStart | crlfLineEnd
  | word (kind : WordLook) (unicode : Bool)
deriving DecidableEq, Repr

def WordLook.holds (k : WordLook) (before after : Bool) : Bool :=
  match k with
  | boundary => before != after
  | notBoundary => before == after
  | start => !before && after
  | stop => before && !after
  | startHalf => !before
  | stopHalf => !after

/-- Does the assertion hold between these two characters, of which one is absent at either end? -/
def Look.holds (l : Look) (before after : Option Char) : Bool :=
  match l with
  | textStart => before.isNone
  | textEnd => after.isNone
  | lineStart => before.isNone || before = some '\n'
  | lineEnd => after.isNone || after = some '\n'
  | crlfLineStart =>
    before.isNone || before = some '\n' || (before = some '\r' && after != some '\n')
  | crlfLineEnd => after.isNone || after = some '\r' || (after = some '\n' && before != some '\r')
  | word k unicode => k.holds (before.any (isWordChar unicode)) (after.any (isWordChar unicode))

inductive Expr
  | empty
  /-- One character of a set; the number is how deep the class is written. -/
  | chars (s : CharSet) (depth : Nat)
  | look (l : Look)
  | group (captures : Bool) (e : Expr)
  | cat (a b : Expr)
  | alt (a b : Expr)
  | repeated (e : Expr) (least : Nat) (most : Option Nat)
deriving Repr, DecidableEq

namespace Expr

def isCat : Expr → Bool
  | cat .. => true
  | _ => false

def isAlt : Expr → Bool
  | alt .. => true
  | _ => false

/-- How deep a pattern is nested. The parts of a sequence count as one level below it, and so do the
branches of an alternation. -/
def height : Expr → Nat
  | empty => 0
  | chars _ depth => depth
  | look _ => 0
  | group _ e => e.height + 1
  | cat a b => max (if a.isCat then a.height else a.height + 1) (b.height + 1)
  | alt a b => max (if a.isAlt then a.height else a.height + 1) (b.height + 1)
  | repeated e _ _ => e.height + 1

def maxHeight : Nat := 250

end Expr

end AlertRouting.Regex
