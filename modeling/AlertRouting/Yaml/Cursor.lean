/-!
# Places in a text

A cursor holds the rest of the text and where in the text it begins.
-/
namespace AlertRouting.Yaml

def isBlank (c : Char) : Bool := c = ' ' || c = '\t'

/-- The characters that end a line: line feed, carriage return, next line, and the separators of
lines and paragraphs. -/
def isBreak (c : Char) : Bool :=
  c = '\n' || c = '\r' || c = '\u0085' || c = '\u2028' || c = '\u2029'

def isBlankOrBreak (c : Char) : Bool := isBlank c || isBreak c

def isNameChar (c : Char) : Bool := c.isAlphanum || c = '-' || c = '_'

/-- May the character stand in a text? Control characters may not, apart from those that make white
space. -/
def isPrintable (c : Char) : Bool :=
  let n := c.toNat
  n = 9 || n = 10 || n = 13 || (0x20 ≤ n && n ≤ 0x7e) || n = 0x85 || (0xa0 ≤ n && n ≤ 0xd7ff)
    || (0xe000 ≤ n && n ≤ 0xfffd) || 0x10000 ≤ n

structure Cursor where
  rest : List Char
  index : Nat
  line : Nat
  column : Nat
deriving Repr

namespace Cursor

def peek? (c : Cursor) (i : Nat) : Option Char := c.rest[i]?

def head? (c : Cursor) : Option Char := c.rest.head?

/-- Is there a blank, a break or nothing `i` places on? -/
def isSpaceAt (c : Cursor) (i : Nat) : Bool := (c.peek? i).all isBlankOrBreak

def skip (c : Cursor) : Cursor := ⟨c.rest.tail, c.index + 1, c.line, c.column + 1⟩

def skipN (c : Cursor) (n : Nat) : Cursor := ⟨c.rest.drop n, c.index + n, c.line, c.column + n⟩

/-- Moves past the characters of a line that satisfy `p`. -/
def skipWhile (c : Cursor) (p : Char → Bool) : Cursor := c.skipN (c.rest.takeWhile p).length

/-- Moves past a line break. A carriage return and a line feed make one break. -/
def skipLine (c : Cursor) : Cursor :=
  match c.rest with
  | '\r' :: '\n' :: rest => ⟨rest, c.index + 2, c.line + 1, 0⟩
  | _ :: rest => ⟨rest, c.index + 1, c.line + 1, 0⟩
  | [] => c

/-- What a line break counts as in a scalar: the separators stay, all others are line feeds. -/
def lineBreak (c : Cursor) : List Char :=
  match c.rest with
  | '\u2028' :: _ => ['\u2028']
  | '\u2029' :: _ => ['\u2029']
  | _ :: _ => ['\n']
  | [] => []

/-- Is this a marker of three characters at the start of a line, with a space after it? -/
def isMarker (c : Cursor) (marker : List Char) : Bool :=
  c.column = 0 && marker.isPrefixOf c.rest && c.isSpaceAt 3

def isDocumentMarker (c : Cursor) : Bool := c.isMarker ['-', '-', '-'] || c.isMarker ['.', '.', '.']

theorem length_skip_lt {c : Cursor} {x : Char} (h : c.rest.head? = some x) :
    c.skip.rest.length < c.rest.length := by
  cases hr : c.rest with
  | nil => simp [hr] at h
  | cons _ _ => simp [skip, hr]

theorem length_skipLine_lt {c : Cursor} {x : Char} (h : c.rest.head? = some x) :
    c.skipLine.rest.length < c.rest.length := by
  unfold skipLine
  split
  · next hr => simp only [hr, List.length_cons]; omega
  · next hr => simp [hr]
  · next hr => simp [hr] at h

def skipComment (c : Cursor) : Cursor :=
  if c.head? = some '#' then c.skipWhile fun x => !isBreak x else c

/-- Moves past blanks and a comment to the end of the line, and past that; nothing else may stand
there. -/
def skipToNextLine? (c : Cursor) : Option Cursor :=
  let c := (c.skipWhile isBlank).skipComment
  match c.head? with
  | none => some c
  | some x => if isBreak x then some c.skipLine else none

end Cursor

end AlertRouting.Yaml
