/-!
# Sets of characters

A set of characters is a list of code point ranges. Every operation returns the canonical list:
increasing, with at least one absent code point between two ranges.
-/
namespace AlertRouting

structure CharSet where
  ranges : List (Nat × Nat)
deriving Repr, DecidableEq, Inhabited

namespace CharSet

def maxCode : Nat := 0x10ffff

def empty : CharSet := ⟨[]⟩

def full : CharSet := ⟨[(0, maxCode)]⟩

def containsCode (s : CharSet) (n : Nat) : Bool :=
  s.ranges.any fun r => r.1 ≤ n && n ≤ r.2

def contains (s : CharSet) (c : Char) : Bool := s.containsCode c.toNat

/-- Joins the ranges of a list that is sorted by lower ends, `cur` being the range under way. -/
def joinFrom (cur : Nat × Nat) : List (Nat × Nat) → List (Nat × Nat)
  | [] => [cur]
  | r :: rest =>
    if r.1 ≤ cur.2 + 1 then joinFrom (cur.1, max cur.2 r.2) rest else cur :: joinFrom r rest

/-- The set of all code points in some range of the list. -/
def ofRanges (rs : List (Nat × Nat)) : CharSet :=
  match (rs.filter fun r => r.1 ≤ r.2).mergeSort fun a b => a.1 ≤ b.1 with
  | [] => empty
  | r :: rest => ⟨joinFrom r rest⟩

def ofRange (lo hi : Nat) : CharSet := ofRanges [(lo, hi)]

def singleton (c : Char) : CharSet := ⟨[(c.toNat, c.toNat)]⟩

def ofChars (cs : List Char) : CharSet := ofRanges (cs.map fun c => (c.toNat, c.toNat))

def union (s t : CharSet) : CharSet := ofRanges (s.ranges ++ t.ranges)

def unions (ss : List CharSet) : CharSet := ofRanges (ss.flatMap ranges)

/-- The ranges between `from` and `limit` that a sorted list leaves out. -/
def gaps (limit start : Nat) : List (Nat × Nat) → List (Nat × Nat)
  | [] => if start ≤ limit then [(start, limit)] else []
  | r :: rest =>
    if start < r.1 then (start, r.1 - 1) :: gaps limit (r.2 + 1) rest else gaps limit (r.2 + 1) rest

def complUpTo (limit : Nat) (s : CharSet) : CharSet := ⟨gaps limit 0 s.ranges⟩

def compl (s : CharSet) : CharSet := s.complUpTo maxCode

def inter (s t : CharSet) : CharSet := (s.compl.union t.compl).compl

def diff (s t : CharSet) : CharSet := (s.compl.union t).compl

def symmDiff (s t : CharSet) : CharSet := (s.union t).diff (s.inter t)

def isAscii (s : CharSet) : Bool := s.ranges.all fun r => r.2 < 128

/-- A range in hexadecimal, `41-5a`, or a single code point, `aa`. -/
def readRange (word : String) : Option (Nat × Nat) :=
  match (word.splitOn "-").map fun t => t.toList.foldl (fun n c => 16 * n + digit c) 0 with
  | [n] => some (n, n)
  | [lo, hi] => some (lo, hi)
  | _ => none
where
  digit (c : Char) : Nat := if c.isDigit then c.toNat - 48 else c.toNat - 87

/-- Reads table lines, each a list of hexadecimal ranges with single blanks between them. -/
def ofLines (lines : List String) : CharSet :=
  ofRanges (lines.flatMap fun line => (line.splitOn " ").filterMap readRange)

end CharSet

end AlertRouting
