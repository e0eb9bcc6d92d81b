import AlertRouting.Regex.Escape

/-!
# Bracketed classes

A bracketed class holds items and nested classes, between which operators stand. The reader keeps the
classes that are still open on a stack.
-/
namespace AlertRouting.Regex

/-- Operators between the operands of a class; they group from the left. -/
inductive SetOperator
  | intersection | difference | symmetricDifference
deriving DecidableEq, Repr

structure Operand where
  set : CharSet
  depth : Nat

/-- Items that stand side by side: their union, their number, and the greatest depth. -/
structure Items where
  ranges : List (Nat × Nat)
  count : Nat
  depth : Nat

def Items.none : Items := ⟨[], 0, 0⟩

def Items.add (u : Items) (ranges : List (Nat × Nat)) (depth : Nat) : Items :=
  ⟨ranges ++ u.ranges, u.count + 1, max u.depth depth⟩

/-- Several items are written one level deeper than each of them. -/
def Items.operand (u : Items) : Operand :=
  ⟨CharSet.ofRanges u.ranges, if u.count < 2 then u.depth else u.depth + 1⟩

inductive BracketFrame
  /-- An open class, with the items before it in the class around it. -/
  | opened (outer : Items) (negated : Bool)
  /-- An operator that waits for its right operand. -/
  | operator (op : SetOperator) (left : Operand)

structure BracketState where
  frames : List BracketFrame
  items : Items

inductive BracketStep
  | more (s : BracketState) (rest : List Char)
  | done (class_ : Operand) (rest : List Char)

namespace BracketState

/-- Leading hyphens are literal. -/
def leadingHyphens (f : Flags) (u : Items) (cs : List Char) : Items × List Char :=
  let s := f.span (· = '-') cs
  (s.1.foldl (fun u _ => u.add [(0x2d, 0x2d)] 0) u, s.2)

/-- Opens a class, after its bracket. A first closing bracket is literal. -/
def open? (f : Flags) (s : BracketState) (cs : List Char) : Option (BracketState × List Char) :=
  let cs := f.skip cs
  let negated := cs.head? = some '^'
  let cs := if negated then f.skip cs.tail else cs
  let (u, cs) := leadingHyphens f Items.none cs
  let frames := .opened s.items negated :: s.frames
  match cs with
  | [] => none
  | ']' :: rest =>
    if u.count = 0 then
      match f.skip rest with
      | [] => none
      | rest => some (⟨frames, u.add [(0x5d, 0x5d)] 0⟩, rest)
    else some (⟨frames, u⟩, cs)
  | cs => some (⟨frames, u⟩, cs)

/-- Applies an operator that waits for the operand just read. -/
def settle (f : Flags) (right : Operand) : List BracketFrame → Operand × List BracketFrame
  | .operator op left :: frames =>
    let a := f.fold left.set
    let b := f.fold right.set
    let set := match op with
      | .intersection => a.inter b
      | .difference => a.diff b
      | .symmetricDifference => a.symmDiff b
    (⟨set, max left.depth right.depth + 1⟩, frames)
  | frames => (right, frames)

def operate (f : Flags) (s : BracketState) (op : SetOperator) : BracketState :=
  let (left, frames) := settle f s.items.operand s.frames
  ⟨.operator op left :: frames, Items.none⟩

def close? (f : Flags) (s : BracketState) (rest : List Char) : Option BracketStep :=
  match settle f s.items.operand s.frames with
  | (body, .opened outer negated :: frames) =>
    (f.close? negated body.set).map fun set =>
      match frames with
      | [] => .done ⟨set, body.depth + 1⟩ rest
      | _ => .more ⟨frames, outer.add set.ranges (body.depth + 1)⟩ rest
  | _ => none

end BracketState

def readNamed? (f : Flags) (cs : List Char) : Option (Option CharSet × List Char) :=
  match cs with
  | ':' :: cs =>
    let negated := cs.head? = some '^'
    let cs := if negated then cs.tail else cs
    match cs.dropWhile (· != ':') with
    | ':' :: ']' :: rest =>
      (namedClass? (String.ofList (cs.takeWhile (· != ':')))).map fun s => (f.close? negated s, rest)
    | _ => none
  | _ => none

/-- One item of a class: an escape, or a character that stands for itself. -/
def readItem? (f : Flags) : List Char → Option (Primitive × List Char)
  | [] => none
  | '\\' :: rest => readEscape? f rest
  | c :: rest => some (.literal c false, rest)

/-- The character after a hyphen that decides whether it makes a range. In a verbose pattern blanks
are passed over, and one number sign. -/
def peekPast (f : Flags) (cs : List Char) : Option Char :=
  if !f.verbose then cs.head?
  else match cs.dropWhile Text.isBlank with
    | [] => cs.head?
    | '#' :: rest =>
      match rest.dropWhile Text.isBlank with
      | [] => cs.head?
      | c :: _ => some c
    | c :: _ => some c

/-- One item or range of a class, as ranges of code points. -/
def readRange? (f : Flags) (cs : List Char) : Option (List (Nat × Nat) × List Char) := do
  let (first, rest) ← readItem? f cs
  let rest := f.skip rest
  let single : Option (List (Nat × Nat) × List Char) :=
    match first with
    | .literal c byte => (f.classLiteral? c byte).map fun n => ([(n, n)], rest)
    | .set s => some (s.ranges, rest)
    | _ => none
  match rest with
  | [] => none
  | '-' :: more =>
    if peekPast f more = some ']' ∨ peekPast f more = some '-' then single
    else do
      let (last, rest) ← readItem? f (f.skip more)
      match first, last with
      | .literal a aByte, .literal b bByte =>
        let lo ← f.classLiteral? a aByte
        let hi ← f.classLiteral? b bByte
        if lo ≤ hi then some ([(lo, hi)], rest) else none
      | _, _ => none
  | _ => single

def stepBracket? (f : Flags) (s : BracketState) (cs : List Char) : Option BracketStep :=
  match cs with
  | [] => none
  | '[' :: rest =>
    match readNamed? f rest with
    | some (some set, rest) => some (.more { s with items := s.items.add set.ranges 0 } rest)
    | some (none, _) => none
    | none => (s.open? f rest).map fun (s, rest) => .more s rest
  | ']' :: rest => s.close? f rest
  | '&' :: '&' :: rest => some (.more (s.operate f .intersection) rest)
  | '-' :: '-' :: rest => some (.more (s.operate f .difference) rest)
  | '~' :: '~' :: rest => some (.more (s.operate f .symmetricDifference) rest)
  | cs => (readRange? f cs).map fun (ranges, rest) =>
      .more { s with items := s.items.add ranges 0 } rest

/-- Runs the reader for at most `fuel` steps. -/
def runBracket? (f : Flags) : Nat → BracketState → List Char → Option (Operand × List Char)
  | 0, _, _ => none
  | fuel + 1, s, cs =>
    match stepBracket? f s (f.skip cs) with
    | none => none
    | some (.done c rest) => some (c, rest)
    | some (.more s rest) => runBracket? f fuel s rest

/-- Reads a bracketed class, after its bracket. Every step takes a character, so there are no more
steps than characters. -/
def readBracket? (f : Flags) (cs : List Char) : Option (Expr × List Char) := do
  let (s, rest) ← BracketState.open? f ⟨[], Items.none⟩ cs
  let (c, rest) ← runBracket? f (rest.length + 1) s rest
  some (.chars c.set c.depth, rest)

end AlertRouting.Regex
