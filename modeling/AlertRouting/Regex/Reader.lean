import AlertRouting.Regex.Bracket

/-!
# Reading a pattern

The reader goes over the pattern once and keeps the groups that are still open on a stack. It returns
the expression of the pattern, or nothing if the pattern is malformed.
-/
namespace AlertRouting.Regex

/-- What is set aside while a group is read: the finished branches and the parts of the branch in
which the group stands, and the flags to go back to. The latest part comes first. -/
structure Frame where
  branches : List Expr
  parts : List Expr
  flags : Flags
  captures : Bool

structure State where
  frames : List Frame
  branches : List Expr
  parts : List Expr
  flags : Flags
  names : List String

namespace State

def initial : State := ⟨[], [], [], .initial, []⟩

/-- Joins parts, of which the latest comes first. -/
def joinParts : List Expr → Expr
  | [] => .empty
  | [e] => e
  | e :: rest => .cat (joinParts rest) e

def joinBranches : List Expr → Expr
  | [] => .empty
  | [e] => e
  | e :: rest => .alt (joinBranches rest) e

def body (s : State) : Expr := joinBranches (joinParts s.parts :: s.branches)

def addPart (s : State) (e : Expr) : State := { s with parts := e :: s.parts }

def openGroup (s : State) (captures : Bool) (flags : Flags) (names : List String) : State :=
  ⟨⟨s.branches, s.parts, s.flags, captures⟩ :: s.frames, [], [], flags, names⟩

def closeGroup? (s : State) : Option State :=
  match s.frames with
  | [] => none
  | frame :: frames =>
    some ⟨frames, frame.branches, .group frame.captures s.body :: frame.parts, frame.flags, s.names⟩

def nextBranch (s : State) : State :=
  { s with branches := joinParts s.parts :: s.branches, parts := [] }

/-- Repeats the latest part. A change of flags, which is an empty part, cannot be repeated. -/
def repeat? (s : State) (least : Nat) (most : Option Nat) : Option State :=
  match s.parts with
  | [] => none
  | .empty :: _ => none
  | e :: rest => some { s with parts := .repeated e least most :: rest }

end State

def isGroupNameChar (first : Bool) (c : Char) : Bool :=
  c = '_' || Unicode.alphabetic.contains c
    || (!first && (c = '.' || c = '[' || c = ']'
      || (Unicode.categories ["Nd", "Nl", "No"]).contains c))

def isGroupName (name : List Char) : Bool :=
  match name with
  | [] => false
  | c :: rest => isGroupNameChar true c && rest.all (isGroupNameChar false)

/-- Opens a group whose name comes next. Two groups cannot have one name. -/
def openNamed? (s : State) (cs : List Char) : Option (State × List Char) :=
  let name := cs.takeWhile (· != '>')
  match cs.dropWhile (· != '>') with
  | [] => none
  | _ :: rest =>
    if isGroupName name && !s.names.contains (String.ofList name) then
      some (s.openGroup true s.flags (String.ofList name :: s.names), rest)
    else none

/-- Reads what opens a group, after its parenthesis, or a change of flags. -/
def readGroup? (s : State) (cs : List Char) : Option (State × List Char) :=
  match s.flags.skip cs with
  | '?' :: 'P' :: '<' :: rest => openNamed? s rest
  | '?' :: '<' :: '=' :: _ => none
  | '?' :: '<' :: '!' :: _ => none
  | '?' :: '<' :: rest => openNamed? s rest
  | '?' :: rest =>
    let letters := rest.takeWhile fun c => c != ':' && c != ')'
    match rest.dropWhile fun c => c != ':' && c != ')' with
    | [] => none
    | last :: more =>
      (s.flags.change? letters).bind fun flags =>
        if last = ':' then some (s.openGroup false flags s.names, more)
        else if letters = [] then none
        else some ({ s.addPart .empty with flags := flags }, more)
  | cs => some (s.openGroup true s.flags s.names, cs)

/-- A decimal number below 2 ^ 32 with blanks around it. -/
def readDecimal? (f : Flags) (cs : List Char) : Option (Nat × List Char) :=
  let (digits, rest) := f.span Char.isDigit (cs.dropWhile Text.isBlank)
  let n := digits.foldl (fun n c => 10 * n + (c.toNat - 48)) 0
  if digits = [] ∨ n ≥ Nat.pow 2 32 then none else some (n, f.skip (rest.dropWhile Text.isBlank))

/-- A question mark after a repetition changes how it searches, not what it matches. -/
def dropLazy : List Char → List Char
  | '?' :: rest => rest
  | cs => cs

def readCounted? (s : State) (cs : List Char) : Option (State × List Char) := do
  let f := s.flags
  let (least, rest) ← readDecimal? f (f.skip cs)
  let (most, rest) ← match rest with
    | ',' :: rest =>
      match f.skip rest with
      | '\x7d' :: rest => some (none, '\x7d' :: rest)
      | rest => (readDecimal? f rest).map fun (n, rest) => (some n, rest)
    | rest => some (some least, rest)
  match rest with
  | '\x7d' :: rest =>
    if most.any (· < least) then none
    else (s.repeat? least most).map fun s => (s, dropLazy (f.skip rest))
  | _ => none

/-- One step of the reader, from the character that comes next. -/
def step? (s : State) (c : Char) (rest : List Char) : Option (State × List Char) :=
  match c with
  | '(' => readGroup? s rest
  | ')' => s.closeGroup?.map fun s => (s, rest)
  | '|' => some (s.nextBranch, rest)
  | '[' => (readBracket? s.flags rest).map fun (e, rest) => (s.addPart e, rest)
  | '?' => (s.repeat? 0 (some 1)).map fun s => (s, dropLazy rest)
  | '*' => (s.repeat? 0 none).map fun s => (s, dropLazy rest)
  | '+' => (s.repeat? 1 none).map fun s => (s, dropLazy rest)
  | '\x7b' => readCounted? s rest
  | _ => do
    let (p, rest) ← readPrimitive? s.flags c rest
    let e ← p.expr? s.flags
    some (s.addPart e, rest)

/-- Runs the reader to the end of the pattern, for at most `fuel` steps. -/
def run? : Nat → State → List Char → Option State
  | 0, _, _ => none
  | fuel + 1, s, cs =>
    match s.flags.skip cs with
    | [] => some s
    | c :: rest => (step? s c rest).bind fun (s, rest) => run? fuel s rest

/-- The expression of a well-formed pattern. Every step takes a character, so there are no more
steps than characters. -/
def read? (pattern : List Char) : Option Expr :=
  (run? (pattern.length + 1) .initial pattern).bind fun s =>
    if s.frames.isEmpty then some s.body else none

end AlertRouting.Regex
