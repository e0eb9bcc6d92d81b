import AlertRouting.Text.Basic
import AlertRouting.Yaml.Cursor

/-!
# Scalars

Plain and quoted scalars are folded: blanks around a line break do not count, a single line break
stands for a blank, and of several the first does not count. Block scalars keep the lines of a block.
-/
namespace AlertRouting.Yaml

inductive Style
  | plain | singleQuoted | doubleQuoted | literal | folded
deriving DecidableEq, Repr

structure Scanned where
  text : List Char
  cursor : Cursor

/-- A text with the blanks and line breaks read after it. Once a line has ended, `blanks` no longer
counts; `first` is the first line break and `later` holds the others. All parts are kept backwards. -/
structure Folding where
  text : List Char
  blanks : List Char
  first : List Char
  later : List Char
  broken : Bool

namespace Folding

def empty : Folding := ⟨[], [], [], [], false⟩

def isSettled (f : Folding) : Bool := !f.broken && f.blanks.isEmpty

/-- Folds what was read after the text into it. -/
def settle (f : Folding) : List Char :=
  if !f.broken then f.blanks ++ f.text
  else if f.first = ['\n'] then (if f.later.isEmpty then ' ' :: f.text else f.later ++ f.text)
  else f.later ++ f.first ++ f.text

def add (f : Folding) (cs : List Char) : Folding := ⟨cs ++ f.settle, [], [], [], false⟩

def addBlank (f : Folding) (c : Char) : Folding :=
  if f.broken then f else { f with blanks := c :: f.blanks }

def addBreak (f : Folding) (b : List Char) : Folding :=
  if f.broken then { f with later := b ++ f.later }
  else { f with blanks := [], first := b, broken := true }

end Folding

/-- Flow indicators that end a plain scalar inside brackets or braces. -/
def isFlowIndicator (c : Char) : Bool := c = ',' || c = '[' || c = ']' || c = '\x7b' || c = '\x7d'

def endsPlain (c : Cursor) (x : Char) (flow : Bool) : Bool :=
  (x = ':' && c.isSpaceAt 1) || (flow && isFlowIndicator x)

/-- A plain scalar that ends here. What was read after its text is dropped, but it is told whether
there was a line break in it. -/
def finishPlain (f : Folding) (c : Cursor) : Option (Scanned × Bool) :=
  some (⟨f.text.reverse, c⟩, f.broken)

/-- Reads on in a plain scalar whose lines after the first begin at `indent` or further right. Also
tells whether a line break was read after its end. -/
def readPlain? (flow : Bool) (indent : Int) (f : Folding) (c : Cursor) : Option (Scanned × Bool) :=
  match _h : c.rest.head? with
  | none => finishPlain f c
  | some x =>
    if isBlank x then
      if f.broken && c.column < indent && x = '\t' then none
      else readPlain? flow indent (f.addBlank x) c.skip
    else if isBreak x then readPlain? flow indent (f.addBreak c.lineBreak) c.skipLine
    else if f.broken && !flow && c.column < indent then finishPlain f c
    else if c.isDocumentMarker then finishPlain f c
    else if x = '#' && !f.isSettled then finishPlain f c
    else if flow && x = ':' && (c.peek? 1).any (fun y => isFlowIndicator y || y = '?') then none
    else if endsPlain c x flow then finishPlain f c
    else readPlain? flow indent (f.add [x]) c.skip
termination_by c.rest.length
decreasing_by
  · exact Cursor.length_skip_lt _h
  · exact Cursor.length_skipLine_lt _h
  · exact Cursor.length_skip_lt _h

def letterEscape? : Char → Option Char
  | '0' => some '\x00'
  | 'a' => some '\x07'
  | 'b' => some '\x08'
  | 't' => some '\t'
  | '\t' => some '\t'
  | 'n' => some '\n'
  | 'v' => some '\x0b'
  | 'f' => some '\x0c'
  | 'r' => some '\r'
  | 'e' => some '\x1b'
  | ' ' => some ' '
  | '"' => some '"'
  | '/' => some '/'
  | '\\' => some '\\'
  | 'N' => some '\u0085'
  | '_' => some '\u00a0'
  | 'L' => some '\u2028'
  | 'P' => some '\u2029'
  | _ => none

/-- How many hexadecimal digits follow a letter after a backslash. -/
def escapeWidth? : Char → Option Nat
  | 'x' => some 2
  | 'u' => some 4
  | 'U' => some 8
  | _ => none

def readEscape? (c : Cursor) : Option (Char × Cursor) :=
  match c.rest with
  | [] => none
  | x :: rest =>
    match escapeWidth? x with
    | none => (letterEscape? x).map fun e => (e, c.skip)
    | some width =>
      let digits := rest.take width
      if digits.length < width then none
      else match Text.hexNumber? digits with
        | none => none
        | some n => if n.isValidChar then some (Char.ofNat n, c.skipN (width + 1)) else none

inductive QuotedStep
  /-- Text was read. -/
  | text (cs : List Char) (next : Cursor)
  /-- A line break was escaped; it does not count, nor do the blanks after it. -/
  | joined (next : Cursor)
  /-- The closing quote was read. -/
  | closed (next : Cursor)

/-- Reads a character inside quotes that is neither a blank nor a break. In single quotes a quote is
written twice; in double quotes there are escapes. -/
def stepQuoted? (single : Bool) (c : Cursor) (x : Char) : Option QuotedStep :=
  if single then
    if x = '\'' then
      if c.peek? 1 = some '\'' then some (.text ['\''] (c.skipN 2)) else some (.closed c.skip)
    else some (.text [x] c.skip)
  else if x = '"' then some (.closed c.skip)
  else if x = '\\' then
    if (c.peek? 1).any isBreak then some (.joined c.skip.skipLine)
    else (readEscape? c.skip).map fun (e, next) => .text [e] next
  else some (.text [x] c.skip)

/-- Reads on in a quoted scalar, for at most `fuel` steps. -/
def readQuoted? (single : Bool) : Nat → Folding → Cursor → Option Scanned
  | 0, _, _ => none
  | fuel + 1, f, c =>
    match c.rest.head? with
    | none => none
    | some x =>
      if isBlank x then readQuoted? single fuel (f.addBlank x) c.skip
      else if isBreak x then readQuoted? single fuel (f.addBreak c.lineBreak) c.skipLine
      else if c.isDocumentMarker then none
      else match stepQuoted? single c x with
        | none => none
        | some (.text cs next) => readQuoted? single fuel (f.add cs) next
        | some (.joined next) =>
          readQuoted? single fuel ⟨f.settle, [], [], [], true⟩ next
        | some (.closed next) => some ⟨f.settle.reverse, next⟩

/-- What a block scalar does with the line breaks at its end. -/
inductive Chomping
  | strip | clip | keep
deriving DecidableEq, Repr

/-- The chomping and the indentation that are written after the indicator of a block scalar. -/
def readBlockHeader? (c : Cursor) : Option (Chomping × Option Nat × Cursor) :=
  let chomping (x : Option Char) : Option Chomping :=
    match x with
    | some '+' => some .keep
    | some '-' => some .strip
    | _ => none
  let digit (x : Option Char) : Option Nat := (x.filter Char.isDigit).map fun d => d.toNat - 48
  match chomping c.head?, digit c.head? with
  | some k, _ =>
    match digit (c.peek? 1) with
    | some 0 => none
    | some n => some (k, some n, c.skipN 2)
    | none => some (k, none, c.skip)
  | none, some 0 => none
  | none, some n =>
    match chomping (c.peek? 1) with
    | some k => some (k, some n, c.skipN 2)
    | none => some (.clip, some n, c.skip)
  | none, none => some (.clip, none, c)

/-- Reads the indentation of a line and the empty lines before it. Without a given indentation the
deepest one of these lines is found. Line breaks are kept backwards. -/
def readBlockBreaks? (indent : Option Nat) :
    Nat → Nat → List Char → Cursor → Option (List Char × Nat × Cursor)
  | 0, _, _, _ => none
  | fuel + 1, deepest, breaks, c =>
    let spaces := (c.rest.takeWhile (· = ' ')).length
    let c := match indent with
      | none => c.skipN spaces
      | some n => c.skipN (min spaces (n - c.column))
    let deepest := max deepest c.column
    let short := match indent with
      | none => true
      | some n => c.column < n
    match c.head? with
    | some x =>
      if short && x = '\t' then none
      else if isBreak x then readBlockBreaks? indent fuel deepest (c.lineBreak ++ breaks) c.skipLine
      else some (breaks, deepest, c)
    | none => some (breaks, deepest, c)

/-- What has been read of a block scalar. All texts are kept backwards. -/
structure Block where
  text : List Char
  first : List Char
  later : List Char
  blank : Bool

/-- Reads the lines of a block scalar. A folded scalar joins two lines that both begin with text. -/
def readBlockLines? (literal : Bool) (indent : Nat) : Nat → Block → Cursor → Option (Block × Cursor)
  | 0, _, _ => none
  | fuel + 1, b, c =>
    if c.column = indent && !c.rest.isEmpty then
      let blank := c.head?.any isBlank
      let joined := !literal && b.first = ['\n'] && !b.blank && !blank
      let text :=
        if joined then b.later ++ (if b.later.isEmpty then ' ' :: b.text else b.text)
        else b.later ++ b.first ++ b.text
      let line := c.rest.takeWhile fun x => !isBreak x
      let c := c.skipN line.length
      match readBlockBreaks? (some indent) fuel 0 [] c.skipLine with
      | none => none
      | some (later, _, next) =>
        readBlockLines? literal indent fuel ⟨line.reverse ++ text, c.lineBreak, later, blank⟩ next
    else some (b, c)

/-- Reads a block scalar, after its indicator, inside a block that is indented by `outer`. -/
def readBlock? (literal : Bool) (outer : Int) (c : Cursor) : Option Scanned := do
  let (chomping, increment, c) ← readBlockHeader? c
  let c ← c.skipToNextLine?
  let given := increment.map fun n => (if outer ≥ 0 then outer.toNat else 0) + n
  let (breaks, deepest, c) ← readBlockBreaks? given (c.rest.length + 1) 0 [] c
  let indent := given.getD (max (max deepest (outer + 1).toNat) 1)
  let (b, c) ← readBlockLines? literal indent (c.rest.length + 1) ⟨[], [], breaks, false⟩ c
  let text := match chomping with
    | .strip => b.text
    | .clip => b.first ++ b.text
    | .keep => b.later ++ b.first ++ b.text
  some ⟨text.reverse, c⟩

end AlertRouting.Yaml
