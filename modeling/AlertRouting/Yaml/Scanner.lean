import AlertRouting.Yaml.Token

/-!
# Scanning a text

The scanner finds the tokens of a text. Indentation opens and closes blocks. What turns out to be a
key is known only at the colon after it, so every place where a key may begin is remembered, and the
marks of the key are put there afterwards.
-/
namespace AlertRouting.Yaml

/-- A place where a key may have begun. It is the number of the token there. -/
structure PossibleKey where
  number : Nat
  index : Nat
  line : Nat
  column : Nat
  /-- Is nothing but a key possible there? -/
  required : Bool
deriving Repr

structure Scanner where
  cursor : Cursor
  /-- The tokens found so far, the latest first. -/
  tokens : List Token
  count : Nat
  /-- The column of the innermost block, or -1, and of the blocks around it. -/
  indent : Int
  outer : List Int
  keyAllowed : Bool
  /-- The possible keys of the brackets and braces that are open, the innermost first. -/
  keys : List (Option PossibleKey)
  /-- The possible key outside of all brackets and braces. -/
  blockKey : Option PossibleKey

namespace Scanner

def start (text : List Char) : Scanner where
  cursor := ⟨text, 0, 0, 0⟩
  tokens := []
  count := 0
  indent := -1
  outer := []
  keyAllowed := true
  keys := []
  blockKey := none

def inFlow (s : Scanner) : Bool := !s.keys.isEmpty

def add (s : Scanner) (t : Token) : Scanner :=
  { s with tokens := t :: s.tokens, count := s.count + 1 }

def insert (s : Scanner) (number : Nat) (t : Token) : Scanner :=
  let after := s.count - number
  { s with tokens := s.tokens.take after ++ t :: s.tokens.drop after, count := s.count + 1 }

def moveTo (s : Scanner) (c : Cursor) : Scanner := { s with cursor := c }

def allowKey (s : Scanner) (allowed : Bool) : Scanner := { s with keyAllowed := allowed }

def possibleKey (s : Scanner) : Option PossibleKey :=
  match s.keys with
  | [] => s.blockKey
  | k :: _ => k

def setKey (s : Scanner) (k : Option PossibleKey) : Scanner :=
  match s.keys with
  | [] => { s with blockKey := k }
  | _ :: rest => { s with keys := k :: rest }

def dropKey? (s : Scanner) : Option Scanner :=
  if s.possibleKey.any (·.required) then none else some (s.setKey none)

/-- Remembers that a key may begin here. -/
def saveKey? (s : Scanner) : Option Scanner :=
  if !s.keyAllowed then some s
  else s.dropKey?.map fun s =>
    let c := s.cursor
    s.setKey (some ⟨s.count, c.index, c.line, c.column, !s.inFlow && s.indent = c.column⟩)

/-- Is the key too far back? A key stands on one line and is not longer than 1024 characters. -/
def isStale (c : Cursor) (k : PossibleKey) : Bool := k.line < c.line || k.index + 1024 < c.index

/-- Gives up the possible keys of all levels that are too far back. -/
def dropStaleKeys? (s : Scanner) : Option Scanner :=
  let stale (k : Option PossibleKey) : Bool := k.any (isStale s.cursor)
  let fresh (k : Option PossibleKey) : Option PossibleKey := if stale k then none else k
  if (s.blockKey :: s.keys).any fun k => stale k && k.any (·.required) then none
  else some { s with blockKey := fresh s.blockKey, keys := s.keys.map fresh }

/-- Opens a block at a column, if it is further right than the innermost one. The token goes in front
of the one with the number, or to the end. -/
def openBlock (s : Scanner) (column : Nat) (number : Option Nat) (t : Token) : Scanner :=
  if s.inFlow || (column : Int) ≤ s.indent then s
  else
    let s := { s with indent := column, outer := s.indent :: s.outer }
    match number with
    | some n => s.insert n t
    | none => s.add t

/-- Closes blocks until none is further right than a column. -/
def closeBlocks (column : Int) (s : Scanner) : List Int → Scanner
  | [] => { s with outer := [] }
  | o :: outer =>
    if s.indent > column then
      closeBlocks column { s.add .blockEnd with indent := o } outer
    else { s with outer := o :: outer }

def dedent (s : Scanner) (column : Int) : Scanner :=
  if s.inFlow then s else closeBlocks column s s.outer

/-- Moves to the next token. Tabs are white space only where no key may begin. -/
def skipSpace : Nat → Scanner → Scanner
  | 0, s => s
  | fuel + 1, s =>
    let c := s.cursor
    let c := if c.index = 0 && c.head? = some '\ufeff' then c.skip else c
    let tabs := s.inFlow || !s.keyAllowed
    let c := (c.skipWhile fun x => x = ' ' || (tabs && x = '\t')).skipComment
    if c.head?.any isBreak then
      skipSpace fuel { s with cursor := c.skipLine, keyAllowed := s.keyAllowed || !s.inFlow }
    else s.moveTo c

/-- Ends all blocks in front of a directive or a marker of a document. -/
def endContent? (s : Scanner) : Option Scanner :=
  (s.dedent (-1)).dropKey?.map fun s => s.allowKey false

def punctuate (s : Scanner) (t : Token) : Scanner := (s.moveTo s.cursor.skip).add t

def scanFlowStart? (s : Scanner) (t : Token) : Option Scanner :=
  s.saveKey?.map fun s => ({ s with keys := none :: s.keys }.allowKey true).punctuate t

def scanFlowEnd? (s : Scanner) (t : Token) : Option Scanner :=
  s.dropKey?.map fun s => ({ s with keys := s.keys.tail }.allowKey false).punctuate t

def scanFlowEntry? (s : Scanner) : Option Scanner :=
  s.dropKey?.map fun s => (s.allowKey true).punctuate .flowEntry

def scanBlockEntry? (s : Scanner) : Option Scanner := do
  if !s.inFlow && !s.keyAllowed then failure
  let s ← (s.openBlock s.cursor.column none .blockSequenceStart).dropKey?
  some ((s.allowKey true).punctuate .blockEntry)

def scanKey? (s : Scanner) : Option Scanner := do
  if !s.inFlow && !s.keyAllowed then failure
  let s ← (s.openBlock s.cursor.column none .blockMappingStart).dropKey?
  some ((s.allowKey !s.inFlow).punctuate .key)

/-- A colon makes a key of what began at the place remembered. -/
def scanValue? (s : Scanner) : Option Scanner :=
  match s.possibleKey with
  | some k =>
    let s := (s.insert k.number .key).openBlock k.column (some k.number) .blockMappingStart
    some (((s.setKey none).allowKey false).punctuate .value)
  | none =>
    if !s.inFlow && !s.keyAllowed then none
    else
      let s := s.openBlock s.cursor.column none .blockMappingStart
      some ((s.allowKey !s.inFlow).punctuate .value)

/-- A token that may be, or begin, a key. -/
def scanNode? {α : Type} (s : Scanner) (read : Cursor → Option (α × Cursor)) (token : α → Token) :
    Option Scanner := do
  let s ← s.saveKey?
  let (a, c) ← read s.cursor
  some (((s.allowKey false).moveTo c).add (token a))

def scanBlockScalar? (s : Scanner) (literal : Bool) : Option Scanner := do
  let s ← s.dropKey?
  let t ← readBlock? literal s.indent s.cursor.skip
  some (((s.allowKey true).moveTo t.cursor).add
    (.scalar (String.ofList t.text) (if literal then .literal else .folded)))

def scanQuoted? (s : Scanner) (single : Bool) : Option Scanner :=
  s.scanNode?
    (fun c => (readQuoted? single (c.rest.length + 1) .empty c.skip).map fun t => (t.text, t.cursor))
    fun text => .scalar (String.ofList text) (if single then .singleQuoted else .doubleQuoted)

def scanPlain? (s : Scanner) : Option Scanner := do
  let s ← s.saveKey?
  let (t, broken) ← readPlain? s.inFlow (s.indent + 1) .empty s.cursor
  some (((s.allowKey broken).moveTo t.cursor).add (.scalar (String.ofList t.text) .plain))

/-- Characters that a plain scalar does not begin with; for the first three it depends on the next. -/
def isIndicator (x : Char) : Bool := "-?:,[]\x7b\x7d#&*!|>'\"%@`".toList.contains x

def startsPlain (c : Cursor) (x : Char) (flow : Bool) : Bool :=
  !(isIndicator x || isBlankOrBreak x) || (x = '-' && !(c.peek? 1).any isBlank)
    || (!flow && (x = '?' || x = ':') && !c.isSpaceAt 1)

def scanToken? (s : Scanner) (x : Char) : Option Scanner :=
  let c := s.cursor
  let flow := s.inFlow
  if c.column = 0 && x = '%' then do
    let s ← s.endContent?
    let (t, next) ← readDirective? c.skip
    some ((s.moveTo next).add t)
  else if c.isMarker ['-', '-', '-'] then
    s.endContent?.map fun s => (s.moveTo (c.skipN 3)).add .documentStart
  else if c.isMarker ['.', '.', '.'] then
    s.endContent?.map fun s => (s.moveTo (c.skipN 3)).add .documentEnd
  else if x = '[' then s.scanFlowStart? .flowSequenceStart
  else if x = '\x7b' then s.scanFlowStart? .flowMappingStart
  else if x = ']' then s.scanFlowEnd? .flowSequenceEnd
  else if x = '\x7d' then s.scanFlowEnd? .flowMappingEnd
  else if x = ',' then s.scanFlowEntry?
  else if x = '-' && c.isSpaceAt 1 then s.scanBlockEntry?
  else if x = '?' && (flow || c.isSpaceAt 1) then s.scanKey?
  else if x = ':' && (flow || c.isSpaceAt 1) then s.scanValue?
  else if x = '*' then s.scanNode? (fun c => readAnchor? c.skip) .alias
  else if x = '&' then s.scanNode? (fun c => readAnchor? c.skip) .anchor
  else if x = '!' then
    s.scanNode? (fun c => (readTag? flow c).map fun (h, t, c) => ((h, t), c)) fun t => .tag t.1 t.2
  else if x = '|' && !flow then s.scanBlockScalar? true
  else if x = '>' && !flow then s.scanBlockScalar? false
  else if x = '\'' then s.scanQuoted? true
  else if x = '"' then s.scanQuoted? false
  else if startsPlain c x flow then s.scanPlain?
  else none

/-- Scans to the end of the text, for at most `fuel` tokens. -/
def run? : Nat → Scanner → Option (List Token)
  | 0, _ => none
  | fuel + 1, s =>
    match (skipSpace (s.cursor.rest.length + 1) s).dropStaleKeys? with
    | none => none
    | some s =>
      let s := s.dedent s.cursor.column
      match s.cursor.head? with
      | none => s.endContent?.map fun s => s.tokens.reverse
      | some x => (s.scanToken? x).bind (run? fuel)

end Scanner

/-- The tokens of a text. A mark of the byte order may stand in front. -/
def tokens? (text : String) : Option (List Token) :=
  let cs := match text.toList with
    | '\ufeff' :: rest => rest
    | cs => cs
  if cs.all isPrintable then Scanner.run? (cs.length + 1) (.start cs) else none

end AlertRouting.Yaml
