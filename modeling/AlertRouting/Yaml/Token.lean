import AlertRouting.Yaml.Scalar

/-!
# Tokens of YAML

The tokens of a text, in which indentation and keys are marked. Here are the readers of those that
begin with an indicator: anchors, aliases, tags and directives.
-/
namespace AlertRouting.Yaml

inductive Token
  | blockSequenceStart | blockMappingStart | blockEnd
  | flowSequenceStart | flowSequenceEnd | flowMappingStart | flowMappingEnd
  | blockEntry | flowEntry | key | value
  | documentStart | documentEnd
  | version (major minor : Nat)
  | tagPrefix (handle full : String)
  | alias (name : String)
  | anchor (name : String)
  | tag (handle suffix : String)
  | scalar (text : String) (style : Style)
deriving DecidableEq, Repr

def readAnchor? (c : Cursor) : Option (String × Cursor) :=
  let name := c.rest.takeWhile isNameChar
  let next := c.skipN name.length
  let ends := match next.head? with
    | none => true
    | some x => isBlankOrBreak x || "?:,]\x7d%@`".toList.contains x
  if name.isEmpty || !ends then none else some (String.ofList name, next)

/-- Characters of a tag, with those that are allowed between angles only. -/
def isTagChar (verbatim : Bool) (x : Char) : Bool :=
  isNameChar x || ";/?:@&=+$.!~*'()%".toList.contains x || (verbatim && ",[]".toList.contains x)

/-- How many bytes the character has that begins with this byte. -/
def byteWidth? (b : Nat) : Option Nat :=
  if b < 0x80 then some 1
  else if b / 0x20 = 6 then some 2
  else if b / 0x10 = 14 then some 3
  else if b / 8 = 30 then some 4
  else none

/-- The bytes of one character, each as a percent sign and two digits. -/
def readEscapedBytes? : Nat → List Char → Option (List Nat × List Char)
  | 0, cs => some ([], cs)
  | n + 1, '%' :: a :: b :: rest => do
    let byte ← Text.hexNumber? [a, b]
    let (bytes, rest) ← readEscapedBytes? n rest
    some (byte :: bytes, rest)
  | _ + 1, _ => none

/-- The character that bytes encode, the first one giving its width. -/
def decodeBytes? : List Nat → Option Char
  | [] => none
  | b :: rest =>
    if rest.all fun t => t / 0x40 = 2 then
      let first := match rest.length with
        | 0 => b
        | 1 => b % 0x20
        | 2 => b % 0x10
        | _ => b % 8
      some (Char.ofNat (rest.foldl (fun n t => 0x40 * n + t % 0x40) first))
    else none

/-- Reads the characters of a tag, for at most `fuel` steps. -/
def readTagChars? (verbatim : Bool) : Nat → List Char → Option (List Char × List Char)
  | 0, _ => none
  | fuel + 1, cs =>
    match cs with
    | '%' :: a :: b :: rest => do
      let width ← (Text.hexNumber? [a, b]).bind byteWidth?
      let (bytes, rest) ← readEscapedBytes? width ('%' :: a :: b :: rest)
      let c ← decodeBytes? bytes
      let (more, rest) ← readTagChars? verbatim fuel rest
      some (c :: more, rest)
    | x :: rest =>
      if x = '%' then none
      else if isTagChar verbatim x then
        (readTagChars? verbatim fuel rest).map fun (more, rest) => (x :: more, rest)
      else some ([], x :: rest)
    | [] => some ([], [])

/-- Reads the characters of a tag, which all stand on one line. -/
def readTagText? (verbatim : Bool) (c : Cursor) : Option (List Char × Cursor) :=
  (readTagChars? verbatim (c.rest.length + 1) c.rest).map fun (text, rest) =>
    (text, c.skipN (c.rest.length - rest.length))

/-- Reads a handle: an exclamation mark, then name characters, then perhaps another mark. -/
def readHandle? (c : Cursor) : Option (List Char × Cursor) :=
  match c.rest with
  | '!' :: rest =>
    let name := rest.takeWhile isNameChar
    match rest.drop name.length with
    | '!' :: _ => some ('!' :: name ++ ['!'], c.skipN (name.length + 2))
    | _ => some ('!' :: name, c.skipN (name.length + 1))
  | _ => none

/-- Reads a tag, with its indicator. Without a handle the mark itself is one. -/
def readTag? (flow : Bool) (c : Cursor) : Option (String × String × Cursor) := do
  let (handle, suffix, c) ←
    if c.peek? 1 = some '<' then do
      let (text, c) ← readTagText? true (c.skipN 2)
      if text.isEmpty || c.head? != some '>' then none else some ([], text, c.skip)
    else do
      let (handle, next) ← readHandle? c
      if handle.length ≥ 2 && handle.getLast? = some '!' then do
        let (text, c) ← readTagText? false next
        if text.isEmpty then none else some (handle, text, c)
      else do
        let (text, c) ← readTagText? false next
        let suffix := handle.tail ++ text
        if suffix.isEmpty then some ([], ['!'], c) else some (['!'], suffix, c)
  if c.isSpaceAt 0 || (flow && c.head? = some ',') then
    some (String.ofList handle, String.ofList suffix, c)
  else none

/-- Reads a number of at most nine digits. -/
def readVersionNumber? (c : Cursor) : Option (Nat × Cursor) :=
  let digits := c.rest.takeWhile Char.isDigit
  if digits.isEmpty || digits.length > 9 then none
  else some (digits.foldl (fun n d => 10 * n + (d.toNat - 48)) 0, c.skipN digits.length)

/-- Reads a directive, after its percent sign, to the end of its line. -/
def readDirective? (c : Cursor) : Option (Token × Cursor) := do
  let name := c.rest.takeWhile isNameChar
  let c := c.skipN name.length
  if !c.isSpaceAt 0 then failure
  match String.ofList name with
  | "YAML" => do
    let (major, c) ← readVersionNumber? (c.skipWhile isBlank)
    if c.head? != some '.' then failure
    let (minor, c) ← readVersionNumber? c.skip
    some (.version major minor, ← c.skipToNextLine?)
  | "TAG" => do
    let (handle, c) ← readHandle? (c.skipWhile isBlank)
    if handle.length ≥ 2 && handle.getLast? != some '!' then failure
    if !c.head?.any isBlank then failure
    let (text, c) ← readTagText? true (c.skipWhile isBlank)
    if text.isEmpty || !c.isSpaceAt 0 then failure
    some (.tagPrefix (String.ofList handle) (String.ofList text), ← c.skipToNextLine?)
  | _ => none

end AlertRouting.Yaml
