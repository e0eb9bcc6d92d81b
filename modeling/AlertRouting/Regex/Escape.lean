import AlertRouting.Regex.Class

/-!
# Escapes

What a backslash starts, and the single characters that have a meaning of their own. Each reader
takes the characters after what it has recognised and returns what it read with the rest.
-/
namespace AlertRouting.Regex

/-- The parts of a pattern that are written without brackets or parentheses. -/
inductive Primitive
  | literal (c : Char) (byte : Bool)
  | set (s : CharSet)
  | dot
  | look (l : Look)

def hexChar? (digits : List Char) : Option Char := do
  let n ← Text.hexNumber? digits
  if digits = [] then none else if n.isValidChar then some (Char.ofNat n) else none

/-- Takes a fixed number of characters, not counting what is skipped after each. -/
def Flags.takeExactly? (f : Flags) : Nat → List Char → Option (List Char × List Char)
  | 0, cs => some ([], cs)
  | _ + 1, [] => none
  | n + 1, c :: rest =>
    (f.takeExactly? n (f.skip rest)).map fun s => (c :: s.1, s.2)

/-- A character by its code point: as many digits as the letter asks for, or any number in braces. -/
def readHex? (f : Flags) (width : Nat) (cs : List Char) : Option (Primitive × List Char) :=
  match f.skip cs with
  | '\x7b' :: rest =>
    match f.span (· != '\x7d') (f.skip rest) with
    | (digits, _ :: rest) => (hexChar? digits).map fun c => (.literal c false, f.skip rest)
    | (_, []) => none
  | cs => do
    let (digits, rest) ← f.takeExactly? width cs
    let c ← hexChar? digits
    some (.literal c (width = 2), rest)

def splitAtFirst? (separator : List Char) : List Char → Option (List Char × List Char)
  | [] => none
  | c :: rest =>
    if separator.isPrefixOf (c :: rest) then some ([], (c :: rest).drop separator.length)
    else (splitAtFirst? separator rest).map fun s => (c :: s.1, s.2)

/-- The query in the braces. An unequal sign asks for the same property as an equal sign. -/
def propertyQuery (text : List Char) : Unicode.Query :=
  match splitAtFirst? ['!', '='] text <|> splitAtFirst? [':'] text <|> splitAtFirst? ['='] text with
  | some (property, value) => .value (String.ofList property) (String.ofList value)
  | none => .name (String.ofList text)

/-- A property: one letter, or a query in braces. -/
def readProperty? (f : Flags) (negated : Bool) (cs : List Char) : Option (Primitive × List Char) :=
  match f.skip cs with
  | [] => none
  | '\x7b' :: rest =>
    match f.span (· != '\x7d') (f.skip rest) with
    | (text, _ :: rest) => (f.property? negated (propertyQuery text)).map fun s => (.set s, rest)
    | (_, []) => none
  | c :: rest =>
    if c = '\\' then none
    else (f.property? negated (.name (String.singleton c))).map fun s => (.set s, f.skip rest)

def isBoundaryChar (c : Char) : Bool := c.isAlpha || c = '-'

/-- A word boundary, of which a name in braces can choose one side. Braces with anything but a name
belong to a repetition of the boundary. -/
def readBoundary? (f : Flags) (cs : List Char) : Option (Primitive × List Char) :=
  let plain : Option (Primitive × List Char) := some (.look (.word .boundary f.unicode), cs)
  match cs with
  | '\x7b' :: rest =>
    match f.skip rest with
    | [] => none
    | c :: more =>
      if !isBoundaryChar c then plain else
      match f.span isBoundaryChar (c :: more) with
      | (name, '\x7d' :: rest) => (kind? (String.ofList name)).map fun k => (.look (.word k f.unicode), rest)
      | _ => none
  | _ => plain
where
  kind? : String → Option WordLook
    | "start" => some .start
    | "end" => some .stop
    | "start-half" => some .startHalf
    | "end-half" => some .stopHalf
    | _ => none

/-- Characters that a backslash makes literal: all of ASCII but letters, digits and angles. -/
def isEscapable (c : Char) : Bool :=
  c.toNat < 128 && !c.isAlphanum && c != '<' && c != '>'

/-- What the letter or angle after a backslash stands for, where that is all there is to it. -/
def simpleEscape? (f : Flags) : Char → Option Primitive
  | 'a' => some (.literal '\x07' false)
  | 'f' => some (.literal '\x0c' false)
  | 't' => some (.literal '\t' false)
  | 'n' => some (.literal '\n' false)
  | 'r' => some (.literal '\r' false)
  | 'v' => some (.literal '\x0b' false)
  | 'A' => some (.look .textStart)
  | 'z' => some (.look .textEnd)
  | 'B' => some (.look (.word .notBoundary f.unicode))
  | '<' => some (.look (.word .start f.unicode))
  | '>' => some (.look (.word .stop f.unicode))
  | _ => none

def readEscape? (f : Flags) : List Char → Option (Primitive × List Char)
  | [] => none
  | c :: rest =>
    if isEscapable c then some (.literal c false, rest) else
    match c with
    | 'x' => readHex? f 2 rest
    | 'u' => readHex? f 4 rest
    | 'U' => readHex? f 8 rest
    | 'p' => readProperty? f false rest
    | 'P' => readProperty? f true rest
    | 'b' => readBoundary? f rest
    | _ =>
      match LetterClass.ofChar? c, LetterClass.ofChar? c.toLower with
      | some k, _ => (k.resolve? f false).map fun s => (.set s, rest)
      | none, some k => (k.resolve? f true).map fun s => (.set s, rest)
      | none, none => (simpleEscape? f c).map fun p => (p, rest)

/-- Reads a part that starts with a character other than those of groups, classes and repetitions. -/
def readPrimitive? (f : Flags) (c : Char) (rest : List Char) : Option (Primitive × List Char) :=
  match c with
  | '\\' => readEscape? f rest
  | '.' => some (.dot, rest)
  | '^' => some (.look f.caret, rest)
  | '$' => some (.look f.dollar, rest)
  | _ => some (.literal c false, rest)

def Primitive.expr? (f : Flags) : Primitive → Option Expr
  | literal c byte => (f.literal? c byte).map fun s => .chars s 0
  | set s => some (.chars s 0)
  | dot => f.dot?.map fun s => .chars s 0
  | look l => some (.look l)

end AlertRouting.Regex
