import AlertRouting.Text.Basic

/-!
# Tokens of JSON

A text is a sequence of tokens with white space between them. A token is read to its end before the
next; a text with anything else in it has no tokens.
-/
namespace AlertRouting.Json

inductive Token
  | openArray | closeArray | openObject | closeObject | comma | colon
  | null
  | bool (b : Bool)
  | number (text : String)
  | string (s : String)
deriving DecidableEq, Repr

def isSpace (c : Char) : Bool := c = ' ' || c = '\t' || c = '\n' || c = '\r'

def isNumberChar (c : Char) : Bool :=
  c.isDigit || c = '-' || c = '+' || c = '.' || c = 'e' || c = 'E'

def isDigits (cs : List Char) : Bool := !cs.isEmpty && cs.all Char.isDigit

/-- An exponent, after its letter, may have a sign. -/
def isExponent (cs : List Char) : Bool :=
  match cs with
  | '+' :: rest => isDigits rest
  | '-' :: rest => isDigits rest
  | _ => isDigits cs

/-- A number: an optional sign, digits without a superfluous zero in front, then optionally a point
with digits, then optionally an exponent. -/
def isNumber (cs : List Char) : Bool :=
  let unsigned := if cs.head? = some '-' then cs.tail else cs
  let whole := unsigned.takeWhile Char.isDigit
  let rest := unsigned.dropWhile Char.isDigit
  let fraction := match rest with
    | '.' :: r => r.takeWhile Char.isDigit
    | _ => ['0']
  let last := match rest with
    | '.' :: r => r.dropWhile Char.isDigit
    | _ => rest
  isDigits whole && (whole.head? != some '0' || whole.length = 1) && isDigits fraction &&
    match last with
    | [] => true
    | c :: r => (c = 'e' || c = 'E') && isExponent r

def readUnit? : List Char → Option (Nat × List Char)
  | a :: b :: c :: d :: rest => (Text.hexNumber? [a, b, c, d]).map fun n => (n, rest)
  | _ => none

/-- A character given by a code unit or, beyond 16 bits, by a pair of surrogates. -/
def readUnits? (cs : List Char) : Option (Char × List Char) :=
  match readUnit? cs with
  | none => none
  | some (n, rest) =>
    if n < 0xd800 ∨ 0xdfff < n then some (Char.ofNat n, rest)
    else if 0xdc00 ≤ n then none
    else match rest with
      | '\\' :: 'u' :: rest =>
        match readUnit? rest with
        | none => none
        | some (low, rest) =>
          if 0xdc00 ≤ low ∧ low ≤ 0xdfff then
            some (Char.ofNat (0x10000 + (n - 0xd800) * 0x400 + (low - 0xdc00)), rest)
          else none
      | _ => none

def letterEscape? : Char → Option Char
  | '"' => some '"'
  | '\\' => some '\\'
  | '/' => some '/'
  | 'b' => some '\x08'
  | 'f' => some '\x0c'
  | 'n' => some '\n'
  | 'r' => some '\r'
  | 't' => some '\t'
  | _ => none

/-- One character of a string. A control character has to be escaped. -/
def readChar? : List Char → Option (Char × List Char)
  | '\\' :: 'u' :: rest => readUnits? rest
  | '\\' :: c :: rest => (letterEscape? c).map fun e => (e, rest)
  | c :: rest => if c.toNat < 0x20 ∨ c = '\\' then none else some (c, rest)
  | [] => none

theorem length_of_readUnit? {cs : List Char} {n : Nat} {rest : List Char}
    (h : readUnit? cs = some (n, rest)) : rest.length < cs.length := by
  unfold readUnit? at h
  split at h
  · simp only [Option.map_eq_some_iff, Prod.mk.injEq] at h
    obtain ⟨_, _, _, rfl⟩ := h
    simp only [List.length_cons]
    omega
  · simp at h

theorem length_of_readUnits? {cs : List Char} {c : Char} {rest : List Char}
    (h : readUnits? cs = some (c, rest)) : rest.length < cs.length := by
  unfold readUnits? at h
  split at h
  · simp at h
  · next n more hn =>
    have hmore := length_of_readUnit? hn
    split at h
    · cases h; exact hmore
    · split at h
      · simp at h
      · split at h
        · next tail =>
          split at h
          · simp at h
          · next low last hlow =>
            have hlast := length_of_readUnit? hlow
            split at h
            · obtain ⟨_, rfl⟩ := Prod.mk.inj (Option.some.inj h)
              simp only [List.length_cons] at hmore
              omega
            · simp at h
        · simp at h

theorem length_of_readChar? {cs : List Char} {c : Char} {rest : List Char}
    (h : readChar? cs = some (c, rest)) : rest.length < cs.length := by
  unfold readChar? at h
  split at h
  · have := length_of_readUnits? h
    simp only [List.length_cons]
    omega
  · simp only [Option.map_eq_some_iff, Prod.mk.injEq] at h
    obtain ⟨_, _, _, rfl⟩ := h
    simp only [List.length_cons]
    omega
  · split at h
    · simp at h
    · cases h; exact Nat.lt_succ_self _
  · simp at h

def readString? (cs : List Char) : Option (List Char × List Char) :=
  match cs with
  | '"' :: rest => some ([], rest)
  | cs =>
    match _h : readChar? cs with
    | none => none
    | some (c, rest) => (readString? rest).map fun s => (c :: s.1, s.2)
termination_by cs.length
decreasing_by exact length_of_readChar? _h

theorem length_of_readString? {cs s rest : List Char} (h : readString? cs = some (s, rest)) :
    rest.length < cs.length := by
  fun_induction readString? cs generalizing s rest with
  | case1 => cases h; exact Nat.lt_succ_self _
  | case2 => simp at h
  | case3 cs _ c more hc ih =>
    simp only [Option.map_eq_some_iff, Prod.mk.injEq] at h
    obtain ⟨⟨_, _⟩, hs, _, rfl⟩ := h
    exact Nat.lt_trans (ih hs) (length_of_readChar? hc)

def punctuation? : Char → Option Token
  | '[' => some .openArray
  | ']' => some .closeArray
  | '\x7b' => some .openObject
  | '\x7d' => some .closeObject
  | ',' => some .comma
  | ':' => some .colon
  | _ => none

def word? (cs : List Char) : Option Token :=
  match String.ofList cs with
  | "null" => some .null
  | "true" => some (.bool true)
  | "false" => some (.bool false)
  | _ => none

def tokens? (cs : List Char) : Option (List Token) :=
  match cs with
  | [] => some []
  | c :: rest =>
    if isSpace c then tokens? rest
    else if c = '"' then
      match _h : readString? rest with
      | none => none
      | some (s, rest) => (tokens? rest).map (.string (String.ofList s) :: ·)
    else if c.isAlpha then
      match word? (c :: rest.takeWhile Char.isAlpha) with
      | none => none
      | some t => (tokens? (rest.dropWhile Char.isAlpha)).map (t :: ·)
    else if isNumberChar c then
      let text := c :: rest.takeWhile isNumberChar
      if isNumber text then
        (tokens? (rest.dropWhile isNumberChar)).map (.number (String.ofList text) :: ·)
      else none
    else
      match punctuation? c with
      | none => none
      | some t => (tokens? rest).map (t :: ·)
termination_by cs.length
decreasing_by
  · exact Nat.lt_succ_self _
  · exact Nat.lt_succ_of_lt (length_of_readString? _h)
  · exact Nat.lt_succ_of_le (List.dropWhile_suffix _).length_le
  · exact Nat.lt_succ_of_le (List.dropWhile_suffix _).length_le
  · exact Nat.lt_succ_self _

end AlertRouting.Json
