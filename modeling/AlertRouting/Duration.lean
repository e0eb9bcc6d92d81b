import AlertRouting.Text.Basic

/-!
# Durations

A duration is a number of nanoseconds. It is written and read as a sum of amounts of units, such as
`1h 30m`, and shown in one unit as a decimal, such as `1.5ms`.
-/
namespace AlertRouting

structure Duration where
  nanos : Nat
deriving DecidableEq, Repr, Inhabited

namespace Duration

def ofSeconds (n : Nat) : Duration := ⟨n * 1000000000⟩

def zero : Duration := ⟨0⟩

def seconds (d : Duration) : Nat := d.nanos / 1000000000

/-- Nanoseconds beyond the whole seconds. -/
def subsec (d : Duration) : Nat := d.nanos % 1000000000

end Duration

/-- Units of time. A month is a twelfth of a year, and a year has 365.25 days. -/
inductive TimeUnit
  | nanosecond | microsecond | millisecond | second | minute | hour | day | week | month | year
deriving DecidableEq, Repr

namespace TimeUnit

def nanos : TimeUnit → Nat
  | nanosecond => 1
  | microsecond => 1000
  | millisecond => 1000000
  | second => 1000000000
  | minute => 60 * 1000000000
  | hour => 3600 * 1000000000
  | day => 86400 * 1000000000
  | week => 7 * 86400 * 1000000000
  | month => 2630016 * 1000000000
  | year => 31557600 * 1000000000

/-- The names by which a unit may be read. -/
def names : TimeUnit → List String
  | nanosecond => ["nanos", "nsec", "ns"]
  | microsecond => ["usec", "us", "µs"]
  | millisecond => ["millis", "msec", "ms"]
  | second => ["seconds", "second", "secs", "sec", "s"]
  | minute => ["minutes", "minute", "mins", "min", "m"]
  | hour => ["hours", "hour", "hrs", "hr", "h"]
  | day => ["days", "day", "d"]
  | week => ["weeks", "week", "wks", "wk", "w"]
  | month => ["months", "month", "M"]
  | year => ["years", "year", "yrs", "yr", "y"]

def all : List TimeUnit :=
  [nanosecond, microsecond, millisecond, second, minute, hour, day, week, month, year]

def ofName? (name : String) : Option TimeUnit := all.find? fun u => u.names.contains name

/-- What a whole number of the unit is counted in: nanoseconds below the second, else seconds. -/
def grain (u : TimeUnit) : Nat := if u.nanos < second.nanos then 1 else second.nanos

/-- What a fraction of the unit has to come out in: nanoseconds up to the minute, else seconds. -/
def fractionGrain (u : TimeUnit) : Nat := if u.nanos ≤ minute.nanos then 1 else second.nanos

end TimeUnit

namespace Duration

/-- Counts stay below this bound, those of seconds and those of nanoseconds alike. -/
def countBound : Nat := Nat.pow 2 64

def number (digits : List Char) : Nat := digits.foldl (fun n c => 10 * n + (c.toNat - 48)) 0

def add? (d : Duration) (grain count : Nat) : Option Duration :=
  if count < countBound ∧ (grain = 1 → d.subsec + count < countBound)
      ∧ (d.nanos + grain * count) / 1000000000 < countBound then
    some ⟨d.nanos + grain * count⟩
  else none

/-- Adds an amount of a unit: a whole number, and the digits after the point if there is one. A
fraction has to come out even, and there is none of a nanosecond. -/
def addAmount? (d : Duration) (u : TimeUnit) (whole : Nat) (fraction : Option (List Char)) :
    Option Duration := do
  if whole ≥ countBound then failure
  let d ← d.add? u.grain (whole * (u.nanos / u.grain))
  match fraction with
  | none => some d
  | some digits =>
    let numerator := number digits * (u.nanos / u.fractionGrain)
    let denominator := Nat.pow 10 digits.length
    if u = .nanosecond ∨ digits = [] ∨ denominator ≥ countBound ∨ numerator ≥ countBound
        ∨ numerator % denominator ≠ 0 then none
    else d.add? u.fractionGrain (numerator / denominator)

/-- Digits may have blanks between them. -/
def isDigitOrBlank (c : Char) : Bool := c.isDigit || Text.isBlank c

def isUnitChar (c : Char) : Bool := c.isAlpha || c = 'µ'

/-- The digits after a leading point, if there is one, and what follows them. -/
def splitFraction : List Char → Option (List Char) × List Char
  | '.' :: r => (some ((r.takeWhile isDigitOrBlank).filter Char.isDigit), r.dropWhile isDigitOrBlank)
  | cs => (none, cs)

theorem length_dropWhile_le (p : Char → Bool) (cs : List Char) :
    (cs.dropWhile p).length ≤ cs.length := (List.dropWhile_suffix p).length_le

theorem length_splitFraction_le (cs : List Char) : (splitFraction cs).2.length ≤ cs.length := by
  unfold splitFraction
  split
  · exact Nat.le_succ_of_le (length_dropWhile_le _ _)
  · exact Nat.le_refl _

/-- Reads amounts up to the end of the text and adds them up. -/
def readAmounts (d : Duration) (cs : List Char) : Option Duration :=
  match cs with
  | [] => some d
  | c :: rest =>
    if !c.isDigit then none else
    let whole := number (c :: (rest.takeWhile isDigitOrBlank).filter Char.isDigit)
    let fraction := splitFraction (rest.dropWhile isDigitOrBlank)
    match TimeUnit.ofName? (String.ofList (fraction.2.takeWhile isUnitChar)) with
    | none => none
    | some u =>
      match d.addAmount? u whole fraction.1 with
      | none => none
      | some d => d.readAmounts ((fraction.2.dropWhile isUnitChar).dropWhile Text.isBlank)
termination_by cs.length
decreasing_by
  have h₁ := length_dropWhile_le Text.isBlank
    ((splitFraction (rest.dropWhile isDigitOrBlank)).2.dropWhile isUnitChar)
  have h₂ := length_dropWhile_le isUnitChar (splitFraction (rest.dropWhile isDigitOrBlank)).2
  have h₃ := length_splitFraction_le (rest.dropWhile isDigitOrBlank)
  have h₄ := length_dropWhile_le isDigitOrBlank rest
  rw [List.length_cons]
  omega

def ofText? (text : String) : Option Duration :=
  if text = "0" then some zero
  else match text.toList.dropWhile Text.isBlank with
    | [] => none
    | c :: rest => readAmounts zero (c :: rest)

/-- An amount with the name of its unit, unless it is zero. -/
def amount (n : Nat) (unit : String) : List String := if n = 0 then [] else [toString n ++ unit]

/-- An amount with the name of its unit, which takes an s in the plural. -/
def pluralAmount (n : Nat) (unit : String) : List String :=
  amount n (if n = 1 then unit else unit ++ "s")

def amounts (d : Duration) : List String :=
  let inYear := d.seconds % 31557600
  let inMonth := inYear % 2630016
  let inDay := inMonth % 86400
  pluralAmount (d.seconds / 31557600) "year" ++ pluralAmount (inYear / 2630016) "month"
    ++ pluralAmount (inMonth / 86400) "day" ++ amount (inDay / 3600) "h"
    ++ amount (inDay % 3600 / 60) "m" ++ amount (inDay % 60) "s"
    ++ amount (d.subsec / 1000000) "ms" ++ amount (d.subsec / 1000 % 1000) "us"
    ++ amount (d.subsec % 1000) "ns"

def text (d : Duration) : String := if d.nanos = 0 then "0s" else " ".intercalate d.amounts

/-- A number with `places` decimal places, without zeros at the end. -/
def decimal (whole fraction places : Nat) : String :=
  let digits := (Nat.toDigits 10 (Nat.pow 10 places + fraction)).drop 1
  let kept := (digits.reverse.dropWhile (· = '0')).reverse
  toString whole ++ (if kept = [] then "" else String.ofList ('.' :: kept))

/-- The duration as a decimal in the largest unit up to the second that it reaches. -/
def decimalText (d : Duration) : String :=
  if d.seconds > 0 then decimal d.seconds d.subsec 9 ++ "s"
  else if d.subsec ≥ 1000000 then decimal (d.subsec / 1000000) (d.subsec % 1000000) 6 ++ "ms"
  else if d.subsec ≥ 1000 then decimal (d.subsec / 1000) (d.subsec % 1000) 3 ++ "µs"
  else toString d.subsec ++ "ns"

end Duration

end AlertRouting
