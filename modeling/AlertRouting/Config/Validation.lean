import AlertRouting.Config.Basic
import AlertRouting.Matcher

/-!
# Validation

A configuration is checked route by route, each before the routes inside it. The first fault found is
reported with the place of its route.
-/
namespace AlertRouting

def maxDepth : Nat := 32

/-- Patterns may not be longer, in bytes. -/
def maxPatternSize : Nat := 4096

inductive NameField
  | exact | patterns | groupBy
deriving DecidableEq, Repr

def NameField.text : NameField → String
  | exact => "match"
  | patterns => "match_re"
  | groupBy => "group_by"

inductive IntervalField
  | groupInterval | repeatInterval
deriving DecidableEq, Repr

def IntervalField.text : IntervalField → String
  | groupInterval => "group_interval"
  | repeatInterval => "repeat_interval"

inductive PatternFault
  | tooLong (size : Nat)
  | malformed
deriving DecidableEq, Repr

def PatternFault.message : PatternFault → String
  | tooLong size =>
    "pattern length is " ++ toString size ++ ", but maximum allowed is " ++ toString maxPatternSize
  | malformed => reason

inductive ConfigError
  /-- The document is not one of a configuration. -/
  | unreadable
  | invalidLabelName (name : String) (field : NameField) (place : Location)
  | invalidRegex (pattern label : String) (place : Location) (fault : PatternFault)
  | duplicateGroupBy (name : String) (place : Location)
  | zeroInterval (field : IntervalField) (place : Location)
  | depthExceeded (depth : Nat)
  /-- The tree could not be built. -/
  | build (e : BadPattern)
deriving DecidableEq, Repr

def ConfigError.message : ConfigError → String
  | unreadable => "invalid config: " ++ reason
  | invalidLabelName name field place =>
    "invalid label name \"" ++ name ++ "\" in " ++ field.text ++ " at " ++ place.text
  | invalidRegex pattern label place fault =>
    "invalid regex \"" ++ pattern ++ "\" for label \"" ++ label ++ "\" at " ++ place.text ++ ": "
      ++ fault.message
  | duplicateGroupBy name place =>
    "duplicate label \"" ++ name ++ "\" in group_by at " ++ place.text
  | zeroInterval field place => field.text ++ " must be greater than zero at " ++ place.text
  | depthExceeded depth =>
    "route nesting depth is " ++ toString depth ++ ", but maximum allowed is " ++ toString maxDepth
      ++ ", flatten your routing tree"
  | build e => e.message

abbrev Check := Except ConfigError Unit

def checkName (name : String) (field : NameField) (place : Location) : Check :=
  if isLabelName name then .ok () else .error (.invalidLabelName name field place)

def patternFault? [Regex.SizeLimit] (pattern : String) : Option PatternFault :=
  if pattern.utf8ByteSize > maxPatternSize then some (.tooLong pattern.utf8ByteSize)
  else if (Pattern.ofText? pattern).isNone then some .malformed
  else none

def checkExact (place : Location) : List (String × String) → Check
  | [] => .ok ()
  | e :: rest => do
    checkName e.1 .exact place
    checkExact place rest

def checkPatterns [Regex.SizeLimit] (place : Location) : List (String × String) → Check
  | [] => .ok ()
  | e :: rest => do
    checkName e.1 .patterns place
    match patternFault? e.2 with
    | some fault => .error (.invalidRegex e.2 e.1 place fault)
    | none => checkPatterns place rest

/-- Checks the grouping, of which some names have been seen. -/
def checkGroupBy (place : Location) (seen : List String) : List String → Check
  | [] => .ok ()
  | name :: rest => do
    checkName name .groupBy place
    if seen.contains name then .error (.duplicateGroupBy name place)
    else checkGroupBy place (name :: seen) rest

def checkInterval (field : IntervalField) (place : Location) (d : Option Duration) : Check :=
  if d = some .zero then .error (.zeroInterval field place) else .ok ()

/-- Checks a route, but not the routes inside it. -/
def Settings.check [Regex.SizeLimit] (s : Settings) (place : Location) : Check := do
  checkExact place s.exact.entries
  checkPatterns place s.patterns.entries
  checkGroupBy place [] s.groupBy
  checkInterval .groupInterval place s.groupInterval
  checkInterval .repeatInterval place s.repeatInterval

def checkDepth (depth : Nat) : Check :=
  if depth > maxDepth then .error (.depthExceeded depth) else .ok ()

namespace Config

/-- Checks the routes of one level from the `i`-th on, with the routes inside them. -/
def checkFrom [Regex.SizeLimit] (place : Nat → Location) : Nat → Config → Check
  | _, .nil => .ok ()
  | i, .node s children rest => do
    s.check (place i)
    checkFrom (.inside (place i)) 0 children
    checkFrom place (i + 1) rest

def validate [Regex.SizeLimit] (c : Config) : Check := do
  checkDepth c.depth
  checkFrom .top 0 c

end Config

def Settings.validate [Regex.SizeLimit] (s : Settings) (children : Config) : Check := do
  checkDepth (children.depth + 1)
  s.check .route
  Config.checkFrom (.inside .route) 0 children

end AlertRouting
