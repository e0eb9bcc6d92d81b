import AlertRouting.Config.Basic
import AlertRouting.Json.Reader

/-!
# Configurations in JSON

A configuration and a route are objects, or arrays of their fields in a fixed order. A field that is
left out is as if nothing were written for it. No other field is allowed, and none twice.
-/
namespace AlertRouting

namespace Json

def string? : Json → Option String
  | string s => some s
  | _ => none

def bool? : Json → Option Bool
  | bool b => some b
  | _ => none

/-- Reads a value where null stands for none. -/
def optional? {α : Type} (read : Json → Option α) : Json → Option (Option α)
  | null => some none
  | j => (read j).map some

def duration? (j : Json) : Option Duration := j.string?.bind Duration.ofText?

def strings? : Json → Option (List String)
  | array items => items.mapM string?
  | _ => none

def stringField? (f : String × Json) : Option (String × String) :=
  f.2.string?.map fun s => (f.1, s)

/-- An object of strings, in which the last field of a name counts. -/
def labels? : Json → Option Labels
  | object fields => (fields.mapM stringField?).map NameMap.ofList
  | _ => none

end Json

def Settings.fieldNames : List String :=
  ["send_to", "group_by", "group_wait", "group_interval", "repeat_interval", "send_resolved",
    "match", "match_re", "continue", "routes"]

/-- Sets a field, other than the routes inside. -/
def Settings.setJson? (s : Settings) (name : String) (v : Json) : Option Settings :=
  match name with
  | "send_to" => (v.optional? Json.string?).map fun x => { s with sendTo := x }
  | "group_by" => v.strings?.map fun x => { s with groupBy := x }
  | "group_wait" => (v.optional? Json.duration?).map fun x => { s with groupWait := x }
  | "group_interval" => (v.optional? Json.duration?).map fun x => { s with groupInterval := x }
  | "repeat_interval" => (v.optional? Json.duration?).map fun x => { s with repeatInterval := x }
  | "send_resolved" => (v.optional? Json.bool?).map fun x => { s with sendResolved := x }
  | "match" => v.labels?.map fun x => { s with exact := x }
  | "match_re" => v.labels?.map fun x => { s with patterns := x }
  | "continue" => v.bool?.map fun x => { s with continues := x }
  | _ => none

/-- Are these names of fields, each at most once? -/
def areFields (known names : List String) : Bool :=
  names.Nodup && names.all fun n => known.contains n

namespace Config

mutual

def routeOfJson? : Json → Option (Settings × Config)
  | .object fields =>
    if areFields Settings.fieldNames (fields.map (·.1)) then fieldsOfJson? fields else none
  | .array items => itemsOfJson? Settings.fieldNames items
  | _ => none

def fieldsOfJson? : List (String × Json) → Option (Settings × Config)
  | [] => some (.empty, .nil)
  | (name, v) :: rest => do
    let (s, inner) ← fieldsOfJson? rest
    if name = "routes" then some (s, ← routesOfJson? v) else some (← s.setJson? name v, inner)

/-- Reads the fields that stand in an array, given their names. -/
def itemsOfJson? : List String → List Json → Option (Settings × Config)
  | _, [] => some (.empty, .nil)
  | [], _ :: _ => none
  | name :: names, v :: rest => do
    let (s, inner) ← itemsOfJson? names rest
    if name = "routes" then some (s, ← routesOfJson? v) else some (← s.setJson? name v, inner)

def routesOfJson? : Json → Option Config
  | .array items => levelOfJson? items
  | _ => none

def levelOfJson? : List Json → Option Config
  | [] => some .nil
  | j :: rest => do
    let (s, inner) ← routeOfJson? j
    some (.node s inner (← levelOfJson? rest))

end

def ofJsonValue? : Json → Option Config
  | .object [] => some .nil
  | .object [("routes", v)] => routesOfJson? v
  | .array [] => some .nil
  | .array [v] => routesOfJson? v
  | _ => none

def ofJson? (text : String) : Option Config := (Json.parse? text).bind ofJsonValue?

end Config

end AlertRouting
