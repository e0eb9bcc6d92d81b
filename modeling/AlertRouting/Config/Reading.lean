import AlertRouting.Config.OfJson
import AlertRouting.Config.Validation
import AlertRouting.Yaml.Decode

/-!
# Reading a configuration

In YAML a configuration and a route are mappings. The fields are those of an object in JSON.
-/
namespace AlertRouting

open Yaml (Decode Document Node)

/-- Sets a field, other than the routes inside. -/
def Settings.setYaml (d : Document) (depth : Nat) (s : Settings) (name : String) (v : Node) :
    Decode Settings := do
  match name with
  | "send_to" => return { s with sendTo := ← Yaml.optional d (Yaml.text d) v }
  | "group_by" => return { s with groupBy := ← Yaml.texts d depth v }
  | "group_wait" => return { s with groupWait := ← Yaml.optional d (Yaml.duration d) v }
  | "group_interval" => return { s with groupInterval := ← Yaml.optional d (Yaml.duration d) v }
  | "repeat_interval" => return { s with repeatInterval := ← Yaml.optional d (Yaml.duration d) v }
  | "send_resolved" => return { s with sendResolved := ← Yaml.optional d (Yaml.bool d) v }
  | "match" => return { s with exact := ← Yaml.labels d depth v }
  | "match_re" => return { s with patterns := ← Yaml.labels d depth v }
  | "continue" => return { s with continues := ← Yaml.bool d v }
  | _ => failure

namespace Config

def ofTrees : List (Settings × Config) → Config
  | [] => .nil
  | (s, inner) :: rest => .node s inner (ofTrees rest)

mutual

def routesOfYaml (d : Document) : Nat → Node → Decode Config
  | 0, n => Yaml.deeper d 0 n .nil fun _ => failure
  | depth + 1, n => do return ofTrees (← (← Yaml.items d n).mapM fun r => routeOfYaml d depth r)

def routeOfYaml (d : Document) : Nat → Node → Decode (Settings × Config)
  | 0, n => Yaml.deeper d 0 n (.empty, .nil) fun _ => failure
  | depth + 1, n => do
    let fields ← Yaml.fields d n
    if !areFields Settings.fieldNames (fields.map (·.1)) then failure
    fields.foldlM (fun (s, inner) (name, v) => do
      if name = "routes" then return (s, ← routesOfYaml d depth v)
      else return (← s.setYaml d depth name v, inner)) (Settings.empty, Forest.nil)

end

def ofYamlNode (d : Document) (depth : Nat) (n : Node) : Decode Config :=
  Yaml.deeper d depth n .nil fun depth => do
    match (← Yaml.fields d n) with
    | [] => return .nil
    | [("routes", v)] => routesOfYaml d depth v
    | _ => failure

def ofYaml? (text : String) : Option Config :=
  match Yaml.documents? text with
  | some [] => some .nil
  | some [d] => d.read? (ofYamlNode d Yaml.maxNesting)
  | _ => none

end Config

inductive DocumentFormat
  | json | yaml
deriving DecidableEq, Repr

def Config.read (format : DocumentFormat) (text : String) : Except ConfigError Config :=
  let c := match format with
    | .json => Config.ofJson? text
    | .yaml => Config.ofYaml? text
  match c with
  | some c => .ok c
  | none => .error .unreadable

end AlertRouting
