import AlertRouting.Duration
import AlertRouting.Labels
import AlertRouting.Yaml.Node

/-!
# Values in YAML

What is read from a node depends on what is asked for: any scalar is a text, and a place where nothing
is written is an empty collection. Following an alias is counted, so that a document in which aliases
multiply is refused.
-/
namespace AlertRouting.Yaml

/-- A reading counts the aliases followed, and may fail. -/
abbrev Decode (α : Type) := StateT Nat Option α

def maxNesting : Nat := 128

/-- Follows an alias. Their number is bounded by the size of the document. -/
def resolve (d : Document) (n : Node) : Decode Node :=
  match n with
  | .alias slot => do
    let followed := (← get) + 1
    if followed > 100 * d.size then failure
    set followed
    match d.target? slot with
    | some n => pure n
    | none => failure
  | n => pure n

def Node.isNothing : Node → Bool
  | .scalar _ text .plain => text.isEmpty
  | _ => false

def items (d : Document) (n : Node) : Decode (List Node) := do
  match (← resolve d n) with
  | .sequence items => pure items
  | n => if n.isNothing then pure [] else failure

def entries (d : Document) (n : Node) : Decode (List (Node × Node)) := do
  match (← resolve d n) with
  | .mapping entries => pure entries
  | n => if n.isNothing then pure [] else failure

/-- What stands one level deeper; with no level left, only nothing can. -/
def deeper {α : Type} (d : Document) (depth : Nat) (n : Node) (nothing : α) (read : Nat → Decode α) :
    Decode α := do
  match depth with
  | k + 1 => read k
  | 0 => if (← resolve d n).isNothing then pure nothing else failure

def text (d : Document) (n : Node) : Decode String := do
  match (← resolve d n) with
  | .scalar _ text _ => pure text
  | _ => failure

def nullTag : String := "tag:yaml.org,2002:null"

def boolTag : String := "tag:yaml.org,2002:bool"

def isNull (text : String) : Bool := ["null", "Null", "NULL", "~"].contains text

/-- Reads a value where null, or nothing, stands for none. -/
def optional {α : Type} (d : Document) (read : Node → Decode α) (n : Node) : Decode (Option α) := do
  let n ← resolve d n
  let present : Decode (Option α) := do return some (← read n)
  match n with
  | .scalar (some tag) text .plain =>
    if tag = nullTag then (if isNull text then pure none else failure) else present
  | .scalar none text .plain => if text.isEmpty || isNull text then pure none else present
  | _ => present

/-- Reads a truth value, which is plain, or has the tag of one and is literal. -/
def bool (d : Document) (n : Node) : Decode Bool := do
  match (← resolve d n) with
  | .scalar tag text style =>
    if style = .plain || (style = .literal && tag = some boolTag) then
      if ["true", "True", "TRUE"].contains text then pure true
      else if ["false", "False", "FALSE"].contains text then pure false
      else failure
    else failure
  | _ => failure

def duration (d : Document) (n : Node) : Decode Duration := do
  match Duration.ofText? (← text d n) with
  | some t => pure t
  | none => failure

def texts (d : Document) (depth : Nat) (n : Node) : Decode (List String) :=
  deeper d depth n [] fun _ => do (← items d n).mapM (text d)

/-- A mapping of texts, in which the last entry of a name counts. -/
def labels (d : Document) (depth : Nat) (n : Node) : Decode Labels :=
  deeper d depth n ∅ fun _ => do
    let pairs ← (← entries d n).mapM fun e => do return (← text d e.1, ← text d e.2)
    return NameMap.ofList pairs

def fields (d : Document) (n : Node) : Decode (List (String × Node)) := do
  (← entries d n).mapM fun e => do return (← text d e.1, e.2)

/-- The value of a field, unless it is missing. A field stands once at most. -/
def field (fields : List (String × Node)) (name : String) : Decode (Option Node) :=
  match fields.filter (·.1 = name) with
  | [] => pure none
  | [f] => pure (some f.2)
  | _ => failure

def required {α : Type} (fields : List (String × Node)) (name : String) (read : Node → Decode α) :
    Decode α := do
  match (← field fields name) with
  | some n => read n
  | none => failure

def withDefault {α : Type} (fields : List (String × Node)) (name : String) (missing : α)
    (read : Node → Decode α) : Decode α := do
  match (← field fields name) with
  | some n => read n
  | none => pure missing

def Document.read? {α : Type} (d : Document) (read : Node → Decode α) : Option α :=
  ((read d.root).run 0).map (·.1)

end AlertRouting.Yaml
