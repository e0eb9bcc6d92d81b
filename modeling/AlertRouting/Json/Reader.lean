import AlertRouting.Json.Token

/-!
# Reading JSON

The reader goes over the tokens once. It keeps the arrays and objects that are still open on a stack,
and knows what may come next.
-/
namespace AlertRouting

/-- A value. The fields of an object keep their order and may repeat a name. A number keeps its
text. -/
inductive Json
  | null
  | bool (b : Bool)
  | number (text : String)
  | string (s : String)
  | array (items : List Json)
  | object (fields : List (String × Json))
deriving Inhabited, Repr

namespace Json

/-- An array or object that waits for a value; what was read last comes first. -/
inductive Frame
  | array (items : List Json)
  | object (fields : List (String × Json)) (name : String)

/-- What may come next, with what was read of the array or object at hand. -/
inductive Expected
  | value
  | firstItem
  | afterItem (items : List Json)
  | firstName
  | name (fields : List (String × Json))
  | colon (fields : List (String × Json)) (name : String)
  | afterField (fields : List (String × Json))
  | finish (v : Json)

structure State where
  frames : List Frame
  expected : Expected

def maxNesting : Nat := 127

namespace State

def put (v : Json) : List Frame → State
  | [] => ⟨[], .finish v⟩
  | .array items :: frames => ⟨frames, .afterItem (v :: items)⟩
  | .object fields name :: frames => ⟨frames, .afterField ((name, v) :: fields)⟩

def start? (frames : List Frame) (t : Token) : Option State :=
  match t with
  | .null => some (put .null frames)
  | .bool b => some (put (.bool b) frames)
  | .number text => some (put (.number text) frames)
  | .string s => some (put (.string s) frames)
  | .openArray => if frames.length < maxNesting then some ⟨frames, .firstItem⟩ else none
  | .openObject => if frames.length < maxNesting then some ⟨frames, .firstName⟩ else none
  | _ => none

def step? (s : State) (t : Token) : Option State :=
  match s.expected, t with
  | .value, t => start? s.frames t
  | .firstItem, .closeArray => some (put (.array []) s.frames)
  | .firstItem, t => start? (.array [] :: s.frames) t
  | .afterItem items, .comma => some ⟨.array items :: s.frames, .value⟩
  | .afterItem items, .closeArray => some (put (.array items.reverse) s.frames)
  | .firstName, .closeObject => some (put (.object []) s.frames)
  | .firstName, .string name => some ⟨s.frames, .colon [] name⟩
  | .name fields, .string name => some ⟨s.frames, .colon fields name⟩
  | .colon fields name, .colon => some ⟨.object fields name :: s.frames, .value⟩
  | .afterField fields, .comma => some ⟨s.frames, .name fields⟩
  | .afterField fields, .closeObject => some (put (.object fields.reverse) s.frames)
  | _, _ => none

def run? : State → List Token → Option State
  | s, [] => some s
  | s, t :: rest => (s.step? t).bind fun s => run? s rest

end State

def parse? (text : String) : Option Json := do
  let s ← State.run? ⟨[], .value⟩ (← tokens? text.toList)
  match s.expected with
  | .finish v => some v
  | _ => none

end Json

end AlertRouting
