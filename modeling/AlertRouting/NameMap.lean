/-!
# Maps from names

A finite map is kept as the list of its entries in the order of names. The order of names is that of
their code points, which is also that of their UTF-8 bytes.
-/
namespace AlertRouting

/-- Entries in strictly increasing order of their names. -/
abbrev Increasing {β : Type} (entries : List (String × β)) : Prop :=
  entries.Pairwise fun a b => a.1 < b.1

structure NameMap (β : Type) where
  entries : List (String × β)
  increasing : Increasing entries
deriving DecidableEq

namespace NameMap
variable {β : Type}

instance : EmptyCollection (NameMap β) := ⟨⟨[], .nil⟩⟩

instance : Inhabited (NameMap β) := ⟨∅⟩

/-- Puts an entry in its place, in the place of one with the same name. -/
def put (name : String) (value : β) : List (String × β) → List (String × β)
  | [] => [(name, value)]
  | e :: rest =>
    if name < e.1 then (name, value) :: e :: rest
    else if name = e.1 then (name, value) :: rest
    else e :: put name value rest

theorem mem_put {name : String} {value : β} {e : String × β} {entries : List (String × β)} :
    e ∈ put name value entries → e = (name, value) ∨ e ∈ entries := by
  induction entries with
  | nil => simp [put]
  | cons a rest ih =>
    rw [put]
    split
    · simp
    · split
      · simp only [List.mem_cons]; exact fun h => h.imp id .inr
      · simp only [List.mem_cons]
        rintro (h | h)
        · exact .inr (.inl h)
        · exact (ih h).imp id .inr

theorem increasing_put {name : String} {value : β} {entries : List (String × β)}
    (h : Increasing entries) : Increasing (put name value entries) := by
  induction entries with
  | nil => simp [put, Increasing]
  | cons a rest ih =>
    obtain ⟨ha, hrest⟩ := List.pairwise_cons.1 h
    rw [put]
    split
    · next hlt =>
      refine List.pairwise_cons.2 ⟨fun b hb => ?_, h⟩
      rcases List.mem_cons.1 hb with rfl | hb
      · exact hlt
      · exact String.lt_trans hlt (ha b hb)
    · split
      · next heq => exact List.pairwise_cons.2 ⟨fun b hb => heq ▸ ha b hb, hrest⟩
      · next hlt hne =>
        refine List.pairwise_cons.2 ⟨fun b hb => ?_, ih hrest⟩
        rcases mem_put hb with rfl | hb
        · exact Std.lt_of_le_of_ne (String.not_lt.1 hlt) (Ne.symm hne)
        · exact ha b hb

def insert (m : NameMap β) (name : String) (value : β) : NameMap β :=
  ⟨put name value m.entries, increasing_put m.increasing⟩

/-- The value in the place where an entry with the name is put. -/
def replaced? (name : String) : List (String × β) → Option β
  | [] => none
  | e :: rest =>
    if name < e.1 then none else if name = e.1 then some e.2 else replaced? name rest

def exchange (m : NameMap β) (name : String) (value : β) : Option β × NameMap β :=
  (replaced? name m.entries, m.insert name value)

/-- The map of a list of pairs, in which the last pair of a name counts. -/
def ofList (pairs : List (String × β)) : NameMap β :=
  pairs.foldl (fun m p => m.insert p.1 p.2) ∅

def get? (m : NameMap β) (name : String) : Option β := m.entries.lookup name

def size (m : NameMap β) : Nat := m.entries.length

def isEmpty (m : NameMap β) : Bool := m.entries.isEmpty

def names (m : NameMap β) : List String := m.entries.map (·.1)

end NameMap

end AlertRouting
