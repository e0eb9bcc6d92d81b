import AlertRouting.Proofs.NameMap.Lookup
import AlertRouting.Proofs.NameMap.Names
import Mathlib.Data.Finset.Card
import Mathlib.Data.Finset.Dedup

/-!
# The history of a map

However a map has come about, it has under a name what was written for this name last, and nothing
else tells it from other maps. So pairs with different names may be written in any order.
-/
namespace AlertRouting.NameMap

variable {β : Type} {m m' : NameMap β} {name n : String} {value : β} {pairs pairs' : List (String × β)}

/-! ## Maps as functions -/

theorem lookup_eq_none_of_lt {entries : List (String × β)} (h : ∀ e ∈ entries, n < e.1) :
    entries.lookup n = none := by
  induction entries with
  | nil => rfl
  | cons e rest ih =>
    obtain ⟨he, hrest⟩ := List.forall_mem_cons.mp h
    have hne : n ≠ e.1 := fun heq => by rw [← heq] at he; exact String.lt_irrefl n he
    rw [lookup_cons_eq, if_neg hne, ih hrest]

/-- The value that an entry replaces is the one that is found under its name. -/
theorem replaced?_eq_lookup {entries : List (String × β)} (h : Increasing entries) :
    replaced? n entries = entries.lookup n := by
  induction entries with
  | nil => rfl
  | cons e rest ih =>
    obtain ⟨he, hrest⟩ := List.pairwise_cons.mp h
    rw [replaced?]
    split_ifs with hlt heq
    · have hbefore : ∀ a ∈ e :: rest, n < a.1 :=
        List.forall_mem_cons.mpr ⟨hlt, fun a ha => String.lt_trans hlt (he a ha)⟩
      exact (lookup_eq_none_of_lt hbefore).symm
    · rw [lookup_cons_eq, if_pos heq]
    · rw [lookup_cons_eq, if_neg heq, ih hrest]

theorem exchange_eq : m.exchange name value = (m.get? name, m.insert name value) := by
  rw [exchange, replaced?_eq_lookup m.increasing, get?]

theorem lookup_eq_some_iff {entries : List (String × β)} (h : Increasing entries) :
    entries.lookup n = some value ↔ (n, value) ∈ entries := by
  induction entries with
  | nil => simp
  | cons e rest ih =>
    obtain ⟨he, hrest⟩ := List.pairwise_cons.mp h
    rw [lookup_cons_eq, List.mem_cons]
    by_cases hn : n = e.1
    · have hlater : (n, value) ∉ rest := fun hmem => String.lt_irrefl _ (hn ▸ he _ hmem)
      simp [hn, Prod.ext_iff, eq_comm, hn ▸ hlater]
    · rw [if_neg hn, ih hrest, or_iff_right]
      rintro rfl
      exact hn rfl

theorem get?_eq_some_iff : m.get? n = some value ↔ (n, value) ∈ m.entries :=
  lookup_eq_some_iff m.increasing

/-- A map is given by what it has under each name. -/
theorem eq_iff_get?_eq : m = m' ↔ ∀ n, m.get? n = m'.get? n := by
  refine ⟨fun h n => h ▸ rfl, fun h => ext_entries ?_⟩
  have hnodup (m : NameMap β) : m.entries.Nodup := m.nodup_names.of_map
  have hperm : m.entries.Perm m'.entries :=
    (List.perm_ext_iff_of_nodup (hnodup m) (hnodup m')).mpr fun e => by
      rw [← get?_eq_some_iff, ← get?_eq_some_iff, h]
  refine hperm.eq_of_pairwise (fun a b _ _ hab hba => ?_) m.increasing m'.increasing
  exact absurd (String.lt_trans hab hba) (String.lt_irrefl _)

/-! ## Maps of pairs -/

theorem ofList_concat : ofList (pairs ++ [(name, value)]) = (ofList pairs).insert name value := by
  simp [ofList]

/-- A map of pairs has under a name the value of the last pair with this name. -/
theorem get?_ofList : (ofList pairs).get? n = ((pairs.filter (·.1 = n)).getLast?).map (·.2) := by
  induction pairs using List.reverseRecOn with
  | nil => rfl
  | append_singleton pairs p ih =>
    rw [ofList_concat, get?_insert, ih, List.filter_append]
    by_cases hn : n = p.1
    · simp [hn]
    · simp [hn, Ne.symm hn]

theorem size_eq_card : m.size = m.names.toFinset.card := by
  rw [List.toFinset_card_of_nodup m.nodup_names, names, List.length_map, size]

/-- A map of pairs has as many entries as there are different names. -/
theorem size_ofList_eq_card : (ofList pairs).size = (pairs.map (·.1)).toFinset.card := by
  rw [size_eq_card]
  congr 1
  ext n
  simp only [List.mem_toFinset, mem_names_ofList]

/-- Pairs in another order, in which no two pairs with the same name have changed places. -/
inductive Reordered : List (String × β) → List (String × β) → Prop
  | refl (l : List (String × β)) : Reordered l l
  | cons {l l' : List (String × β)} (p : String × β) (h : Reordered l l') :
      Reordered (p :: l) (p :: l')
  | swap {p q : String × β} (l : List (String × β)) (h : p.1 ≠ q.1) :
      Reordered (p :: q :: l) (q :: p :: l)
  | trans {l l' l'' : List (String × β)} (h : Reordered l l') (h' : Reordered l' l'') :
      Reordered l l''

/-- Pairs with different names may be in any other order. -/
theorem Reordered.of_perm (h : pairs.Perm pairs') (hnames : (pairs.map (·.1)).Nodup) :
    Reordered pairs pairs' := by
  induction h with
  | nil => exact .refl []
  | cons p _ ih => exact .cons p (ih (List.nodup_cons.mp hnames).2)
  | swap p q pairs =>
    exact .swap pairs (List.ne_of_not_mem_cons (List.nodup_cons.mp hnames).1)
  | trans h _ ih ih' =>
    exact .trans (ih hnames) (ih' ((h.map Prod.fst).nodup_iff.mp hnames))

theorem Reordered.perm (h : Reordered pairs pairs') : pairs.Perm pairs' := by
  induction h with
  | refl l => exact .refl l
  | cons p _ ih => exact ih.cons p
  | swap l _ => exact .swap _ _ l
  | trans _ _ ih ih' => exact ih.trans ih'

theorem Reordered.append_left (before : List (String × β)) (h : Reordered pairs pairs') :
    Reordered (before ++ pairs) (before ++ pairs') := by
  induction before with
  | nil => exact h
  | cons p before ih => exact .cons p ih

theorem Reordered.append_right (h : Reordered pairs pairs') (after : List (String × β)) :
    Reordered (pairs ++ after) (pairs' ++ after) := by
  induction h with
  | refl pairs => exact .refl _
  | cons p _ ih => exact .cons p ih
  | swap pairs h => exact .swap _ h
  | trans _ _ ih ih' => exact ih.trans ih'

/-- The pairs with one name stay as they are. -/
theorem Reordered.filter_eq (h : Reordered pairs pairs') (n : String) :
    pairs.filter (·.1 = n) = pairs'.filter (·.1 = n) := by
  induction h with
  | refl pairs => rfl
  | cons p _ ih => rw [List.filter_cons, List.filter_cons, ih]
  | @swap p q pairs h =>
    by_cases hp : p.1 = n
    · have hq : q.1 ≠ n := fun hq => h (hp.trans hq.symm)
      simp [hp, hq]
    · simp [List.filter_cons, hp]
  | trans _ _ ih ih' => exact ih.trans ih'

theorem Reordered.ofList_eq (h : Reordered pairs pairs') : ofList pairs = ofList pairs' :=
  eq_iff_get?_eq.mpr fun n => by rw [get?_ofList, get?_ofList, h.filter_eq]

/-! ## Operations -/

inductive Operation (β : Type)
  /-- Begins anew. -/
  | new
  /-- Sets the value of a name, and gives back what it replaces. -/
  | insert (name : String) (value : β)
  /-- Sets the value of a name. -/
  | set (name : String) (value : β)
  /-- Begins anew with pairs. -/
  | collect (pairs : List (String × β))

/-- What an operation gives back, and the map after it. -/
def Operation.apply : Operation β → NameMap β → Option β × NameMap β
  | new, _ => (none, ∅)
  | insert name value, m => m.exchange name value
  | set name value, m => (none, m.insert name value)
  | collect pairs, _ => (none, ofList pairs)

def after (ops : List (Operation β)) : NameMap β := ops.foldl (fun m op => (op.apply m).2) ∅

/-- The pairs that are written with an operation, in addition to those that were before. -/
def Operation.write : Operation β → List (String × β) → List (String × β)
  | new, _ => []
  | insert name value, pairs | set name value, pairs => pairs ++ [(name, value)]
  | collect pairs, _ => pairs

/-- The pairs that are written with operations, since the last that began anew. -/
def written (ops : List (Operation β)) : List (String × β) :=
  ops.foldl (fun pairs op => op.write pairs) []

theorem Operation.apply_ofList (op : Operation β) (pairs : List (String × β)) :
    (op.apply (ofList pairs)).2 = ofList (op.write pairs) := by
  cases op with
  | new => rfl
  | insert name value => rw [apply, exchange_eq, write, ofList_concat]
  | set name value => rw [apply, write, ofList_concat]
  | collect pairs => rfl

/-- Operations make the map of the pairs that are written. -/
theorem after_eq (ops : List (Operation β)) : after ops = ofList (written ops) := by
  induction ops using List.reverseRecOn with
  | nil => rfl
  | append_singleton ops op ih =>
    have hafter : after (ops ++ [op]) = (op.apply (after ops)).2 := by simp [after]
    have hwritten : written (ops ++ [op]) = op.write (written ops) := by simp [written]
    rw [hafter, hwritten, ih, op.apply_ofList]

end AlertRouting.NameMap
