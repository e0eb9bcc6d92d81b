import AlertRouting.Labels

/-!
# Names in maps

Which names a map has after an insertion, and which and how many a map has that is built from a list.
-/
namespace AlertRouting

namespace NameMap

variable {β : Type}

theorem ext_entries {m n : NameMap β} (h : m.entries = n.entries) : m = n := by
  cases m
  cases n
  cases h
  rfl

/-- The names of a map come in order, each once. -/
theorem pairwise_names (m : NameMap β) : m.names.Pairwise (· < ·) :=
  List.pairwise_map.mpr m.increasing

theorem nodup_names (m : NameMap β) : m.names.Nodup := by
  refine m.pairwise_names.imp fun hlt heq => ?_
  rw [heq] at hlt
  exact String.lt_irrefl _ hlt

theorem mem_map_put_iff {name n : String} {value : β} {entries : List (String × β)} :
    n ∈ (put name value entries).map (·.1) ↔ n = name ∨ n ∈ entries.map (·.1) := by
  induction entries with
  | nil => simp [put]
  | cons e rest ih =>
    rw [put]
    split
    · simp
    · split
      · next h => simp [h]
      · simp only [List.map_cons, List.mem_cons, ih]
        exact or_left_comm

@[simp] theorem mem_names_insert {m : NameMap β} {name n : String} {value : β} :
    n ∈ (m.insert name value).names ↔ n = name ∨ n ∈ m.names :=
  mem_map_put_iff

private theorem mem_names_foldl {pairs : List (String × β)} {m : NameMap β} {n : String} :
    n ∈ (pairs.foldl (fun m p => m.insert p.1 p.2) m).names ↔
      n ∈ pairs.map (·.1) ∨ n ∈ m.names := by
  induction pairs generalizing m with
  | nil => simp
  | cons p pairs ih =>
    rw [List.foldl_cons, ih, mem_names_insert, List.map_cons, List.mem_cons]
    exact or_left_comm.trans (or_assoc.symm)

/-- The names of a map built from a list are those of the list. -/
theorem mem_names_ofList {pairs : List (String × β)} {n : String} :
    n ∈ (ofList pairs).names ↔ n ∈ pairs.map (·.1) := by
  have hempty : n ∉ (∅ : NameMap β).names := List.not_mem_nil
  simp only [ofList, mem_names_foldl, hempty, or_false]

/-- A new name is put among the others, which stay. -/
theorem perm_put {name : String} {value : β} {entries : List (String × β)}
    (h : name ∉ entries.map (·.1)) : (put name value entries).Perm ((name, value) :: entries) := by
  induction entries with
  | nil => exact .refl _
  | cons e rest ih =>
    rw [List.map_cons, List.mem_cons, not_or] at h
    rw [put]
    split
    · exact .refl _
    · rw [if_neg h.1]
      exact ((ih h.2).cons e).trans (.swap _ _ _)

private theorem perm_foldl {pairs : List (String × β)} {m : NameMap β}
    (hnodup : (pairs.map (·.1)).Nodup) (hnew : ∀ n ∈ pairs.map (·.1), n ∉ m.names) :
    (pairs.foldl (fun m p => m.insert p.1 p.2) m).entries.Perm (m.entries ++ pairs) := by
  induction pairs generalizing m with
  | nil => simp
  | cons p pairs ih =>
    rw [List.map_cons] at hnodup hnew
    obtain ⟨hp, hpairs⟩ := List.nodup_cons.mp hnodup
    have hlater : ∀ n ∈ pairs.map (·.1), n ∉ (m.insert p.1 p.2).names := by
      intro n hn hmem
      rcases mem_names_insert.mp hmem with rfl | hmem
      · exact hp hn
      · exact hnew n (List.mem_cons_of_mem _ hn) hmem
    have hinsert : (m.insert p.1 p.2).entries.Perm (p :: m.entries) :=
      perm_put (hnew p.1 List.mem_cons_self)
    rw [List.foldl_cons]
    exact ((ih hpairs hlater).trans (hinsert.append_right pairs)).trans List.perm_middle.symm

/-- A map built from pairs of different names has these pairs as its entries. -/
theorem perm_ofList {pairs : List (String × β)} (h : (pairs.map (·.1)).Nodup) :
    (ofList pairs).entries.Perm pairs :=
  perm_foldl h fun _ _ => List.not_mem_nil

theorem size_ofList {pairs : List (String × β)} (h : (pairs.map (·.1)).Nodup) :
    (ofList pairs).size = pairs.length :=
  (perm_ofList h).length_eq

/-- A map is given by its entries, in any order. -/
theorem ext_perm {m n : NameMap β} (h : m.entries.Perm n.entries) : m = n := by
  refine ext_entries (h.eq_of_pairwise (fun a b _ _ hab hba => ?_) m.increasing n.increasing)
  exact absurd (String.lt_trans hab hba) (String.lt_irrefl _)

/-- A map is built from its entries, in any order. -/
theorem ofList_of_perm {pairs : List (String × β)} {m : NameMap β} (h : pairs.Perm m.entries) :
    ofList pairs = m := by
  have hnodup : (pairs.map (·.1)).Nodup :=
    (h.map Prod.fst).nodup_iff.mpr m.nodup_names
  exact ext_perm ((perm_ofList hnodup).trans h)

end NameMap

theorem NameSet.size_ofNames {names : List String} (h : names.Nodup) :
    (NameSet.ofNames names).size = names.length := by
  rw [NameSet.ofNames, NameMap.size_ofList, List.length_map]
  rw [List.map_map]
  exact (List.map_id names).symm ▸ h

theorem NameSet.mem_names_ofNames {names : List String} {n : String} :
    n ∈ (NameSet.ofNames names).names ↔ n ∈ names := by
  rw [NameSet.ofNames, NameMap.mem_names_ofList, List.map_map]
  simp

end AlertRouting
