import AlertRouting.NameMap

/-!
# Looking up names

What a map has under a name after an insertion. The insertion changes nothing under any other name.
-/
namespace AlertRouting.NameMap

variable {β : Type} {name n : String} {value : β}

theorem lookup_cons_eq (e : String × β) (rest : List (String × β)) :
    (e :: rest).lookup n = if n = e.1 then some e.2 else rest.lookup n := by
  rw [List.lookup_cons]
  by_cases hn : n = e.1
  · simp [hn]
  · simp [beq_false_of_ne hn, hn]

theorem lookup_put {entries : List (String × β)} :
    (put name value entries).lookup n = if n = name then some value else entries.lookup n := by
  induction entries with
  | nil => rw [put, lookup_cons_eq]
  | cons e rest ih =>
    rw [put]
    split
    · rw [lookup_cons_eq]
    · split
      · next heq =>
        rw [lookup_cons_eq, lookup_cons_eq, ← heq]
        by_cases hn : n = name
        · rw [if_pos hn, if_pos hn]
        · rw [if_neg hn, if_neg hn, if_neg hn]
      · next hne =>
        rw [lookup_cons_eq, lookup_cons_eq, ih]
        by_cases hn : n = name
        · have hother : n ≠ e.1 := fun h => hne (hn.symm.trans h)
          rw [if_neg hother, if_pos hn, if_pos hn]
        · rw [if_neg hn, if_neg hn]

theorem get?_insert {m : NameMap β} :
    (m.insert name value).get? n = if n = name then some value else m.get? n :=
  lookup_put

end AlertRouting.NameMap
