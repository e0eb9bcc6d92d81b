import AlertRouting.Proofs.Forest.Nodes

/-!
# Searching a forest

A search meets each node before those inside it and stops at the first at which it finds something.
That is the node with the least path among all at which something would be found.
-/
namespace AlertRouting.Forest

variable {α β : Type} {f : Forest α} {p : α → Option β} {b : β}

/-- Before the node of a path in the list of nodes stand those of the paths before it. -/
theorem mem_front_iff {front later : List (List ℕ × α)} {path : List ℕ} {a : α}
    (h : f.nodes = front ++ (path, a) :: later) {n : List ℕ × α} :
    n ∈ front ↔ n ∈ f.nodes ∧ n.1 < path := by
  have hpairwise := f.pairwise_nodes
  rw [h, List.pairwise_append, List.pairwise_cons] at hpairwise
  obtain ⟨-, ⟨hlater, -⟩, hfront⟩ := hpairwise
  rw [h, List.mem_append, List.mem_cons]
  constructor
  · intro hn
    exact ⟨.inl hn, hfront n hn (path, a) List.mem_cons_self⟩
  · rintro ⟨hn | rfl | hn, hlt⟩
    · exact hn
    · exact absurd hlt (List.lt_irrefl _)
    · exact absurd hlt (List.lt_asymm (hlater n hn))

/-- A search finds what it finds at a node if it finds nothing at the nodes of earlier paths. -/
theorem findSome?_toList_eq_some_iff : f.toList.findSome? p = some b ↔
    ∃ path a below, f.get? path = some (a, below) ∧ p a = some b ∧
      ∀ earlier c inner, f.get? earlier = some (c, inner) → earlier < path → p c = none := by
  rw [toList, List.findSome?_map, List.findSome?_eq_some_iff]
  constructor
  · rintro ⟨front, ⟨path, a⟩, later, hnodes, ha, hfront⟩
    have hmem : (path, a) ∈ f.nodes := hnodes ▸ List.mem_append_right _ List.mem_cons_self
    obtain ⟨below, hbelow⟩ := mem_nodes_iff.mp hmem
    refine ⟨path, a, below, hbelow, ha, fun earlier c inner hc hlt => ?_⟩
    exact hfront (earlier, c) ((mem_front_iff hnodes).mpr ⟨mem_nodes_iff.mpr ⟨inner, hc⟩, hlt⟩)
  · rintro ⟨path, a, below, hbelow, ha, hearlier⟩
    obtain ⟨front, later, hnodes⟩ := List.append_of_mem (mem_nodes_iff.mpr ⟨below, hbelow⟩)
    refine ⟨front, (path, a), later, hnodes, ha, fun n hn => ?_⟩
    obtain ⟨hmem, hlt⟩ := (mem_front_iff hnodes).mp hn
    obtain ⟨inner, hinner⟩ := mem_nodes_iff.mp hmem
    exact hearlier n.1 n.2 inner hinner hlt

end AlertRouting.Forest
