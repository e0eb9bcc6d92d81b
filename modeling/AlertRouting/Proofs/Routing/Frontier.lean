import AlertRouting.Proofs.Forest.Paths
import AlertRouting.Proofs.Routing.Visit

/-!
# The routes at which an alert stops

A route contributes to an alert if the alert gets down to it and stops there. Matching is defined by
a walk that asks whether something was found; contribution is defined by the gates on whole paths.
The policies found are those of the contributing routes, in the order of their paths.
-/
namespace AlertRouting

open Forest

namespace Routes

def policyAt? (routes : Routes) (path : List ℕ) : Option Policy :=
  (routes.get? path).map fun t => t.1.policy

/-- The alert gets down to the route at the path, and stops there. -/
structure Contributes (routes : Routes) (labels : Labels) (path : List ℕ) : Prop where
  located : (routes.get? path).isSome
  /-- The gates on the way down all hold. -/
  entered : ∀ outer, outer <+: path → ∀ t, routes.get? outer = some t → t.1.gate.holds labels
  /-- On no level does an earlier route keep the alert. -/
  reached : ∀ outer i, outer ++ [i] <+: path →
    ∀ j < i, ∀ t, routes.get? (outer ++ [j]) = some t → ¬ t.1.Keeps labels
  /-- No route just inside takes the alert. -/
  stops : ∀ j t, routes.get? (path ++ [j]) = some t → t.1.gate.holds labels = false

variable {labels : Labels} {r : Route} {children rest : Routes}

theorem not_contributes_nil_path {routes : Routes} : ¬ routes.Contributes labels [] :=
  fun h => by simpa using h.located

theorem contributes_zero :
    Contributes (.node r children rest) labels [0] ↔
      r.gate.holds labels ∧ ∀ t ∈ children.trees, t.1.gate.holds labels = false := by
  constructor
  · intro h
    refine ⟨h.entered [0] List.prefix_rfl (r, children) rfl, fun t ht => ?_⟩
    obtain ⟨j, hj⟩ := (mem_trees_iff children t).mp ht
    exact h.stops j t hj
  · rintro ⟨hr, hc⟩
    refine ⟨rfl, ?_, ?_, fun j t ht => hc t ((mem_trees_iff children t).mpr ⟨j, ht⟩)⟩
    · intro outer ho t ht
      rcases List.prefix_cons_iff.mp ho with rfl | ⟨p, rfl, hp⟩
      · simp at ht
      · obtain rfl := List.prefix_nil.mp hp
        cases ht
        exact hr
    · intro outer i ho j hj
      have hl := ho.length_le
      obtain rfl : outer = [] := List.eq_nil_of_length_eq_zero (by simpa using hl)
      obtain rfl : i = 0 := by simpa using ho
      omega

theorem contributes_zero_cons {i : ℕ} {path : List ℕ} :
    Contributes (.node r children rest) labels (0 :: i :: path) ↔
      r.gate.holds labels ∧ children.Contributes labels (i :: path) := by
  constructor
  · intro h
    refine ⟨h.entered [0] (by simp) (r, children) rfl, h.located, ?_, ?_, h.stops⟩
    · intro outer ho t ht
      cases outer with
      | nil => simp at ht
      | cons k outer => exact h.entered (0 :: k :: outer) (by simpa using ho) t ht
    · intro outer k ho j hj t ht
      refine h.reached (0 :: outer) k (by simpa using ho) j hj t ?_
      cases outer <;> exact ht
  · rintro ⟨hr, hc⟩
    refine ⟨hc.located, ?_, ?_, hc.stops⟩
    · intro outer ho t ht
      rcases List.prefix_cons_iff.mp ho with rfl | ⟨p, rfl, hp⟩
      · simp at ht
      · cases p with
        | nil => cases ht; exact hr
        | cons k p => exact hc.entered (k :: p) hp t ht
    · intro outer k ho j hj t ht
      cases outer with
      | nil => simp at ho; omega
      | cons n outer =>
        obtain ⟨rfl, hk⟩ := List.cons_prefix_cons.mp ho
        refine hc.reached outer k hk j hj t ?_
        cases outer <;> exact ht

theorem contributes_succ {i : ℕ} {path : List ℕ} :
    Contributes (.node r children rest) labels ((i + 1) :: path) ↔
      ¬ r.Keeps labels ∧ rest.Contributes labels (i :: path) := by
  constructor
  · intro h
    have hkeeps := h.reached [] (i + 1) (by simp) 0 (by omega) (r, children) rfl
    refine ⟨hkeeps, h.located, ?_, ?_, h.stops⟩
    · intro outer ho t ht
      rcases List.prefix_cons_iff.mp ho with rfl | ⟨p, rfl, hp⟩
      · simp at ht
      · exact h.entered ((i + 1) :: p) (by simpa using hp) t ht
    · intro outer k ho j hj t ht
      cases outer with
      | nil =>
        obtain rfl : k = i := by simpa using ho
        exact h.reached [] (k + 1) (by simp) (j + 1) (by omega) t ht
      | cons n outer =>
        obtain ⟨rfl, hk⟩ := List.cons_prefix_cons.mp ho
        exact h.reached ((n + 1) :: outer) k (by simpa using hk) j hj t ht
  · rintro ⟨hr, hc⟩
    refine ⟨hc.located, ?_, ?_, hc.stops⟩
    · intro outer ho t ht
      rcases List.prefix_cons_iff.mp ho with rfl | ⟨p, rfl, hp⟩
      · simp at ht
      · exact hc.entered (i :: p) (by simpa using hp) t ht
    · intro outer k ho j hj t ht
      cases outer with
      | nil =>
        obtain rfl : k = i + 1 := by simpa using ho
        cases j with
        | zero => cases ht; exact hr
        | succ j => exact hc.reached [] i (by simp) j (by omega) t ht
      | cons n outer =>
        obtain ⟨rfl, hk⟩ := List.cons_prefix_cons.mp ho
        exact hc.reached (i :: outer) k (by simpa using hk) j hj t ht

def pastFirst : List ℕ → List ℕ
  | [] => []
  | i :: path => (i + 1) :: path

/-- The paths in the first tree: those below its root, or the root if there are none. -/
def inFirst (inner : List (List ℕ)) : List (List ℕ) :=
  if inner = [] then [[0]] else inner.map (0 :: ·)

/-- The paths of the contributing routes, found on the way that matching takes. -/
def frontier (labels : Labels) : Routes → List (List ℕ)
  | .nil => []
  | .node r children rest =>
    let later := (frontier labels rest).map pastFirst
    if !r.gate.holds labels then later
    else if r.continues then inFirst (frontier labels children) ++ later
    else inFirst (frontier labels children)

theorem pastFirst_eq_succ_iff {q path : List ℕ} {i : ℕ} :
    pastFirst q = (i + 1) :: path ↔ q = i :: path := by
  cases q <;> simp [pastFirst]

theorem pastFirst_ne_zero (q path : List ℕ) : pastFirst q ≠ 0 :: path := by
  cases q <;> simp [pastFirst]

theorem pastFirst_eq_nil_iff {q : List ℕ} : pastFirst q = [] ↔ q = [] := by
  cases q <;> simp [pastFirst]

theorem exists_of_mem_inFirst {inner : List (List ℕ)} {path : List ℕ} (h : path ∈ inFirst inner) :
    ∃ p, path = 0 :: p := by
  unfold inFirst at h
  split_ifs at h
  · exact ⟨[], List.mem_singleton.mp h⟩
  · obtain ⟨p, -, rfl⟩ := List.mem_map.mp h
    exact ⟨p, rfl⟩

theorem zero_mem_inFirst_iff {inner : List (List ℕ)} (h : [] ∉ inner) :
    [0] ∈ inFirst inner ↔ inner = [] := by
  unfold inFirst
  split_ifs with hi <;> simp [hi, h]

theorem zero_cons_mem_inFirst_iff {inner : List (List ℕ)} {i : ℕ} {path : List ℕ} :
    0 :: i :: path ∈ inFirst inner ↔ i :: path ∈ inner := by
  unfold inFirst
  split_ifs with hi <;> simp [hi]

theorem frontier_of_not_holds (h : r.gate.holds labels = false) :
    frontier labels (.node r children rest) = (frontier labels rest).map pastFirst := by
  simp [frontier, h]

theorem frontier_of_holds (h : r.gate.holds labels = true) :
    frontier labels (.node r children rest) = inFirst (frontier labels children) ++
      if r.continues then (frontier labels rest).map pastFirst else [] := by
  by_cases hk : r.continues <;> simp [frontier, h, hk]

theorem nil_notMem_frontier (routes : Routes) : [] ∉ frontier labels routes := by
  induction routes with
  | nil => simp [frontier]
  | node r children rest _ ih =>
    have hlater : [] ∉ (frontier labels rest).map pastFirst := by
      simpa [pastFirst_eq_nil_iff] using ih
    have hfirst : [] ∉ inFirst (frontier labels children) := fun h => by
      simpa using exists_of_mem_inFirst h
    simp only [frontier]
    split_ifs <;> simp [hlater, hfirst]

theorem policyAt?_pastFirst (path : List ℕ) :
    policyAt? (.node r children rest) (pastFirst path) = rest.policyAt? path := by
  cases path <;> simp [pastFirst, policyAt?]

/-- What the walk finds below a route, or else the route, is what stands at the paths of the first
tree. -/
theorem map_policyAt?_inFirst {inner : List (List ℕ)} (h : [] ∉ inner) :
    (inFirst inner).map (policyAt? (.node r children rest)) =
      if inner = [] then [some r.policy] else inner.map children.policyAt? := by
  unfold inFirst
  split_ifs
  · rfl
  · rw [List.map_map]
    refine List.map_congr_left fun path hp => ?_
    cases path with
    | nil => exact absurd hp h
    | cons i path => rfl

/-- The walk finds the policies of the frontier. -/
theorem map_some_visit (routes : Routes) :
    (visit labels routes).result.map some = (frontier labels routes).map routes.policyAt? := by
  induction routes with
  | nil => rfl
  | node r children rest ihc ihr =>
    have hlater : ((frontier labels rest).map pastFirst).map (policyAt? (.node r children rest)) =
        (visit labels rest).result.map some := by
      rw [ihr, List.map_map]
      exact List.map_congr_left fun path _ => policyAt?_pastFirst path
    have hfirst : (inFirst (frontier labels children)).map (policyAt? (.node r children rest)) =
        (r.taken (visit labels children).result).map some := by
      rw [map_policyAt?_inFirst (nil_notMem_frontier children), Route.taken, ← ihc]
      have hnil : (visit labels children).result = [] ↔ frontier labels children = [] := by
        rw [← List.map_eq_nil_iff (f := some), ihc, List.map_eq_nil_iff]
      by_cases hi : (visit labels children).result = []
      · rw [if_pos hi, if_pos (hnil.mp hi), List.map_singleton]
      · rw [if_neg hi, if_neg (hi ∘ hnil.mpr)]
    by_cases hr : r.gate.holds labels
    · rw [visit_of_holds hr, frontier_of_holds hr, List.map_append, List.map_append, hfirst]
      split_ifs
      · rw [hlater]
      · rfl
    · rw [Bool.not_eq_true] at hr
      rw [visit_of_not_holds hr, frontier_of_not_holds hr, hlater]

theorem frontier_eq_nil_iff (routes : Routes) :
    frontier labels routes = [] ↔ ∀ t ∈ routes.trees, t.1.gate.holds labels = false := by
  rw [← visit_eq_nil_iff, ← List.map_eq_nil_iff (f := routes.policyAt?), ← map_some_visit,
    List.map_eq_nil_iff]

/-- The walk goes to the contributing routes and to no others. -/
theorem mem_frontier_iff (routes : Routes) (path : List ℕ) :
    path ∈ frontier labels routes ↔ routes.Contributes labels path := by
  induction routes generalizing path with
  | nil => exact ⟨fun h => by simp [frontier] at h, fun h => by simpa using h.located⟩
  | node r children rest ihc ihr =>
    have hzero (p : List ℕ) : 0 :: p ∈ frontier labels (.node r children rest) ↔
        r.gate.holds labels ∧ 0 :: p ∈ inFirst (frontier labels children) := by
      by_cases hr : r.gate.holds labels <;> by_cases hk : r.continues <;>
        simp [frontier, hr, hk, pastFirst_ne_zero]
    have hsucc (i : ℕ) (p : List ℕ) : (i + 1) :: p ∈ frontier labels (.node r children rest) ↔
        ¬ r.Keeps labels ∧ i :: p ∈ frontier labels rest := by
      have hfirst : (i + 1) :: p ∉ inFirst (frontier labels children) := fun h => by
        simpa using exists_of_mem_inFirst h
      by_cases hr : r.gate.holds labels <;> by_cases hk : r.continues <;>
        simp [frontier, Route.Keeps, hr, hk, hfirst, pastFirst_eq_succ_iff]
    match path with
    | [] => simp [nil_notMem_frontier, not_contributes_nil_path]
    | [0] =>
      rw [hzero, contributes_zero, zero_mem_inFirst_iff (nil_notMem_frontier children),
        frontier_eq_nil_iff]
    | 0 :: i :: path => rw [hzero, contributes_zero_cons, zero_cons_mem_inFirst_iff, ihc]
    | (i + 1) :: path => rw [hsucc, contributes_succ, ihr]

theorem pastFirst_lt {p q : List ℕ} (h : p < q) : pastFirst p < pastFirst q := by
  cases p with
  | nil => cases q with
    | nil => exact absurd h (List.lt_irrefl _)
    | cons j q => exact List.nil_lt_cons _ _
  | cons i p => cases q with
    | nil => exact absurd h (List.not_lt_nil _)
    | cons j q => simpa [pastFirst, List.cons_lt_cons_iff] using h

/-- Paths come in lexicographic order. -/
theorem pairwise_frontier (routes : Routes) : (frontier labels routes).Pairwise (· < ·) := by
  induction routes with
  | nil => exact .nil
  | node r children rest ihc ihr =>
    have hlater : ((frontier labels rest).map pastFirst).Pairwise (· < ·) :=
      List.pairwise_map.mpr (ihr.imp pastFirst_lt)
    have hfirst : (inFirst (frontier labels children)).Pairwise (· < ·) := by
      unfold inFirst
      split_ifs
      · exact List.pairwise_singleton _ _
      · exact List.pairwise_map.mpr (ihc.imp fun h => by simpa [List.cons_lt_cons_iff] using h)
    simp only [frontier]
    split_ifs
    · exact hlater
    · refine List.pairwise_append.mpr ⟨hfirst, hlater, fun p hp q hq => ?_⟩
      obtain ⟨p, rfl⟩ := exists_of_mem_inFirst hp
      obtain ⟨q, hmem, rfl⟩ := List.mem_map.mp hq
      cases q with
      | nil => exact absurd hmem (nil_notMem_frontier rest)
      | cons i q => simp [pastFirst, List.cons_lt_cons_iff]
    · exact hfirst

/-- An alert that stops at a route does not stop further down. -/
theorem Contributes.eq_of_isPrefix {routes : Routes} {p q : List ℕ}
    (hp : routes.Contributes labels p) (hq : routes.Contributes labels q) (h : p <+: q) :
    p = q := by
  obtain ⟨s, rfl⟩ := h
  cases s with
  | nil => simp
  | cons j s =>
    have hj : p ++ [j] <+: p ++ j :: s := ⟨s, by simp⟩
    obtain ⟨t, ht⟩ := Option.isSome_iff_exists.mp
      (routes.isSome_get?_of_isPrefix (by simp) hj hq.located)
    have hholds := hq.entered _ hj t ht
    rw [hp.stops j t ht] at hholds
    cases hholds

/-- The policies of an alert are those of the routes that contribute, each once and in the order of
their paths, or the fallback if no route does. No route that contributes is inside another. -/
theorem matches_eq_contributing (routes : Routes) (labels : Labels) :
    ∃ paths : List (List ℕ), paths.Pairwise (· < ·) ∧
      (∀ path, path ∈ paths ↔ routes.Contributes labels path) ∧
      (routes.matches labels).map some =
        (if paths = [] then [some .fallback] else paths.map routes.policyAt?) ∧
      ∀ p ∈ paths, ∀ q ∈ paths, p <+: q → p = q := by
  refine ⟨frontier labels routes, pairwise_frontier routes, mem_frontier_iff routes, ?_, ?_⟩
  · have hnil : (visit labels routes).result = [] ↔ frontier labels routes = [] := by
      rw [visit_eq_nil_iff, frontier_eq_nil_iff]
    rw [matches_eq]
    by_cases h : (visit labels routes).result = []
    · rw [if_pos h, if_pos (hnil.mp h), List.map_singleton]
    · rw [if_neg h, if_neg (h ∘ hnil.mpr), map_some_visit]
  · intro p hp q hq h
    exact ((mem_frontier_iff routes p).mp hp).eq_of_isPrefix ((mem_frontier_iff routes q).mp hq) h

end Routes

end AlertRouting
