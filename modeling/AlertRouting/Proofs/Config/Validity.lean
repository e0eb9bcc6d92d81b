import AlertRouting.Proofs.Config.Violations
import Mathlib.Data.List.Nodup

/-!
# Valid settings

What is known of every route once a configuration has been checked.
-/
namespace AlertRouting

structure Settings.Valid [Regex.SizeLimit] (s : Settings) : Prop where
  exactNames : ∀ n ∈ s.exact.names, isLabelName n
  patternNames : ∀ n ∈ s.patterns.names, isLabelName n
  patternSizes : ∀ e ∈ s.patterns.entries, e.2.utf8ByteSize ≤ maxPatternSize
  compiles : ∀ e ∈ s.patterns.entries, compile? (anchored e.2) ≠ none
  groupByNames : ∀ n ∈ s.groupBy, isLabelName n
  groupByNodup : s.groupBy.Nodup
  groupInterval : s.groupInterval ≠ some .zero
  repeatInterval : s.repeatInterval ≠ some .zero

theorem nameViolation?_eq_none_iff {field : NameField} {place : Location} {name : String} :
    nameViolation? field place name = none ↔ isLabelName name := by
  simp [nameViolation?]

theorem patternViolation?_eq_none_iff [Regex.SizeLimit] {place : Location} {e : String × String} :
    patternViolation? place e = none ↔ isLabelName e.1 ∧ e.2.utf8ByteSize ≤ maxPatternSize ∧
      compile? (anchored e.2) ≠ none := by
  rw [patternViolation?, Option.or_eq_none_iff, nameViolation?_eq_none_iff]
  split_ifs with hsize hcompile
  · simp [Nat.not_le.mpr hsize]
  · simp [hcompile]
  · simp [Nat.le_of_not_lt hsize, hcompile]

theorem groupByViolation?_eq_none_iff {place : Location} {names : List String} {n : String × ℕ} :
    groupByViolation? place names n = none ↔ isLabelName n.1 ∧ n.1 ∉ names.take n.2 := by
  rw [groupByViolation?, Option.or_eq_none_iff, nameViolation?_eq_none_iff]
  split_ifs with hmem <;> simp [hmem]

theorem intervalViolation?_eq_none_iff {field : IntervalField} {place : Location}
    {d : Option Duration} : intervalViolation? field place d = none ↔ d ≠ some .zero := by
  simp [intervalViolation?]

/-- No name is repeated if none stands before itself. -/
theorem nodup_iff_notMem_take {names : List String} :
    names.Nodup ↔ ∀ n ∈ names.zipIdx, n.1 ∉ names.take n.2 := by
  constructor
  · rintro h ⟨n, j⟩ hn hmem
    obtain ⟨hj, hget⟩ := List.getElem?_eq_some_iff.mp (List.mem_zipIdx_iff_getElem?.mp hn)
    obtain ⟨i, hi, heq⟩ := List.mem_take_iff_getElem.mp hmem
    have hij : i = j := h.getElem_inj_iff.mp (heq.trans hget.symm)
    omega
  · intro h
    refine List.pairwise_iff_getElem.mpr fun i j hi hj hij heq => ?_
    refine h (names[j], j) (List.mem_zipIdx_iff_getElem?.mpr (List.getElem?_eq_getElem hj)) ?_
    exact List.mem_take_iff_getElem.mpr ⟨i, by omega, heq⟩

/-- A grouping is as it should be if no name in it is wrong. -/
theorem groupByViolations_eq_none_iff {place : Location} {names : List String} :
    (∀ n ∈ names.zipIdx, groupByViolation? place names n = none) ↔
      (∀ n ∈ names, isLabelName n) ∧ names.Nodup := by
  simp only [groupByViolation?_eq_none_iff, nodup_iff_notMem_take]
  constructor
  · intro h
    refine ⟨fun n hn => ?_, fun n hn => (h n hn).2⟩
    obtain ⟨i, hi⟩ := List.mem_iff_getElem?.mp hn
    exact (h (n, i) (List.mem_zipIdx_iff_getElem?.mpr hi)).1
  · rintro ⟨hnames, hnodup⟩ n hn
    exact ⟨hnames n.1 (List.mem_of_getElem? (List.mem_zipIdx_iff_getElem?.mp hn)), hnodup n hn⟩

theorem Settings.violations_eq_nil_iff [Regex.SizeLimit] {s : Settings} (place : Location) :
    s.violations place = [] ↔ s.Valid := by
  simp only [Settings.violations, List.append_eq_nil_iff, groupByViolations_eq_none_iff,
    List.filterMap_eq_nil_iff, Option.toList_eq_nil_iff, nameViolation?_eq_none_iff,
    patternViolation?_eq_none_iff, intervalViolation?_eq_none_iff]
  constructor
  · rintro ⟨⟨⟨⟨hexact, hpatterns⟩, hnames, hnodup⟩, hgroup⟩, hrepeat⟩
    exact ⟨hexact, List.forall_mem_map.mpr fun e he => (hpatterns e he).1,
      fun e he => (hpatterns e he).2.1, fun e he => (hpatterns e he).2.2, hnames, hnodup, hgroup,
      hrepeat⟩
  · intro h
    refine ⟨⟨⟨⟨h.exactNames, fun e he => ?_⟩, h.groupByNames, h.groupByNodup⟩, h.groupInterval⟩,
      h.repeatInterval⟩
    exact ⟨h.patternNames e.1 (List.mem_map_of_mem he), h.patternSizes e he, h.compiles e he⟩

/-- The nodes have no violations, wherever they are placed, if all settings are valid. -/
theorem Config.flatMap_violations_eq_nil_iff [Regex.SizeLimit] {c : Config}
    (place : List ℕ → Location) :
    (c.nodes.flatMap fun n => n.2.violations (place n.1)) = [] ↔ ∀ s ∈ c, s.Valid := by
  simp only [List.flatMap_eq_nil_iff, Settings.violations_eq_nil_iff]
  constructor
  · rintro h s ⟨path, inner, hs⟩
    exact h (path, s) (Forest.mem_nodes_iff.mpr ⟨inner, hs⟩)
  · rintro h ⟨path, s⟩ hn
    obtain ⟨inner, hs⟩ := Forest.mem_nodes_iff.mp hn
    exact h s (Forest.mem_of_get? hs)

/-- A configuration passes if and only if it is not nested too deep and all its routes are valid. -/
theorem Config.validate_eq_ok_iff [Regex.SizeLimit] {c : Config} :
    c.validate = .ok () ↔ c.depth ≤ maxDepth ∧ ∀ s ∈ c, s.Valid := by
  rw [Config.validate_eq, ← Config.flatMap_violations_eq_nil_iff .ofPath, ← reportFirst_eq_ok_iff]
  split_ifs with h
  · simp [Nat.not_le.mpr h]
  · simp [Nat.le_of_not_lt h, Config.violations]

/-- A route on its own passes if and only if it would as the only route of a configuration. -/
theorem Settings.validate_eq_ok_iff [Regex.SizeLimit] {s : Settings} {inner : Config} :
    s.validate inner = .ok () ↔ inner.depth + 1 ≤ maxDepth ∧ s.Valid ∧ ∀ t ∈ inner, t.Valid := by
  rw [Settings.validate_eq, ← Settings.violations_eq_nil_iff .route,
    ← Config.flatMap_violations_eq_nil_iff fun path => path.foldl .inside .route,
    ← List.append_eq_nil_iff, ← reportFirst_eq_ok_iff]
  split_ifs with h
  · simp [Nat.not_le.mpr h]
  · simp [Nat.le_of_not_lt h]

end AlertRouting
