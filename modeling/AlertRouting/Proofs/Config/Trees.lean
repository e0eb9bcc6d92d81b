import AlertRouting.Config.Editing
import AlertRouting.Proofs.Config.Validity
import AlertRouting.Proofs.Forest.Trees

/-!
# Routes on their own

A route can be checked on its own or as one of the routes of a configuration. The same is found in
both cases: only the beginning of the places is different, and the depth that counts is that of the
route or that of the deepest route.
-/
namespace AlertRouting

/-- The place that is as far inside another root as this one is inside a route on its own. -/
def Location.under : Location → Location → Location
  | route, root => root
  | top i, _ => top i
  | inside outer i, root => inside (outer.under root) i

def ConfigError.mapPlace (f : Location → Location) : ConfigError → ConfigError
  | unreadable => unreadable
  | invalidLabelName name field place => invalidLabelName name field (f place)
  | invalidRegex pattern label place fault => invalidRegex pattern label (f place) fault
  | duplicateGroupBy name place => duplicateGroupBy name (f place)
  | zeroInterval field place => zeroInterval field (f place)
  | depthExceeded depth => depthExceeded depth
  | build e => build e

/-- All that is wrong with a route and the routes inside it. -/
def Settings.treeViolations [Regex.SizeLimit] (s : Settings) (inner : Config)
    (place : Location) : List ConfigError :=
  s.violations place ++ inner.nodes.flatMap fun n => n.2.violations (n.1.foldl .inside place)

theorem reportFirst_eq_error_iff {errors : List ConfigError} {e : ConfigError} :
    reportFirst errors = .error e ↔ errors.head? = some e := by
  cases errors <;> simp [reportFirst]

/-! ## Places -/

namespace Location

theorem under_foldl_inside (root place : Location) (path : List ℕ) :
    (path.foldl inside place).under root = path.foldl inside (place.under root) := by
  induction path generalizing place with
  | nil => rfl
  | cons i path ih => exact ih (place.inside i)

/-- Inside of a root, the text of a place goes on in the same way for all roots. -/
theorem exists_text_foldl_inside (path : List ℕ) :
    ∃ rest, ∀ root : Location, (path.foldl inside root).text = root.text ++ rest := by
  induction path with
  | nil => exact ⟨"", fun root => (String.append_empty).symm⟩
  | cons i path ih =>
    obtain ⟨rest, hrest⟩ := ih
    refine ⟨".routes[" ++ toString i ++ "]" ++ rest, fun root => ?_⟩
    rw [List.foldl_cons, hrest]
    simp only [text, String.append_assoc]

end Location

/-! ## Violations at other places -/

section
variable (f : Location → Location) {place : Location}

theorem nameViolation?_map (field : NameField) (name : String) :
    nameViolation? field (f place) name =
      (nameViolation? field place name).map (.mapPlace f) := by
  unfold nameViolation?
  split_ifs <;> rfl

theorem patternViolation?_map [Regex.SizeLimit] (e : String × String) :
    patternViolation? (f place) e = (patternViolation? place e).map (.mapPlace f) := by
  rw [patternViolation?, patternViolation?, nameViolation?_map, Option.map_or]
  split_ifs <;> rfl

theorem groupByViolation?_map (names : List String) (n : String × ℕ) :
    groupByViolation? (f place) names n = (groupByViolation? place names n).map (.mapPlace f) := by
  rw [groupByViolation?, groupByViolation?, nameViolation?_map, Option.map_or]
  split_ifs <;> rfl

theorem intervalViolation?_map (field : IntervalField) (d : Option Duration) :
    intervalViolation? field (f place) d =
      (intervalViolation? field place d).map (.mapPlace f) := by
  unfold intervalViolation?
  split_ifs <;> rfl

theorem Settings.violations_map [Regex.SizeLimit] (s : Settings) :
    s.violations (f place) = (s.violations place).map (.mapPlace f) := by
  simp only [violations, List.map_append, List.map_filterMap, nameViolation?_map f,
    patternViolation?_map f, groupByViolation?_map f, intervalViolation?_map f, Option.toList_map]

end

/-! ## Trees -/

section

variable [Regex.SizeLimit]

theorem Settings.treeViolations_under (s : Settings) (inner : Config) (root : Location) :
    s.treeViolations inner root =
      (s.treeViolations inner .route).map (.mapPlace (·.under root)) := by
  have hroot : s.violations root = (s.violations .route).map (.mapPlace (·.under root)) :=
    @violations_map (·.under root) .route _ s
  have hinner (n : List ℕ × Settings) : n.2.violations (n.1.foldl .inside root) =
      (n.2.violations (n.1.foldl .inside .route)).map (.mapPlace (·.under root)) := by
    rw [← violations_map, Location.under_foldl_inside]
    rfl
  simp only [treeViolations, List.map_append, List.map_flatMap, ← hinner, ← hroot]

/-- The places of what is wrong with a route on its own begin with that route. -/
theorem Settings.exists_place_of_mem_treeViolations {s : Settings} {inner : Config}
    {e : ConfigError} (h : e ∈ s.treeViolations inner .route) : ∃ place rest,
      e.place? = some place ∧ place.text = "route" ++ rest ∧
        ∀ root, (place.under root).text = root.text ++ rest := by
  have hpath : ∃ path : List ℕ, e.place? = some (path.foldl .inside .route) := by
    rcases List.mem_append.mp h with h | h
    · exact ⟨[], place?_of_mem_violations h⟩
    · obtain ⟨n, -, hn⟩ := List.mem_flatMap.mp h
      exact ⟨n.1, place?_of_mem_violations hn⟩
  obtain ⟨path, hpath⟩ := hpath
  obtain ⟨rest, hrest⟩ := Location.exists_text_foldl_inside path
  refine ⟨_, rest, hpath, hrest .route, fun root => ?_⟩
  rw [Location.under_foldl_inside]
  exact hrest root

theorem Settings.validate_of_depth_le {s : Settings} {inner : Config}
    (h : inner.depth + 1 ≤ maxDepth) :
    s.validate inner = reportFirst (s.treeViolations inner .route) := by
  rw [validate_eq, if_neg (Nat.not_lt.mpr h)]
  rfl

theorem Settings.validate_of_lt_depth {s : Settings} {inner : Config}
    (h : maxDepth < inner.depth + 1) :
    s.validate inner = .error (.depthExceeded (inner.depth + 1)) := by
  rw [validate_eq, if_pos h]

end

namespace Config

section

variable [Regex.SizeLimit] {c : Config}

theorem flatMap_violations_nodesFrom (c : Config) (k : ℕ) :
    ((c.nodesFrom k).flatMap fun n => n.2.violations (.ofPath n.1)) =
      (c.trees.zipIdx k).flatMap fun t => t.1.1.treeViolations t.1.2 (.top t.2) := by
  induction c generalizing k with
  | nil => rfl
  | node s inner rest _ ih =>
    rw [Forest.nodesFrom, List.flatMap_append, ih (k + 1)]
    simp [Forest.trees, Forest.nodes, Settings.treeViolations, List.flatMap_map, Location.ofPath]

/-- What is wrong with a configuration, tree by tree. -/
theorem violations_eq (c : Config) :
    c.violations = c.trees.zipIdx.flatMap fun t =>
      (t.1.1.treeViolations t.1.2 .route).map (.mapPlace (·.under (.top t.2))) := by
  simp only [← Settings.treeViolations_under]
  exact c.flatMap_violations_nodesFrom 0

/-- The first that is wrong with a configuration is the first that is wrong with the first tree
with which something is wrong. -/
theorem head?_violations_eq_some_iff {e : ConfigError} : c.violations.head? = some e ↔
    ∃ front s inner later e', c.trees = front ++ (s, inner) :: later ∧
      (∀ t ∈ front, t.1.treeViolations t.2 .route = []) ∧
      (s.treeViolations inner .route).head? = some e' ∧
      e = e'.mapPlace (·.under (.top front.length)) := by
  rw [violations_eq, List.head?_flatMap, List.findSome?_eq_some_iff]
  constructor
  · rintro ⟨front, ⟨⟨s, inner⟩, i⟩, later, hsplit, hhead, hfront⟩
    obtain ⟨front, later, htrees, rfl, hlater⟩ := List.zipIdx_eq_append_iff.mp hsplit
    obtain ⟨t, later, rfl, ht, -⟩ := List.zipIdx_eq_cons_iff.mp hlater.symm
    cases ht
    rw [List.head?_map, Option.map_eq_some_iff] at hhead
    obtain ⟨e', he', rfl⟩ := hhead
    refine ⟨front, s, inner, later, e', htrees, fun t ht => ?_, he', by rw [Nat.zero_add]⟩
    obtain ⟨i, hi⟩ := List.mem_iff_getElem?.mp ht
    have hnone := hfront (t, i) (List.mem_zipIdx_iff_getElem?.mpr hi)
    simpa using hnone
  · rintro ⟨front, s, inner, later, e', htrees, hfront, hhead, rfl⟩
    refine ⟨front.zipIdx, ((s, inner), front.length), later.zipIdx (front.length + 1), ?_, ?_, ?_⟩
    · rw [htrees, List.zipIdx_append, List.zipIdx_cons, Nat.zero_add]
    · rw [List.head?_map, hhead, Option.map_some]
    · rintro ⟨t, i⟩ ht
      have hmem := List.mem_of_getElem? (List.mem_zipIdx_iff_getElem?.mp ht)
      simp [hfront t hmem]

theorem validate_eq_ok_iff_trees :
    c.validate = .ok () ↔ ∀ t ∈ c.trees, t.1.validate t.2 = .ok () := by
  rw [validate_eq_ok_iff, Forest.depth_le_iff_trees, Forest.forall_mem_iff_trees]
  simp only [Settings.validate_eq_ok_iff, ← forall₂_and]

/-- Every route of a configuration that passes would pass on its own. -/
theorem validate_of_get? {path : List ℕ} {s : Settings} {inner : Config} (h : c.validate = .ok ())
    (hs : c.get? path = some (s, inner)) : s.validate inner = .ok () := by
  obtain ⟨hdepth, hvalid⟩ := validate_eq_ok_iff.mp h
  have hroom := Forest.length_add_depth_le hs
  have hpath : 0 < path.length := List.length_pos_iff.mpr fun hnil => by simp [hnil] at hs
  refine Settings.validate_eq_ok_iff.mpr ⟨by omega, hvalid s (Forest.mem_of_get? hs), ?_⟩
  exact fun t ht => hvalid t (Forest.mem_of_mem_below hs ht)

/-- Is this the error of the first tree that is refused on its own, at the place where this tree
stands in the configuration? The text of the place begins with that of the tree. -/
def FirstRefusal (c : Config) (e : ConfigError) : Prop :=
  ∃ front s inner later e' place rest, c.trees = front ++ (s, inner) :: later ∧
    (∀ t ∈ front, t.1.validate t.2 = .ok ()) ∧ s.validate inner = .error e' ∧
    e'.place? = some place ∧ place.text = "route" ++ rest ∧
    (place.under (.top front.length)).text = "routes[" ++ toString front.length ++ "]" ++ rest ∧
    e = e'.mapPlace (·.under (.top front.length))

/-- A configuration that is not too deep is refused for its first tree that is refused on its own. -/
theorem validate_eq_error_iff_firstRefusal (h : c.depth ≤ maxDepth) {e : ConfigError} :
    c.validate = .error e ↔ c.FirstRefusal e := by
  have hshallow := Forest.depth_le_iff_trees.mp h
  have hvalidate (t : Settings × Config) (ht : t ∈ c.trees) :
      t.1.validate t.2 = reportFirst (t.1.treeViolations t.2 .route) :=
    Settings.validate_of_depth_le (hshallow t ht)
  rw [validate_eq, if_neg (Nat.not_lt.mpr h), reportFirst_eq_error_iff, head?_violations_eq_some_iff]
  constructor
  · rintro ⟨front, s, inner, later, e', htrees, hfront, he', he⟩
    have hmem : ∀ t ∈ front, t ∈ c.trees := fun t ht => htrees ▸ List.mem_append_left _ ht
    obtain ⟨place, rest, hplace, htext, hunder⟩ :=
      Settings.exists_place_of_mem_treeViolations (List.mem_of_mem_head? he')
    refine ⟨front, s, inner, later, e', place, rest, htrees, fun t ht => ?_, ?_, hplace, htext,
      hunder _, he⟩
    · rw [hvalidate t (hmem t ht), hfront t ht]
      rfl
    · rw [hvalidate (s, inner) (by simp [htrees])]
      exact reportFirst_eq_error_iff.mpr he'
  · rintro ⟨front, s, inner, later, e', -, -, htrees, hfront, he', -, -, -, he⟩
    have hmem : ∀ t ∈ front, t ∈ c.trees := fun t ht => htrees ▸ List.mem_append_left _ ht
    refine ⟨front, s, inner, later, e', htrees, fun t ht => ?_, ?_, he⟩
    · exact reportFirst_eq_ok_iff.mp (hvalidate t (hmem t ht) ▸ hfront t ht)
    · rw [hvalidate (s, inner) (by simp [htrees])] at he'
      exact reportFirst_eq_error_iff.mp he'

/-- Checking a configuration is checking each of its trees on its own, and then every route of it
would pass on its own. If it is refused although it is not too deep, that is with the error of the
first tree that is refused on its own, only that the place begins with the position of this tree. If
it is too deep, it is refused with the depth with which its deepest tree is refused on its own. -/
theorem validate_agrees_with_trees (c : Config) :
    (c.validate = .ok () ↔ ∀ t ∈ c.trees, t.1.validate t.2 = .ok ()) ∧
    (c.validate = .ok () → ∀ path s inner, c.get? path = some (s, inner) →
      s.validate inner = .ok ()) ∧
    (c.depth ≤ maxDepth → ∀ e, c.validate = .error e ↔ c.FirstRefusal e) ∧
    (maxDepth < c.depth → c.validate = .error (.depthExceeded c.depth) ∧
      (∃ t ∈ c.trees, ∀ u ∈ c.trees, u.2.depth ≤ t.2.depth) ∧
      ∀ t ∈ c.trees, (∀ u ∈ c.trees, u.2.depth ≤ t.2.depth) →
        t.1.validate t.2 = .error (.depthExceeded c.depth)) := by
  refine ⟨validate_eq_ok_iff_trees, fun h path s inner hs => validate_of_get? h hs,
    fun hdepth e => validate_eq_error_iff_firstRefusal hdepth,
    fun hdepth => ⟨?_, ?_, fun t ht hdeepest => ?_⟩⟩
  · rw [validate_eq, if_pos hdepth]
  · obtain ⟨t, ht, heq⟩ := Forest.exists_mem_trees_deepest (Nat.zero_lt_of_lt hdepth)
    refine ⟨t, ht, fun u hu => ?_⟩
    have hle := Forest.depth_le_iff_trees.mp le_rfl u hu
    omega
  · have heq : t.2.depth + 1 = c.depth := Forest.depth_of_deepest ht hdeepest
    rw [Settings.validate_of_lt_depth (heq.symm ▸ hdepth), heq]

end

attribute [local instance] Regex.SizeLimit.unlimited

/-- A route that is as it should be, and one after it that has a route inside with a name twice in
its grouping. -/
def zoneTwice : Config :=
  .node .empty .nil
    (.node .empty (.node { Settings.empty with groupBy := ["zone", "zone"] } .nil .nil) .nil)

/-- Roots around no routes pass, and so does the route inside them. The second tree decides about a
configuration in which only this one is wrong. Too many roots around it are refused for the depth. -/
theorem validate_agrees_with_trees_zoneTwice :
    (wrap 2 .nil).validate = .ok () ∧ Settings.empty.validate .nil = .ok () ∧
    zoneTwice.depth ≤ maxDepth ∧
    zoneTwice.FirstRefusal (.duplicateGroupBy "zone" (.inside (.top 1) 0)) ∧
    maxDepth < (zoneTwice.wrap 32).depth ∧
    (zoneTwice.wrap 32).validate = .error (.depthExceeded (zoneTwice.wrap 32).depth) := by
  have hpass : (wrap 2 .nil).validate = .ok () := by decide +kernel
  have hshallow : zoneTwice.depth ≤ maxDepth := by decide
  have hrefused : zoneTwice.validate = .error (.duplicateGroupBy "zone" (.inside (.top 1) 0)) := by
    decide +kernel
  have hdeep : maxDepth < (zoneTwice.wrap 32).depth := by decide +kernel
  exact ⟨hpass, (validate_agrees_with_trees _).2.1 hpass [0, 0] .empty .nil rfl, hshallow,
    ((validate_agrees_with_trees _).2.2.1 hshallow _).mp hrefused, hdeep,
    ((validate_agrees_with_trees _).2.2.2 hdeep).1⟩

end Config

end AlertRouting
