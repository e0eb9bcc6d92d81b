import AlertRouting.Config.Validation
import AlertRouting.Proofs.Config.Places
import AlertRouting.Proofs.Forest.Nodes
import AlertRouting.Proofs.Pattern.Anchors

/-!
# Violations

All that is wrong with a configuration, as one list in the order of its routes. Checking stops at
what it finds first, so it reports the head of this list.
-/
namespace AlertRouting

def reportFirst : List ConfigError → Check
  | [] => .ok ()
  | e :: _ => .error e

theorem reportFirst_eq_ok_iff {errors : List ConfigError} :
    reportFirst errors = .ok () ↔ errors = [] := by
  cases errors <;> simp [reportFirst]

/-- Checks made one after the other report the first of all their errors. -/
theorem reportFirst_append (first later : List ConfigError) :
    reportFirst (first ++ later) = (do reportFirst first; reportFirst later) := by
  cases first <;> rfl

theorem reportFirst_filterMap_cons {β : Type} (f : β → Option ConfigError) (b : β) (l : List β) :
    reportFirst ((b :: l).filterMap f) =
      (do reportFirst (f b).toList; reportFirst (l.filterMap f)) := by
  rw [List.filterMap_cons]
  cases f b <;> rfl

theorem mem_of_reportFirst {errors : List ConfigError} {e : ConfigError}
    (h : reportFirst errors = .error e) : e ∈ errors := by
  cases errors with
  | nil => cases h
  | cons f errors => cases h; exact List.mem_cons_self

def nameViolation? (field : NameField) (place : Location) (name : String) : Option ConfigError :=
  if isLabelName name then none else some (.invalidLabelName name field place)

/-- What is wrong with a pattern: its label, else its size, else its text between anchors. -/
def patternViolation? [Regex.SizeLimit] (place : Location) (e : String × String) :
    Option ConfigError :=
  (nameViolation? .patterns place e.1).or <|
    if maxPatternSize < e.2.utf8ByteSize then
      some (.invalidRegex e.2 e.1 place (.tooLong e.2.utf8ByteSize))
    else if compile? (anchored e.2) = none then some (.invalidRegex e.2 e.1 place .malformed)
    else none

/-- What is wrong with a name in a grouping, given its position: the name itself, else that it
stands there before. -/
def groupByViolation? (place : Location) (names : List String) (n : String × ℕ) :
    Option ConfigError :=
  (nameViolation? .groupBy place n.1).or <|
    if n.1 ∈ names.take n.2 then some (.duplicateGroupBy n.1 place) else none

def intervalViolation? (field : IntervalField) (place : Location) (d : Option Duration) :
    Option ConfigError :=
  if d = some .zero then some (.zeroInterval field place) else none

def Settings.violations [Regex.SizeLimit] (s : Settings) (place : Location) : List ConfigError :=
  s.exact.names.filterMap (nameViolation? .exact place) ++
    s.patterns.entries.filterMap (patternViolation? place) ++
    s.groupBy.zipIdx.filterMap (groupByViolation? place s.groupBy) ++
    (intervalViolation? .groupInterval place s.groupInterval).toList ++
    (intervalViolation? .repeatInterval place s.repeatInterval).toList

/-- All that is wrong with the routes of a configuration, except for how deep they are nested. -/
def Config.violations [Regex.SizeLimit] (c : Config) : List ConfigError :=
  c.nodes.flatMap fun n => n.2.violations (.ofPath n.1)

def ConfigError.place? : ConfigError → Option Location
  | unreadable | depthExceeded _ | build _ => none
  | invalidLabelName _ _ place | invalidRegex _ _ place _ | duplicateGroupBy _ place
  | zeroInterval _ place => some place

/-- What is wrong with a route is reported at its place. -/
theorem Settings.place?_of_mem_violations [Regex.SizeLimit] {s : Settings} {place : Location}
    {e : ConfigError} (h : e ∈ s.violations place) : e.place? = some place := by
  simp only [Settings.violations, List.mem_append, List.mem_filterMap, Option.mem_toList] at h
  rcases h with (((⟨n, -, h⟩ | ⟨n, -, h⟩) | ⟨n, -, h⟩) | h) | h <;>
  · simp only [nameViolation?, patternViolation?, groupByViolation?, intervalViolation?] at h
    split_ifs at h <;> cases h <;> rfl

theorem checkName_eq (name : String) (field : NameField) (place : Location) :
    checkName name field place = reportFirst (nameViolation? field place name).toList := by
  unfold checkName nameViolation?
  split_ifs <;> rfl

theorem checkExact_eq (place : Location) (entries : List (String × String)) :
    checkExact place entries =
      reportFirst ((entries.map (·.1)).filterMap (nameViolation? .exact place)) := by
  induction entries with
  | nil => rfl
  | cons e entries ih => rw [checkExact, List.map_cons, reportFirst_filterMap_cons, checkName_eq, ih]

theorem patternViolation?_eq [Regex.SizeLimit] (place : Location) (e : String × String) :
    patternViolation? place e = (nameViolation? .patterns place e.1).or
      ((patternFault? e.2).map (.invalidRegex e.2 e.1 place)) := by
  simp only [patternViolation?, patternFault?, Option.isNone_iff_eq_none,
    Pattern.ofText?_eq_none_iff]
  split_ifs <;> rfl

theorem checkPatterns_eq [Regex.SizeLimit] (place : Location) (entries : List (String × String)) :
    checkPatterns place entries =
      reportFirst (entries.filterMap (patternViolation? place)) := by
  induction entries with
  | nil => rfl
  | cons e entries ih =>
    rw [checkPatterns, reportFirst_filterMap_cons, patternViolation?_eq, checkName_eq, ih]
    cases nameViolation? .patterns place e.1 <;> cases patternFault? e.2 <;> rfl

/-- The names seen are those in front. -/
theorem checkGroupBy_eq (place : Location) (seen front names : List String)
    (hseen : ∀ n, n ∈ seen ↔ n ∈ front) :
    checkGroupBy place seen names = reportFirst
      ((names.zipIdx front.length).filterMap (groupByViolation? place (front ++ names))) := by
  induction names generalizing seen front with
  | nil => rfl
  | cons name names ih =>
    have hnext : ∀ n, n ∈ name :: seen ↔ n ∈ front ++ [name] := by
      simp [hseen, or_comm]
    have hhead : groupByViolation? place (front ++ name :: names) (name, front.length) =
        (nameViolation? .groupBy place name).or
          (if name ∈ front then some (.duplicateGroupBy name place) else none) := by
      rw [groupByViolation?, List.take_left]
    have hcontains : seen.contains name = true ↔ name ∈ front :=
      List.contains_iff_mem.trans (hseen name)
    rw [checkGroupBy, List.zipIdx_cons, reportFirst_filterMap_cons, checkName_eq,
      ih _ _ hnext, hhead, List.append_assoc, List.length_append]
    cases nameViolation? .groupBy place name with
    | some e => rfl
    | none => by_cases hmem : name ∈ front <;> simp only [hcontains, hmem] <;> rfl

theorem checkInterval_eq (field : IntervalField) (place : Location) (d : Option Duration) :
    checkInterval field place d = reportFirst (intervalViolation? field place d).toList := by
  unfold checkInterval intervalViolation?
  split_ifs <;> rfl

section

variable [Regex.SizeLimit]

/-- Checking a route reports the first that is wrong with it. -/
theorem Settings.check_eq (s : Settings) (place : Location) :
    s.check place = reportFirst (s.violations place) := by
  have hgroup := checkGroupBy_eq place [] [] s.groupBy fun _ => Iff.rfl
  rw [List.nil_append] at hgroup
  simp only [Settings.check, Settings.violations, List.append_assoc, reportFirst_append]
  rw [checkExact_eq, checkPatterns_eq, hgroup, checkInterval_eq, checkInterval_eq]
  rfl

/-- Checking the routes of a level, and those inside them, reports the first that is wrong. -/
theorem Config.checkFrom_eq (place : ℕ → Location) (located : List ℕ → Location) (k : ℕ)
    (c : Config) (h : ∀ i path, located (i :: path) = path.foldl .inside (place i)) :
    Config.checkFrom place k c =
      reportFirst ((c.nodesFrom k).flatMap fun n => n.2.violations (located n.1)) := by
  induction c generalizing place located k with
  | nil => rfl
  | node s children rest ihc ihr =>
    -- Inside the `k`-th route of the level the places go on from its own.
    have hchildren := ihc (.inside (place k)) (fun path => path.foldl .inside (place k)) 0
      fun _ _ => rfl
    rw [Config.checkFrom, s.check_eq, hchildren, ihr place located (k + 1) h]
    simp [Forest.nodesFrom, reportFirst_append, List.flatMap_map, h]

theorem Config.validate_eq (c : Config) :
    c.validate =
      if maxDepth < c.depth then .error (.depthExceeded c.depth) else reportFirst c.violations := by
  have hroutes : Config.checkFrom .top 0 c = reportFirst c.violations :=
    Config.checkFrom_eq .top .ofPath 0 c fun _ _ => rfl
  rw [Config.validate, checkDepth, hroutes]
  split_ifs <;> rfl

theorem Settings.validate_eq (s : Settings) (inner : Config) :
    s.validate inner =
      if maxDepth < inner.depth + 1 then .error (.depthExceeded (inner.depth + 1))
      else reportFirst (s.violations .route ++
        inner.nodes.flatMap fun n => n.2.violations (n.1.foldl .inside .route)) := by
  have hinner := Config.checkFrom_eq (.inside .route) (fun path => path.foldl .inside .route) 0
    inner fun _ _ => rfl
  rw [Settings.validate, checkDepth, s.check_eq, hinner, reportFirst_append]
  split_ifs <;> rfl

/-- A configuration that is nested too deep is refused with the length of its longest path. Any
other is refused with the first of its violations, route by route in the order of their paths, and
each with the path of its route as its place. Different paths are shown differently. -/
theorem Config.validate_eq_first_violation (c : Config) :
    (∃ longest, IsLUB {n | ∃ path, (c.get? path).isSome ∧ path.length = n} longest ∧
      c.validate = if maxDepth < longest then .error (.depthExceeded longest)
        else reportFirst (c.nodes.flatMap fun n => n.2.violations (.ofPath n.1))) ∧
    (c.nodes.Pairwise fun m n => m.1 < n.1) ∧
    (∀ path s, (path, s) ∈ c.nodes ↔ ∃ inner, c.get? path = some (s, inner)) ∧
    (∀ i path, (Location.ofPath (i :: path)).text = pathText (i :: path)) ∧
    Function.Injective pathText :=
  ⟨⟨c.depth, c.isLUB_depth, c.validate_eq⟩, c.pairwise_nodes, fun _ _ => Forest.mem_nodes_iff,
    Location.text_ofPath, pathText_injective⟩

end

attribute [local instance] Regex.SizeLimit.unlimited

/-- A name that is repeated comes before an interval that is zero, and a route before those inside
it. -/
example : Config.violations
    (.node { Settings.empty with groupBy := ["a", "a"], repeatInterval := some .zero }
      (.node { Settings.empty with groupBy := [""] } .nil .nil) .nil) =
    [.duplicateGroupBy "a" (.top 0), .zeroInterval .repeatInterval (.top 0),
      .invalidLabelName "" .groupBy (.inside (.top 0) 0)] := by
  decide

end AlertRouting
