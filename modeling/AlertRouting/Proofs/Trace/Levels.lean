import AlertRouting.Proofs.Trace.Steps

/-!
# The levels of a trace

On each level a trace follows the routes up to the first that keeps the alert, and counts those it
leaves out. A step says whether the gate of its route holds. Below it stands the trace of the level
inside the route, or nothing if the gate does not hold.
-/
namespace AlertRouting

/-- The step says that its route takes the alert and keeps it from later routes of its level. -/
def Step.Keeps (s : Step) : Prop := s.matched = true ∧ s.continues = false

/-- The step, with the steps inside it, is what a walk through the route records, whatever was found
before. -/
def Traces (labels : Labels) (route : Route × Routes) (step : Step × Forest Step) : Prop :=
  ∀ found, (route.1.walk route.2 labels found).steps = .node step.1 step.2 .nil

/-- What the steps of a level, and the number of routes skipped on it, say of its routes. -/
structure LevelRecord (labels : Labels) (routes : Routes) (steps : Forest Step) (skipped : ℕ) :
    Prop where
  /-- A route is either tried or skipped. -/
  length_add : steps.length + skipped = routes.length
  /-- Those that are tried come first, and are traced in order. -/
  traced : List.Forall₂ (Traces labels) (routes.trees.take steps.length) steps.trees
  /-- Only the last step may keep the alert. -/
  passed : ∀ t ∈ steps.trees.dropLast, ¬ t.1.Keeps
  /-- Routes are skipped only if it does. -/
  kept : 0 < skipped → ∃ t, steps.trees.getLast? = some t ∧ t.1.Keeps

/-- What a step, with the steps inside it, says of its route. -/
structure StepRecord (labels : Labels) (r : Route) (below : Routes) (step : Step)
    (inner : Forest Step) : Prop where
  matched : step.matched = r.gate.holds labels
  matchers : step.matchers = r.gate.text
  target : step.target = r.policy.target
  continues : step.continues = r.continues
  pruned : step.matched = false → inner = .nil ∧ step.skipped = 0 ∧ step.usedOwn = false
  entered : step.matched = true → LevelRecord labels below inner step.skipped
  usedOwn : step.matched = true →
    (step.usedOwn = true ↔ ∀ t ∈ inner.trees, t.1.matched = false)

namespace Routes

variable {labels : Labels} {r : Route} {children rest : Routes}

theorem traces_step (r : Route) (children : Routes) :
    Traces labels (r, children) (r.step labels children, r.stepsInside labels children) := by
  intro found
  rw [Route.walk, walk_eq, steps_node]
  split_ifs <;> rfl

/-- A level whose first route keeps the alert. -/
theorem levelRecord_of_keeps (h : r.Keeps labels) :
    LevelRecord labels (.node r children rest)
      (.node (r.step labels children) (r.stepsInside labels children) .nil) rest.length where
  length_add := Nat.add_comm 1 rest.length
  traced := .cons (traces_step r children) .nil
  passed _ ht := absurd ht List.not_mem_nil
  kept _ := ⟨_, rfl, h⟩

/-- A level whose first route lets the alert go on. -/
theorem levelRecord_of_not_keeps {steps : Forest Step} {skipped : ℕ} (h : ¬ r.Keeps labels)
    (hrest : LevelRecord labels rest steps skipped) :
    LevelRecord labels (.node r children rest)
      (.node (r.step labels children) (r.stepsInside labels children) steps) skipped where
  length_add := by
    have hlength := hrest.length_add
    rw [Forest.length, Forest.length]
    omega
  traced := .cons (traces_step r children) hrest.traced
  passed := by
    have hpassed := hrest.passed
    rw [Forest.trees]
    cases htrees : steps.trees with
    | nil => simp
    | cons t ts =>
      rw [htrees] at hpassed
      rw [List.dropLast_cons_cons]
      exact List.forall_mem_cons.mpr ⟨h, hpassed⟩
  kept hpos := by
    obtain ⟨t, ht, hkeeps⟩ := hrest.kept hpos
    exact ⟨t, by simp [Forest.trees, List.getLast?_cons, ht], hkeeps⟩

/-- The steps of a level are those of its routes up to the first that keeps the alert. -/
theorem levelRecord_steps (routes : Routes) :
    LevelRecord labels routes (steps labels routes) (untried labels routes) := by
  induction routes with
  | nil => exact ⟨rfl, .nil, by simp [steps, Forest.trees], by simp [untried]⟩
  | node r children rest _ ih =>
    rw [steps_node, untried]
    by_cases h : r.Keeps labels
    · rw [if_pos h, if_pos h]
      exact levelRecord_of_keeps h
    · rw [if_neg h, if_neg h]
      exact levelRecord_of_not_keeps h ih

/-- No step of a level matched if and only if no gate on it holds. -/
theorem forall_matched_eq_false_iff (routes : Routes) :
    (∀ t ∈ (steps labels routes).trees, t.1.matched = false) ↔
      ∀ t ∈ routes.trees, t.1.gate.holds labels = false := by
  induction routes with
  | nil => simp [steps, Forest.trees]
  | node r children rest _ ih =>
    rw [steps_node, Forest.trees, Forest.trees, List.forall_mem_cons, List.forall_mem_cons]
    by_cases h : r.Keeps labels
    · simp [Route.step, h.1]
    · rw [if_neg h, ih]
      rfl

theorem stepRecord_step (r : Route) (below : Routes) :
    StepRecord labels r below (r.step labels below) (r.stepsInside labels below) where
  matched := rfl
  matchers := rfl
  target := rfl
  continues := rfl
  pruned h := by
    have hr : r.gate.holds labels = false := h
    simp [Route.stepsInside, Route.step, hr]
  entered h := by
    have hr : r.gate.holds labels = true := h
    simp only [Route.stepsInside, Route.step, hr, if_true]
    exact levelRecord_steps below
  usedOwn h := by
    have hr : r.gate.holds labels = true := h
    rw [Route.stepsInside, if_pos hr, forall_matched_eq_false_iff, ← visit_eq_nil_iff]
    simp [Route.step, hr]

/-- Every step is that of the route at the same path. -/
theorem exists_of_get?_steps {routes : Routes} {path : List ℕ} {step : Step}
    {inner : Forest Step} (h : (steps labels routes).get? path = some (step, inner)) :
    ∃ r below, routes.get? path = some (r, below) ∧ step = r.step labels below ∧
      inner = r.stepsInside labels below := by
  induction routes generalizing path with
  | nil => simp [steps] at h
  | node r children rest ihc ihr =>
    rw [steps_node] at h
    rcases Forest.get?_node_eq_some_iff.mp h with ⟨rfl, heq⟩ | ⟨p, rfl, hp⟩ | ⟨i, p, rfl, hp⟩
    · cases heq
      exact ⟨r, children, rfl, rfl, rfl⟩
    · unfold Route.stepsInside at hp
      split_ifs at hp
      · obtain ⟨t, below, ht, hstep⟩ := ihc hp
        exact ⟨t, below, Forest.get?_node_eq_some_iff.mpr (.inr (.inl ⟨p, rfl, ht⟩)), hstep⟩
      · simp at hp
    · split_ifs at hp
      · simp at hp
      · obtain ⟨t, below, ht, hstep⟩ := ihr hp
        exact ⟨t, below, ht, hstep⟩

/-- The steps of a trace are those of the routes that are tried. On every level that the alert gets
to they follow the routes up to the first that keeps the alert, and the rest of the routes are
counted. Each step says of its route what happened there. -/
theorem trace_records_levels (routes : Routes) (labels : Labels) :
    LevelRecord labels routes (routes.trace labels).steps (routes.trace labels).skipped ∧
    ∀ path step inner, (routes.trace labels).steps.get? path = some (step, inner) →
      ∃ r below, routes.get? path = some (r, below) ∧ StepRecord labels r below step inner := by
  rw [trace_eq]
  refine ⟨levelRecord_steps routes, fun path step inner h => ?_⟩
  obtain ⟨r, below, hr, rfl, rfl⟩ := exists_of_get?_steps h
  exact ⟨r, below, hr, stepRecord_step r below⟩

/-- A route that continues, with two routes inside it, and two routes for all alerts after it. -/
def auditRoutes : Routes :=
  .node ⟨{ Policy.fallback with target := "team" }, [.exact "service" "api"], true⟩
    (.node ⟨{ Policy.fallback with target := "oncall" }, [.exact "severity" "page"], false⟩ .nil
      (.node ⟨.fallback, [], false⟩ .nil .nil))
    (.node ⟨{ Policy.fallback with target := "audit" }, [], false⟩ .nil
      (.node ⟨.fallback, [], false⟩ .nil .nil))

def pageLabels : Labels := .ofList [("service", "api"), ("severity", "page")]

/-- One of the two routes inside the first is skipped, and so is the last at the top. -/
theorem trace_records_levels_audit :
    let t := auditRoutes.trace pageLabels
    t.skipped = 1 ∧ LevelRecord pageLabels auditRoutes t.steps 1 ∧
      ∃ step inner r below, t.steps.get? [0] = some (step, inner) ∧ step.matched = true ∧
        step.skipped = 1 ∧ step.usedOwn = false ∧ auditRoutes.get? [0] = some (r, below) ∧
        StepRecord pageLabels r below step inner := by
  have hget : (auditRoutes.trace pageLabels).steps.get? [0] = some _ := rfl
  obtain ⟨hlevel, hsteps⟩ := trace_records_levels auditRoutes pageLabels
  obtain ⟨r, below, hr, hrecord⟩ := hsteps [0] _ _ hget
  exact ⟨rfl, hlevel, _, _, r, below, hget, rfl, rfl, rfl, hr, hrecord⟩

end Routes

end AlertRouting
