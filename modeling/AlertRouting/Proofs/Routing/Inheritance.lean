import AlertRouting.Proofs.Forest.Paths
import AlertRouting.Proofs.NameMap.Names
import AlertRouting.Proofs.Routing.Building

/-!
# Inherited settings

Building hands a policy down, which every route changes for itself and for the routes inside it.
What a route ends up with is a search along its line: the nearest setting counts, and what is set
nowhere comes from outside. The grouping takes no part in this.
-/
namespace AlertRouting

open Forest

def Settings.target? (s : Settings) : Option String := s.sendTo.filter (· ≠ "")

/-- The first value that is set along a line, or else the one that comes from outside. -/
def nearest {β : Type} (field : Settings → Option β) (line : List Settings) (outside : β) : β :=
  (line.findSome? field).getD outside

theorem nearest_append {β : Type} (field : Settings → Option β) (line : List Settings)
    (s : Settings) (outside : β) :
    nearest field (line ++ [s]) outside = nearest field line ((field s).getD outside) := by
  unfold nearest
  rw [List.findSome?_append]
  cases List.findSome? field line <;> cases h : field s <;> simp [h]

namespace Policy

/-- Apart from its grouping, the policy is what the line of a route sets inside the policy `outer`.
-/
structure Inherits (p outer : Policy) (line : List Settings) : Prop where
  target : p.target = nearest Settings.target? line outer.target
  sendResolved : p.sendResolved = nearest Settings.sendResolved line outer.sendResolved
  groupWait : p.groupWait = nearest Settings.groupWait line outer.groupWait
  groupInterval : p.groupInterval = nearest Settings.groupInterval line outer.groupInterval
  repeatInterval : p.repeatInterval = nearest Settings.repeatInterval line outer.repeatInterval

theorem inherits_nil (p : Policy) : p.Inherits p [] := ⟨rfl, rfl, rfl, rfl, rfl⟩

theorem resolve_target (s : Settings) (outer : Policy) :
    (s.resolve outer).target = s.target?.getD outer.target := by
  unfold Settings.resolve Settings.target?
  cases s.sendTo with
  | none => rfl
  | some t => by_cases h : t = "" <;> simp [h, Option.filter]

/-- A line that sets a policy inside the one of an outer route sets it from further outside, once
the outer route is put at its end. -/
theorem Inherits.append {p outer : Policy} {s : Settings} {line : List Settings}
    (h : p.Inherits (s.resolve outer) line) : p.Inherits outer (line ++ [s]) where
  target := by rw [nearest_append, ← resolve_target]; exact h.target
  sendResolved := by rw [nearest_append]; exact h.sendResolved
  groupWait := by rw [nearest_append]; exact h.groupWait
  groupInterval := by rw [nearest_append]; exact h.groupInterval
  repeatInterval := by rw [nearest_append]; exact h.repeatInterval

end Policy

namespace Routes

/-- What stands at a path of the routes that are built, by what stands there in the configuration.
-/
theorem ofConfig_get? [Regex.SizeLimit] {outer : Policy} {c : Config} {routes : Routes}
    (h : (ofConfig outer c).result = .ok routes) {path : List ℕ} {r : Route} {below : Routes}
    (hr : routes.get? path = some (r, below)) :
    ∃ s inner, c.get? path = some (s, inner) ∧ r.policy.Inherits outer (c.line path) ∧
      r.policy.groupBy = .ofNames s.groupBy := by
  induction c generalizing outer routes path with
  | nil =>
    obtain rfl := ofConfig_nil_eq_ok_iff.mp h
    simp at hr
  | node s children rest ihc ihr =>
    obtain ⟨gate, built, more, -, hc, hrest, rfl⟩ := ofConfig_node_eq_ok_iff.mp h
    match path with
    | [] => simp at hr
    | [0] =>
      cases hr
      refine ⟨s, children, rfl, ?_, rfl⟩
      rw [line_zero, line_nil_path]
      exact (Policy.inherits_nil _).append
    | 0 :: i :: path =>
      obtain ⟨t, inner, ht, hp, hg⟩ := ihc hc hr
      refine ⟨t, inner, ht, ?_, hg⟩
      rw [line_zero]
      exact hp.append
    | (i + 1) :: path =>
      obtain ⟨t, inner, ht, hp, hg⟩ := ihr hrest hr
      refine ⟨t, inner, ht, ?_, hg⟩
      rw [line_succ]
      exact hp

/-- Each part of the policy of a route is what the nearest route of its line sets, the route itself
being first, or else what the policy from outside has; its grouping has the names that are written
for the route itself, and no others. -/
theorem policy_eq_nearest [Regex.SizeLimit] {outer : Policy} {c : Config} {routes : Routes}
    (h : (ofConfig outer c).result = .ok routes) {path : List ℕ} {r : Route} {below : Routes}
    (hr : routes.get? path = some (r, below)) :
    ∃ s inner around, c.get? path = some (s, inner) ∧ c.line path = s :: around ∧
      r.policy.target = nearest Settings.target? (c.line path) outer.target ∧
      r.policy.sendResolved = nearest Settings.sendResolved (c.line path) outer.sendResolved ∧
      r.policy.groupWait = nearest Settings.groupWait (c.line path) outer.groupWait ∧
      r.policy.groupInterval = nearest Settings.groupInterval (c.line path) outer.groupInterval ∧
      r.policy.repeatInterval = nearest Settings.repeatInterval (c.line path) outer.repeatInterval ∧
      ∀ n, n ∈ r.policy.groupBy.names ↔ n ∈ s.groupBy := by
  obtain ⟨s, inner, hs, hp, hg⟩ := ofConfig_get? h hr
  obtain ⟨around, hline⟩ := line_eq_cons hs
  refine ⟨s, inner, around, hs, hline, hp.target, hp.sendResolved, hp.groupWait, hp.groupInterval,
    hp.repeatInterval, fun n => ?_⟩
  rw [hg]
  exact NameSet.mem_names_ofNames

attribute [local instance] Regex.SizeLimit.unlimited

def teamConfig : Config :=
  .node { Settings.empty with sendTo := some "team", groupBy := ["zone"] }
    (.node { Settings.empty with sendTo := some "", groupWait := some (.ofSeconds 1) } .nil .nil)
    .nil

/-- The inner route has the target of the outer one, but not its grouping. -/
theorem policy_eq_nearest_teamConfig : ∃ routes r below,
    (ofConfig .fallback teamConfig).result = .ok routes ∧ routes.get? [0, 0] = some (r, below) ∧
      r.policy.target = "team" ∧ r.policy.groupWait = .ofSeconds 1 ∧
      r.policy.repeatInterval = .ofSeconds 3600 ∧ ∀ n, n ∉ r.policy.groupBy.names := by
  refine ⟨_, _, _, rfl, rfl, ?_⟩
  obtain ⟨s, inner, around, hs, -, htarget, -, hwait, -, hrepeat, hgroup⟩ :=
    @policy_eq_nearest _ .fallback teamConfig _ rfl [0, 0] _ _ rfl
  cases hs
  exact ⟨htarget, hwait, hrepeat, fun n hn => List.not_mem_nil ((hgroup n).mp hn)⟩

end Routes

end AlertRouting
