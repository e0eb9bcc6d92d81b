import AlertRouting.Proofs.Forest.Related
import AlertRouting.Route.Build

/-!
# When routes are built

Building a level succeeds if and only if the gate of its first route can be made, and the routes
inside that route and those after it are built. What is built has the shape of what is written.
-/
namespace AlertRouting

structure Settings.Makes [Regex.SizeLimit] (s : Settings) (r : Route) : Prop where
  gate : s.gate = .ok r.gate
  continues : r.continues = s.continues

namespace Routes

variable [Regex.SizeLimit] {outer : Policy} {s : Settings} {children rest : Config}
  {routes : Routes}

theorem ofConfig_nil_eq_ok_iff : (ofConfig outer .nil).result = .ok routes ↔ routes = .nil := by
  simp [ofConfig, eq_comm]

theorem ofConfig_node_eq_ok_iff :
    (ofConfig outer (.node s children rest)).result = .ok routes ↔
      ∃ gate below more, s.gate = .ok gate ∧
        (ofConfig (s.resolve outer) children).result = .ok below ∧
        (ofConfig outer rest).result = .ok more ∧
        routes = .node ⟨s.resolve outer, gate, s.continues⟩ below more := by
  rw [ofConfig]
  cases hg : s.gate with
  | error e => simp
  | ok gate =>
    cases hc : (ofConfig (s.resolve outer) children).result with
    | error e => simp [hc]
    | ok below =>
      cases hr : (ofConfig outer rest).result with
      | error e => simp [hc, hr, Except.map]
      | ok more => simp [hc, hr, Except.map, eq_comm]

/-- Building succeeds if and only if all gates can be made. The policy from outside has no part. -/
theorem exists_ofConfig_iff {c : Config} :
    (∃ routes, (ofConfig outer c).result = .ok routes) ↔ ∀ s ∈ c, ∃ gate, s.gate = .ok gate := by
  induction c generalizing outer with
  | nil => simp [ofConfig]
  | node s children rest ihc ihr =>
    rw [Forest.forall_mem_node_iff, ← @ihc (s.resolve outer), ← @ihr outer]
    simp only [ofConfig_node_eq_ok_iff]
    constructor
    · rintro ⟨-, gate, below, more, hgate, hbelow, hmore, -⟩
      exact ⟨⟨gate, hgate⟩, ⟨below, hbelow⟩, ⟨more, hmore⟩⟩
    · rintro ⟨⟨gate, hgate⟩, ⟨below, hbelow⟩, ⟨more, hmore⟩⟩
      exact ⟨_, gate, below, more, hgate, hbelow, hmore, rfl⟩

/-- The routes that are built have the shape of what is written, and each is made from what is written
for it. -/
theorem forall₂_of_ofConfig {c : Config} (h : (ofConfig outer c).result = .ok routes) :
    Forest.Forall₂ Settings.Makes c routes := by
  induction c generalizing outer routes with
  | nil =>
    obtain rfl := ofConfig_nil_eq_ok_iff.mp h
    exact .nil
  | node s children rest ihc ihr =>
    obtain ⟨gate, below, more, hgate, hbelow, hmore, rfl⟩ := ofConfig_node_eq_ok_iff.mp h
    exact .node ⟨hgate, rfl⟩ (ihc hbelow) (ihr hmore)

/-- Every route that is written is built, with the gate and the flag that are written for it. -/
theorem exists_get?_of_ofConfig {c inner : Config} {path : List ℕ}
    (h : (ofConfig outer c).result = .ok routes) (hs : c.get? path = some (s, inner)) :
    ∃ r below, routes.get? path = some (r, below) ∧ s.gate = .ok r.gate ∧
      r.continues = s.continues := by
  obtain ⟨r, below, hr, hmakes, -⟩ := (forall₂_of_ofConfig h).exists_get?_eq hs
  exact ⟨r, below, hr, hmakes.gate, hmakes.continues⟩

/-- Routes are nested as deep as they are written. -/
theorem depth_of_ofConfig {c : Config} (h : (ofConfig outer c).result = .ok routes) :
    routes.depth = c.depth :=
  (forall₂_of_ofConfig h).depth_eq.symm

end Routes

end AlertRouting
