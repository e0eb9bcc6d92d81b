import AlertRouting.Proofs.Config.Editing
import AlertRouting.Proofs.Routing.Building
import AlertRouting.Proofs.Routing.Frontier
import AlertRouting.Proofs.Routing.Gates

/-!
# Routes that an alert does not get to

A route whose gate does not hold, or that stands after one that keeps the alert, has no part in
matching. It may be put in or taken out, with all that is inside it.
-/
namespace AlertRouting

open Forest (Inserted)

namespace Routes

variable {labels : Labels} {outer : Policy} {routes routes' : Routes} {path : List ℕ}

/-- Before the route at the path, another of its level keeps the alert. -/
def Shadowed (routes : Routes) (labels : Labels) (path : List ℕ) : Prop :=
  ∃ front i j t, path = front ++ [i] ∧ j < i ∧ routes.get? (front ++ [j]) = some t ∧
    t.1.Keeps labels

variable {r t : Route} {below children rest : Routes}

theorem not_shadowed_zero : ¬ Shadowed routes labels [0] := by
  rintro ⟨front, i, j, t, hpath, hj, -⟩
  have hlength := congrArg List.length hpath
  obtain rfl : front = [] := List.eq_nil_of_length_eq_zero (by simpa using hlength)
  obtain rfl : i = 0 := by simpa using hpath.symm
  exact Nat.not_lt_zero j hj

theorem Shadowed.inside (hpath : path ≠ [])
    (h : Shadowed (.node t children rest) labels (0 :: path)) : children.Shadowed labels path := by
  obtain ⟨front, i, j, u, heq, hj, hu, hkeeps⟩ := h
  cases front with
  | nil => exact absurd (List.cons.inj heq).2 hpath
  | cons k front =>
    obtain ⟨rfl, rfl⟩ := List.cons.inj heq
    refine ⟨front, i, j, u, rfl, hj, ?_, hkeeps⟩
    cases front <;> exact hu

theorem Shadowed.after {i : ℕ} (ht : ¬ t.Keeps labels)
    (h : Shadowed (.node t children rest) labels ((i + 1) :: path)) :
    rest.Shadowed labels (i :: path) := by
  obtain ⟨front, k, j, u, heq, hj, hu, hkeeps⟩ := h
  cases front with
  | nil =>
    obtain ⟨rfl, rfl⟩ := List.cons.inj heq
    cases j with
    | zero =>
      cases hu
      exact absurd hkeeps ht
    | succ j => exact ⟨[], i, j, u, rfl, Nat.lt_of_succ_lt_succ hj, hu, hkeeps⟩
  | cons m front =>
    obtain ⟨rfl, rfl⟩ := List.cons.inj heq
    exact ⟨i :: front, k, j, u, rfl, hj, hu, hkeeps⟩

/-- What is found on a level depends on what is found inside its first route and after it, and
after it only if the route does not keep the alert. -/
theorem visit_node_congr {children' rest' : Routes}
    (hchildren : (visit labels children').result = (visit labels children).result)
    (hrest : ¬ t.Keeps labels → (visit labels rest').result = (visit labels rest).result) :
    (visit labels (.node t children' rest')).result =
      (visit labels (.node t children rest)).result := by
  by_cases ht : t.gate.holds labels
  · rw [visit_of_holds ht, visit_of_holds ht, hchildren]
    by_cases hk : t.continues
    · rw [hrest fun hkeeps => by simp [hkeeps.2] at hk]
    · rw [if_neg hk, if_neg hk]
  · rw [Bool.not_eq_true] at ht
    rw [visit_of_not_holds ht, visit_of_not_holds ht]
    exact hrest fun hkeeps => by simp [hkeeps.1] at ht

/-- A route that the alert does not enter changes nothing for the routes around it. -/
theorem visit_of_inserted (hinserted : Inserted r below path routes routes')
    (h : r.gate.holds labels = false ∨ routes.Shadowed labels path) :
    (visit labels routes').result = (visit labels routes).result := by
  induction hinserted with
  | here routes => exact visit_of_not_holds (h.resolve_right not_shadowed_zero)
  | inside t rest hinserted ih =>
    exact visit_node_congr (ih (h.imp_right (Shadowed.inside hinserted.ne_nil))) fun _ => rfl
  | after t children hinserted ih =>
    exact visit_node_congr rfl fun ht => ih (h.imp_right (Shadowed.after ht))

/-- Building a configuration with one more route gives the routes with one more route. -/
theorem inserted_of_ofConfig [Regex.SizeLimit] {c c' inner : Config} {s : Settings}
    (hinserted : Inserted s inner path c c') (h : (ofConfig outer c).result = .ok routes)
    (h' : (ofConfig outer c').result = .ok routes') :
    ∃ r below, Inserted r below path routes routes' ∧ s.gate = .ok r.gate := by
  induction hinserted generalizing outer routes routes' with
  | here c =>
    obtain ⟨gate, below, more, hgate, -, hmore, rfl⟩ := ofConfig_node_eq_ok_iff.mp h'
    cases h.symm.trans hmore
    exact ⟨_, below, .here routes, hgate⟩
  | inside t rest hinserted ih =>
    obtain ⟨gate, below, more, hgate, hbelow, hmore, rfl⟩ := ofConfig_node_eq_ok_iff.mp h
    obtain ⟨gate', below', more', hgate', hbelow', hmore', rfl⟩ := ofConfig_node_eq_ok_iff.mp h'
    cases hgate.symm.trans hgate'
    cases hmore.symm.trans hmore'
    obtain ⟨r, inner', hr, hgate⟩ := ih hbelow hbelow'
    exact ⟨r, inner', .inside _ _ hr, hgate⟩
  | after t children hinserted ih =>
    obtain ⟨gate, below, more, hgate, hbelow, hmore, rfl⟩ := ofConfig_node_eq_ok_iff.mp h
    obtain ⟨gate', below', more', hgate', hbelow', hmore', rfl⟩ := ofConfig_node_eq_ok_iff.mp h'
    cases hgate.symm.trans hgate'
    cases hbelow.symm.trans hbelow'
    obtain ⟨r, inner', hr, hgate⟩ := ih hmore hmore'
    exact ⟨r, inner', .after _ _ hr, hgate⟩

/-- A route may be put in anywhere, or taken out, without a change of what an alert finds, if the
labels do not meet what is written for the route, or meet what is written for an earlier route of its
level that does not continue. What the route has inside it, sets or continues does not matter. -/
theorem matches_of_irrelevant [Regex.SizeLimit] {c c' inner : Config} {s : Settings}
    (hedit : Inserted s inner path c c' ∨
      c'.get? path = some (s, inner) ∧ c'.remove? path = some c)
    (h : (ofConfig outer c).result = .ok routes) (h' : (ofConfig outer c').result = .ok routes')
    (hs : ¬ s.Admits labels ∨ ∃ front i j t around, path = front ++ [i] ∧ j < i ∧
      c.get? (front ++ [j]) = some (t, around) ∧ t.Admits labels ∧ t.continues = false) :
    routes'.matches labels = routes.matches labels := by
  have hinserted : Inserted s inner path c c' := hedit.elim id Config.inserted_iff.mpr
  obtain ⟨r, below, hr, hgate⟩ := inserted_of_ofConfig hinserted h h'
  have hpassed : r.gate.holds labels = false ∨ routes.Shadowed labels path := by
    rcases hs with hs | ⟨front, i, j, t, around, rfl, hj, ht, hadmits, hcontinues⟩
    · left
      rw [← Bool.not_eq_true, Settings.gate_holds_iff hgate]
      exact hs
    · right
      obtain ⟨u, inside, hu, hgate', hflag⟩ := exists_get?_of_ofConfig h ht
      exact ⟨front, i, j, _, rfl, hj, hu, (Settings.gate_holds_iff hgate').mpr hadmits,
        hflag.trans hcontinues⟩
  rw [matches_eq, matches_eq, visit_of_inserted hr hpassed]

attribute [local instance] Regex.SizeLimit.unlimited

/-- A route for all alerts, and inside it another, with some routes after that. -/
def nestedConfig (later : Config) : Config := .node .empty (.node .empty .nil later) .nil

def teamSettings : Settings := { Settings.empty with sendTo := some "team", continues := true }

/-- After a route for all alerts, another with a route inside it may be put in. -/
theorem matches_of_irrelevant_nested : ∃ routes routes',
    (ofConfig .fallback (nestedConfig .nil)).result = .ok routes ∧
    (ofConfig .fallback (nestedConfig (.node teamSettings (.node .empty .nil .nil) .nil))).result =
      .ok routes' ∧
    ∀ labels, routes'.matches labels = routes.matches labels := by
  have hinserted : Inserted teamSettings (.node .empty .nil .nil) [0, 1] (nestedConfig .nil)
      (nestedConfig (.node teamSettings (.node .empty .nil .nil) .nil)) :=
    .inside _ _ (.after _ _ (.here _))
  have hempty (labels : Labels) : Settings.empty.Admits labels :=
    ⟨fun _ he => absurd he List.not_mem_nil, fun _ he => absurd he List.not_mem_nil⟩
  obtain ⟨routes, h⟩ : ∃ routes, (ofConfig .fallback (nestedConfig .nil)).result = .ok routes :=
    ⟨_, rfl⟩
  obtain ⟨routes', h'⟩ : ∃ routes', (ofConfig .fallback
      (nestedConfig (.node teamSettings (.node .empty .nil .nil) .nil))).result = .ok routes' :=
    ⟨_, rfl⟩
  refine ⟨routes, routes', h, h', fun labels => matches_of_irrelevant (.inl hinserted) h h' ?_⟩
  exact .inr ⟨[0], 1, 0, _, _, rfl, Nat.one_pos, rfl, hempty labels, rfl⟩

end Routes

end AlertRouting
