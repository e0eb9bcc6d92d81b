import AlertRouting.Proofs.Config.Checked
import AlertRouting.Proofs.Routing.Inheritance
import AlertRouting.Proofs.Routing.TraceResult

/-!
# Sane policies

A policy is sane if the dispatcher can work with it. Checking looks at what is written for each
route, but a policy also has what comes from further out. Sanity is kept on the way in, from the
fallback policy to the innermost route.
-/
namespace AlertRouting

/-- The dispatcher can work with the policy. -/
structure Policy.Sane (p : Policy) : Prop where
  groupInterval : p.groupInterval ≠ .zero
  repeatInterval : p.repeatInterval ≠ .zero
  groupBy : ∀ n ∈ p.groupBy.names, isLabelName n

theorem Policy.sane_fallback : Policy.fallback.Sane :=
  ⟨by decide, by decide, fun _ hn => absurd hn List.not_mem_nil⟩

/-- A value that is not zero stays so when it is replaced by another that is not. -/
theorem Duration.getD_ne_zero {d : Option Duration} {outer : Duration} (hd : d ≠ some .zero)
    (houter : outer ≠ .zero) : d.getD outer ≠ .zero := by
  cases d with
  | none => exact houter
  | some d => exact fun h => hd (congrArg some h)

/-- Valid settings keep the policy from outside sane. -/
theorem Settings.Valid.sane_resolve [Regex.SizeLimit] {s : Settings} {outer : Policy}
    (hs : s.Valid) (houter : outer.Sane) : (s.resolve outer).Sane where
  groupInterval := Duration.getD_ne_zero hs.groupInterval houter.groupInterval
  repeatInterval := Duration.getD_ne_zero hs.repeatInterval houter.repeatInterval
  groupBy n hn := hs.groupByNames n (NameSet.mem_names_ofNames.mp hn)

namespace Routes

variable {labels : Labels} {outer : Policy} {c : Config} {routes : Routes}

/-- Valid routes inside a sane policy have sane policies. -/
theorem sane_of_ofConfig [Regex.SizeLimit] (hc : ∀ s ∈ c, s.Valid) (houter : outer.Sane)
    (h : (ofConfig outer c).result = .ok routes) : ∀ r ∈ routes, r.policy.Sane := by
  induction c generalizing outer routes with
  | nil =>
    obtain rfl := ofConfig_nil_eq_ok_iff.mp h
    simp
  | node s children rest ihc ihr =>
    obtain ⟨hs, hchildren, hrest⟩ := Forest.forall_mem_node_iff.mp hc
    obtain ⟨gate, below, more, -, hbelow, hmore, rfl⟩ := ofConfig_node_eq_ok_iff.mp h
    have hsane := hs.sane_resolve houter
    exact Forest.forall_mem_node_iff.mpr
      ⟨hsane, ihc hchildren hsane hbelow, ihr hrest houter hmore⟩

/-- The steps of a level are not nested deeper than its routes. -/
theorem depth_steps (routes : Routes) : (steps labels routes).depth ≤ routes.depth := by
  induction routes with
  | nil => exact le_rfl
  | node r children rest ihc ihr =>
    rw [steps_node, Route.stepsInside]
    split_ifs <;> simp only [Forest.depth] <;> omega

theorem depth_steps_le (found : List Policy) (routes : Routes) :
    (walk labels found routes).steps.depth ≤ routes.depth := by
  rw [walk_eq]
  exact depth_steps routes

/-- What is found for an alert is the fallback policy or one of a route. -/
theorem eq_fallback_or_mem_of_mem_matches {p : Policy} (h : p ∈ routes.matches labels) :
    p = .fallback ∨ ∃ r ∈ routes, r.policy = p := by
  rw [matches_eq] at h
  split_ifs at h
  · exact .inl (List.mem_singleton.mp h)
  · exact .inr (exists_mem_of_mem_visit h)

/-- So is what a trace finds. -/
theorem eq_fallback_or_mem_of_mem_trace {p : Policy} (h : p ∈ (routes.trace labels).result) :
    p = .fallback ∨ ∃ r ∈ routes, r.policy = p := by
  rw [trace_eq] at h
  exact eq_fallback_or_mem_of_mem_matches h

theorem steps_trace (routes : Routes) (labels : Labels) :
    (routes.trace labels).steps = (routes.walk labels []).steps := by
  simp only [trace]
  split_ifs <;> rfl

/-- Whatever policy an alert gets from a configuration that was built is sane, by a trace or
without one, and so is the policy of every route. A grouping has a name for each that is written.
Neither the routes nor the steps of a trace are nested deeper than allowed. -/
theorem sane_of_build [Regex.SizeLimit] (h : c.build.result = .ok routes) (labels : Labels) :
    (∀ p ∈ routes.matches labels, p.Sane) ∧ (∀ p ∈ (routes.trace labels).result, p.Sane) ∧
    (∀ path r below, routes.get? path = some (r, below) → r.policy.Sane ∧
      ∃ s inner, c.get? path = some (s, inner) ∧ r.policy.groupBy.size = s.groupBy.length) ∧
    routes.depth ≤ maxDepth ∧
    (∀ path, ((routes.trace labels).steps.get? path).isSome → path.length ≤ maxDepth) ∧
    ∀ path r below, routes.get? path = some (r, below) → ∀ (found : List Policy) (inner : List ℕ),
      ((r.walk below labels found).steps.get? inner).isSome → inner.length ≤ maxDepth := by
  obtain ⟨hvalidate, hroutes⟩ := Config.build_result_eq_ok_iff.mp h
  obtain ⟨hdepth, hvalid⟩ := Config.validate_eq_ok_iff.mp hvalidate
  have hsane := sane_of_ofConfig hvalid Policy.sane_fallback hroutes
  have hfound {p : Policy} (hp : p = .fallback ∨ ∃ r ∈ routes, r.policy = p) : p.Sane := by
    rcases hp with rfl | ⟨r, hr, rfl⟩
    · exact Policy.sane_fallback
    · exact hsane r hr
  rw [← depth_of_ofConfig hroutes] at hdepth
  refine ⟨fun p hp => hfound (eq_fallback_or_mem_of_mem_matches hp),
    fun p hp => hfound (eq_fallback_or_mem_of_mem_trace hp), fun path r below hr => ?_, hdepth,
    fun path hpath => ?_, fun path r below hr found inner hinner => ?_⟩
  · obtain ⟨s, inner, hs, -, hgroup⟩ := ofConfig_get? hroutes hr
    refine ⟨hsane r (Forest.mem_of_get? hr), s, inner, hs, ?_⟩
    rw [hgroup, NameSet.size_ofNames (hvalid s (Forest.mem_of_get? hs)).groupByNodup]
  · obtain ⟨t, ht⟩ := Option.isSome_iff_exists.mp hpath
    rw [steps_trace] at ht
    exact ((Forest.length_le_depth ht).trans (depth_steps_le [] routes)).trans hdepth
  · obtain ⟨t, ht⟩ := Option.isSome_iff_exists.mp hinner
    have hsteps : inner.length ≤ below.depth + 1 :=
      (Forest.length_le_depth ht).trans (depth_steps_le found (.node r below .nil))
    have hbelow := Forest.length_add_depth_le hr
    have hpath : 1 ≤ path.length := List.length_pos_iff.mpr fun hnil => by simp [hnil] at hr
    omega

attribute [local instance] Regex.SizeLimit.unlimited

def intervalConfig : Config :=
  .node { Settings.empty with groupBy := ["zone", "team"], groupInterval := some (.ofSeconds 1) }
    (.node Settings.empty .nil .nil) .nil

/-- All policies of this configuration are sane, also the one whose interval is from outside. -/
theorem sane_of_build_interval : ∃ routes, intervalConfig.build.result = .ok routes ∧
    (∀ labels, ∀ p ∈ routes.matches labels, p.Sane) ∧
    ∃ r below, routes.get? [0, 0] = some (r, below) ∧
      r.policy.groupInterval = .ofSeconds 1 ∧ r.policy.Sane := by
  have hvalidate : intervalConfig.validate = .ok () := by decide +kernel
  have hroutes : (ofConfig .fallback intervalConfig).result = .ok _ := rfl
  have hbuild := Config.build_result_eq_ok_iff.mpr ⟨hvalidate, hroutes⟩
  refine ⟨_, hbuild, fun labels => (sane_of_build hbuild labels).1, _, _, rfl, rfl, ?_⟩
  exact ((sane_of_build hbuild ∅).2.2.1 [0, 0] _ _ rfl).1

end Routes

end AlertRouting
