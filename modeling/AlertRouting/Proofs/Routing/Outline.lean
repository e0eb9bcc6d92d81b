import AlertRouting.Proofs.Config.Checked
import AlertRouting.Proofs.Forest.Levels
import AlertRouting.Proofs.Routing.Mirror
import AlertRouting.Proofs.Text.Gate
import AlertRouting.Proofs.Text.Lines
import AlertRouting.Proofs.Text.Policy

/-!
# Reading an outline back

The line of a route shows its matchers, its flag and the parts of its policy that are shown, and the
indentation of the line shows its level. So the outline of checked routes determines all of this.
-/
namespace AlertRouting

/-- What is written for a matcher determines it. -/
theorem Matcher.written_injective : Function.Injective Matcher.written := by
  rintro ⟨name, c⟩ ⟨name', c'⟩ h
  simp only [written, Prod.mk.injEq] at h
  obtain ⟨rfl, hkind, htext⟩ := h
  cases c with
  | equals value =>
    cases c' with
    | equals value' =>
      obtain rfl : value = value' := htext
      rfl
    | matching pattern => cases hkind
  | matching pattern =>
    cases c' with
    | equals value => cases hkind
    | matching pattern' => rw [Pattern.ext_text htext]

structure Route.Shown where
  matchers : List (String × Bool × String)
  continues : Bool
  policy : Policy.Shown

namespace Route

def shown (r : Route) : Shown := ⟨r.gate.map Matcher.written, r.continues, r.policy.shown⟩

def Named (r : Route) : Prop := ∀ m ∈ r.gate, m ∈ Matcher.named

variable {r t : Route}

theorem toList_line (r : Route) : r.line.toList = r.gate.text.toList ++ (' ' ::
    (r.policy.text.toList ++ (if r.continues then " continue" else "").toList)) := by
  simp [line]

/-- The line of a route determines what it shows. -/
theorem shown_eq_of_line (hr : r.Named) (ht : t.Named) (h : r.line = t.line) :
    r.shown = t.shown := by
  have hlists : r.line.toList = t.line.toList := by rw [h]
  rw [toList_line, toList_line] at hlists
  obtain ⟨hgate, hbehind⟩ := Gate.eq_of_text_append hr ht hlists
  obtain ⟨hpolicy, hflag⟩ := Policy.shown_eq_of_text_append (List.cons.inj hbehind).2
  have hcontinues : r.continues = t.continues := by
    cases hrc : r.continues <;> cases htc : t.continues <;> simp [hrc, htc] at hflag ⊢
  rw [shown, shown, hgate, hpolicy, hcontinues]

theorem line_eq_of_shown (h : r.shown = t.shown) : r.line = t.line := by
  simp only [shown, Shown.mk.injEq] at h
  obtain ⟨hgate, hcontinues, hpolicy⟩ := h
  rw [line, line, Policy.text_eq_of_shown hpolicy, hcontinues,
    List.map_injective_iff.mpr Matcher.written_injective hgate]

theorem newline_notMem_line (hr : r.Named) : '\n' ∉ r.line.toList := by
  have hgate : '\n' ∉ r.gate.text.toList := Gate.newline_notMem_text hr
  have hpolicy : '\n' ∉ r.policy.text.toList := r.policy.newline_notMem_text
  have hflag : '\n' ∉ (if r.continues then " continue" else "").toList := by
    cases r.continues <;> decide
  simp [toList_line, hgate, hpolicy, hflag]

theorem head?_line (r : Route) : r.line.toList.head? = some '\x7b' := by
  rw [toList_line, Gate.text, Text.toList_braces]
  rfl

end Route

/-- Lists that agree in one way agree in another, if their members do. -/
theorem map_eq_map_of_imp {α β γ : Type} {v : α → β} {w : α → γ} {l m : List α}
    (himp : ∀ a ∈ l, ∀ b ∈ m, v a = v b → w a = w b) (h : l.map v = m.map v) :
    l.map w = m.map w := by
  induction l generalizing m with
  | nil =>
    rw [List.map_nil, eq_comm, List.map_eq_nil_iff] at h
    rw [h]
  | cons a l ih =>
    cases m with
    | nil => cases h
    | cons b m =>
      simp only [List.map_cons, List.cons.injEq] at h ⊢
      exact ⟨himp a List.mem_cons_self b List.mem_cons_self h.1,
        ih (fun a ha b hb => himp a (List.mem_cons_of_mem _ ha) b (List.mem_cons_of_mem _ hb)) h.2⟩

namespace Routes

variable {routes routes' : Routes}

def indentedLine (n : ℕ × Route) : String := outlineIndentation n.1 ++ n.2.line

theorem outlineLines_eq (routes : Routes) (k : ℕ) :
    outlineLines k routes = (routes.levels k).map indentedLine := by
  induction routes generalizing k with
  | nil => rfl
  | node r children rest ihc ihr =>
    simp [outlineLines, Forest.levels, indentedLine, ihc, ihr]

theorem leadingBlanks_indentedLine (n : ℕ × Route) :
    Text.leadingBlanks (indentedLine n) = 2 * n.1 :=
  Text.leadingBlanks_append _ (by rw [Route.head?_line]; decide)

theorem newline_notMem_indentedLine {n : ℕ × Route} (h : n.2.Named) :
    '\n' ∉ (indentedLine n).toList := by
  have hindentation : '\n' ∉ (outlineIndentation n.1).toList := by
    simp [outlineIndentation, List.mem_replicate]
  simp [indentedLine, hindentation, Route.newline_notMem_line h]

/-- An outline has one line for each route, in the order of a walk. -/
theorem linesOf_outline (h : ∀ r ∈ routes, r.Named) :
    Text.linesOf routes.outline = (routes.levels 0).map indentedLine := by
  rw [outline, outlineLines_eq]
  refine Text.linesOf_lines (List.forall_mem_map.mpr fun n hn => ?_)
  exact newline_notMem_indentedLine (h n.2 (Forest.snd_mem_of_mem_levels hn))

/-- An indented line determines the level, and what is shown of the route. -/
theorem shown_eq_of_indentedLine {m n : ℕ × Route} (hm : m.2.Named) (hn : n.2.Named)
    (h : indentedLine m = indentedLine n) : (m.1, m.2.shown) = (n.1, n.2.shown) := by
  have hblanks := congrArg Text.leadingBlanks h
  rw [leadingBlanks_indentedLine, leadingBlanks_indentedLine] at hblanks
  have hlevel : m.1 = n.1 := by omega
  have hlists : (indentedLine m).toList = (indentedLine n).toList := by rw [h]
  simp only [indentedLine, String.toList_append, hlevel, List.append_cancel_left_eq,
    String.toList_inj] at hlists
  rw [hlevel, Route.shown_eq_of_line hm hn hlists]

/-- The outline determines the routes as far as they are shown. -/
theorem map_shown_eq_iff (h : ∀ r ∈ routes, r.Named) (h' : ∀ r ∈ routes', r.Named) :
    routes.outline = routes'.outline ↔ routes.map Route.shown = routes'.map Route.shown := by
  have hlevels (routes : Routes) : (routes.map Route.shown).levels 0 =
      (routes.levels 0).map fun n => (n.1, n.2.shown) := Forest.levels_map _ _ _
  constructor
  · intro heq
    have hlines := congrArg Text.linesOf heq
    rw [linesOf_outline h, linesOf_outline h'] at hlines
    refine Forest.levels_injective 0 ?_
    rw [hlevels, hlevels]
    refine map_eq_map_of_imp (fun m hm n hn => ?_) hlines
    exact shown_eq_of_indentedLine (h _ (Forest.snd_mem_of_mem_levels hm))
      (h' _ (Forest.snd_mem_of_mem_levels hn))
  · intro heq
    have hshown := congrArg (Forest.levels 0) heq
    rw [hlevels, hlevels] at hshown
    rw [outline, outline, outlineLines_eq, outlineLines_eq]
    congr 1
    refine map_eq_map_of_imp (fun m _ n _ hmn => ?_) hshown
    obtain ⟨hlevel, hline⟩ := Prod.mk.inj hmn
    rw [indentedLine, indentedLine, hlevel, Route.line_eq_of_shown hline]

end Routes

theorem Settings.Valid.named [Regex.SizeLimit] {s : Settings} {g : Gate} (hs : s.Valid)
    (h : s.gate = .ok g) : ∀ m ∈ g, m ∈ Matcher.named := by
  intro m hm
  have hwritten : m.written ∈ g.map Matcher.written := List.mem_map_of_mem hm
  rw [map_written_gate h, List.mem_append, List.mem_map, List.mem_map] at hwritten
  rcases hwritten with ⟨e, he, hname⟩ | ⟨e, he, hname⟩
  · have hm : e.1 = m.name := congrArg Prod.fst hname
    show isLabelName m.name
    exact hm ▸ hs.exactNames e.1 (List.mem_map_of_mem he)
  · have hm : e.1 = m.name := congrArg Prod.fst hname
    show isLabelName m.name
    exact hm ▸ hs.patternNames e.1 (List.mem_map_of_mem he)

namespace Routes

/-- The matchers of routes that are built from valid settings have label names. -/
theorem named_of_ofConfig [Regex.SizeLimit] {outer : Policy} {c : Config}
    (hc : ∀ s ∈ c, s.Valid) (h : (ofConfig outer c).result = .ok routes) : ∀ r ∈ routes, r.Named :=
  (forall₂_of_ofConfig h).forall_mem hc fun _ _ hmakes hs => hs.named hmakes.gate

theorem named_of_build [Regex.SizeLimit] {c : Config} {routes : Routes}
    (h : c.build.result = .ok routes) : ∀ r ∈ routes, r.Named := by
  obtain ⟨hvalidate, hroutes⟩ := Config.build_result_eq_ok_iff.mp h
  exact named_of_ofConfig (Config.validate_eq_ok_iff.mp hvalidate).2 hroutes

/-- The outlines of routes that are built are the same if and only if the routes have the same shape
and show the same at every path. An outline has one line for each route, in the order of their paths,
with two blanks in front for each level above it, and no more. -/
theorem outline_determines_shown [Regex.SizeLimit] {c c' : Config} {routes routes' : Routes}
    (h : c.build.result = .ok routes) (h' : c'.build.result = .ok routes') :
    (routes.outline = routes'.outline ↔ ∀ path, (routes.get? path).map (fun t => t.1.shown) =
      (routes'.get? path).map fun t => t.1.shown) ∧
    Text.linesOf routes.outline = routes.nodes.map (fun n =>
      String.ofList (List.replicate (2 * (n.1.length - 1)) ' ') ++ n.2.line) ∧
    (Text.linesOf routes.outline).map Text.leadingBlanks =
      routes.nodes.map (fun n => 2 * (n.1.length - 1)) ∧
    routes.nodes.Pairwise fun m n => m.1 < n.1 := by
  have hlines : Text.linesOf routes.outline = routes.nodes.map (fun n =>
      indentedLine (n.1.length - 1, n.2)) := by
    rw [linesOf_outline (named_of_build h), Forest.levels_eq_map_nodes, List.map_map]
    rfl
  have hblanks : (Text.linesOf routes.outline).map Text.leadingBlanks =
      routes.nodes.map (fun n => 2 * (n.1.length - 1)) := by
    rw [hlines, List.map_map]
    exact List.map_congr_left fun n _ => leadingBlanks_indentedLine _
  refine ⟨?_, hlines, hblanks, routes.pairwise_nodes⟩
  rw [map_shown_eq_iff (named_of_build h) (named_of_build h')]
  exact Forest.map_eq_map_iff

attribute [local instance] Regex.SizeLimit.unlimited

/-- A route whose target looks like the end of a line and the start of another, with one inside. -/
def brokenTargetConfig (repeatInterval : Duration) : Config :=
  .node { Settings.empty with
      sendTo := some "a\" continue\n  \x7b\x7d", exact := .ofList [("zone", "eu")],
      repeatInterval := some repeatInterval }
    (.node .empty .nil .nil) .nil

/-- The outline has two lines, and does not show the interval. -/
theorem outline_determines_shown_brokenTarget : ∃ routes routes',
    (brokenTargetConfig (.ofSeconds 1)).build.result = .ok routes ∧
      (brokenTargetConfig (.ofSeconds 2)).build.result = .ok routes' ∧
      routes ≠ routes' ∧ routes.outline = routes'.outline ∧
      (Text.linesOf routes.outline).map Text.leadingBlanks = [0, 2] := by
  have hvalidate (n : ℕ) (hn : n = 1 ∨ n = 2) :
      (brokenTargetConfig (.ofSeconds n)).validate = .ok () := by
    rcases hn with rfl | rfl <;> decide +kernel
  have hroutes (d : Duration) : (ofConfig .fallback (brokenTargetConfig d)).result = .ok _ := rfl
  have h := Config.build_result_eq_ok_iff.mpr ⟨hvalidate 1 (.inl rfl), hroutes _⟩
  have h' := Config.build_result_eq_ok_iff.mpr ⟨hvalidate 2 (.inr rfl), hroutes _⟩
  obtain ⟨hiff, -, hblanks, -⟩ := outline_determines_shown h h'
  refine ⟨_, _, h, h', by decide, hiff.mpr ?_, hblanks⟩
  exact Forest.map_eq_map_iff.mp rfl

end Routes

end AlertRouting
