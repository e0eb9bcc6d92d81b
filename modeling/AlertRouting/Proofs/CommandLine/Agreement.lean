import AlertRouting.CommandLine.Command
import AlertRouting.Proofs.Routing.Failure
import AlertRouting.Proofs.Routing.Outline
import AlertRouting.Proofs.Routing.Root

/-!
# The commands agree

All commands load a file in the same way, and only then do what is their own. So they fail alike. When
they do not fail, what they print about the same routes fits together.
-/
namespace AlertRouting

def Text.unindentedLines (text : String) : ℕ := (linesOf text).countP (leadingBlanks · = 0)

/-- One more than half of the largest indentation of a line, or zero if there is no line. -/
def Text.indentedLevels (text : String) : ℕ :=
  ((linesOf text).map leadingBlanks).max?.elim 0 fun n => 1 + n / 2

/-- The depth of routes can be told from the indentations in their outline. -/
theorem Routes.depth_eq_indentedLevels {routes : Routes} (h : ∀ r ∈ routes, r.Named) :
    routes.depth = Text.indentedLevels routes.outline := by
  have hblanks : (Text.linesOf routes.outline).map Text.leadingBlanks =
      (routes.levels 0).map fun n => 2 * n.1 := by
    rw [linesOf_outline h, List.map_map]
    exact List.map_congr_left fun n _ => leadingBlanks_indentedLine n
  rw [Text.indentedLevels, hblanks]
  cases routes with
  | nil => rfl
  | node r children rest =>
    obtain ⟨p, hp, hlevel⟩ :=
      Forest.exists_mem_levels_deepest (f := .node r children rest) (k := 0) (by simp)
    have hmax : (((Forest.node r children rest).levels 0).map fun n => 2 * n.1).max? =
        some (2 * p.1) := by
      refine List.max?_eq_some_iff.mpr ⟨List.mem_map_of_mem hp, List.forall_mem_map.mpr ?_⟩
      intro q hq
      have hlt := Forest.lt_of_mem_levels hq
      omega
    rw [hmax, Option.elim_some]
    omega

/-- The routes at the top are the lines without an indentation. -/
theorem Routes.length_eq_unindentedLines {routes : Routes} (h : ∀ r ∈ routes, r.Named) :
    routes.length = Text.unindentedLines routes.outline := by
  rw [Text.unindentedLines, linesOf_outline h, List.countP_map, ← Forest.countP_levels routes 0]
  refine List.countP_congr fun n _ => ?_
  simp [leadingBlanks_indentedLine]

namespace CommandLine

variable [Regex.SizeLimit] {path : String} {content : Except ReadFault String}

/-- Nothing is recorded of a file that cannot be loaded. -/
theorem log_load_of_error {e : CommandError} (h : (load path content).result = .error e) :
    (load path content).log = [] := by
  unfold load at h ⊢
  cases content with
  | error fault => rfl
  | ok text =>
    cases hread : Config.read (formatOf path) text with
    | error e => simp only [hread]
    | ok c =>
      simp only [hread] at h ⊢
      rw [Config.log_build]
      cases hbuild : c.build.result with
      | error e => rfl
      | ok routes => simp [hbuild, Except.mapError] at h

/-- The routes of a file that is loaded are those of a configuration. -/
theorem exists_build_of_load {routes : Routes} (h : (load path content).result = .ok routes) :
    ∃ c : Config, c.build.result = .ok routes := by
  unfold load at h
  cases content with
  | error fault => cases h
  | ok text =>
    cases hread : Config.read (formatOf path) text with
    | error e => simp [hread] at h
    | ok c =>
      simp only [hread] at h
      cases hbuild : c.build.result with
      | error e => simp [hbuild, Except.mapError] at h
      | ok routes' =>
        simp only [hbuild, Except.mapError, Except.ok.injEq] at h
        exact ⟨c, h ▸ hbuild⟩

theorem respond_of_error {c : Command} {e : CommandError}
    (h : (load c.path content).result = .error e) :
    c.respond content = ⟨1, "", ["error: " ++ e.message]⟩ := by
  simp [Command.respond, Command.run, h, log_load_of_error h]

theorem exit_of_ok {c : Command} {routes : Routes} (h : (load c.path content).result = .ok routes) :
    (c.respond content).exit = 0 := by
  simp [Command.respond, Command.run, h]

theorem output_of_ok {c : Command} {routes : Routes}
    (h : (load c.path content).result = .ok routes) :
    (c.respond content).output = (c.action.report routes).result := by
  simp [Command.respond, Command.run, h]

/-- Whatever a file holds, either all commands fail on it, with the same message, with exit code 1
and without printing anything, or all succeed. Then the numbers that are reported on a check are those
of the lines without indentation and of the levels of the outline, and the lines that are printed for
an alert are the texts of its policies, of which there is at least one. -/
theorem commands_agree (path : String) (content : Except ReadFault String) :
    (∃ e : CommandError, ∀ action verbosity,
      (Command.mk action path verbosity).respond content = ⟨1, "", ["error: " ++ e.message]⟩) ∨
    ∃ routes, (load path content).result = .ok routes ∧
      (∀ action verbosity, ((Command.mk action path verbosity).respond content).exit = 0) ∧
      (∀ verbosity verbosity',
        ((Command.mk .check path verbosity).respond content).output =
          "Config valid (" ++ toString (Text.unindentedLines
              ((Command.mk .outline path verbosity').respond content).output) ++
            " top-level routes, depth " ++ toString (Text.indentedLevels
              ((Command.mk .outline path verbosity').respond content).output) ++ ")\n") ∧
      ∀ (labels : List (String × String)) verbosity,
        Text.linesOf ((Command.mk (.resolve labels false) path verbosity).respond content).output =
          (routes.matches (NameMap.ofList labels)).map Policy.text ∧
        routes.matches (NameMap.ofList labels) ≠ [] := by
  cases hload : (load path content).result with
  | error e => exact .inl ⟨e, fun action verbosity => respond_of_error hload⟩
  | ok routes =>
    obtain ⟨c, hbuild⟩ := exists_build_of_load hload
    have hnamed := Routes.named_of_build hbuild
    refine .inr ⟨routes, rfl, fun action verbosity => exit_of_ok hload, ?_,
      fun labels verbosity => ⟨?_, routes.matches_ne_nil⟩⟩
    · have houtline : (Action.outline.report routes).result = routes.outline := rfl
      have hcheck : (Action.check.report routes).result =
          "Config valid (" ++ toString routes.length ++ " top-level routes, depth " ++
            toString routes.depth ++ ")\n" := rfl
      intro verbosity verbosity'
      rw [output_of_ok hload, output_of_ok hload, houtline, hcheck,
        Routes.length_eq_unindentedLines hnamed, Routes.depth_eq_indentedLevels hnamed]
    · have hlines : ((Action.resolve labels false).report routes).result =
          Text.lines ((routes.matches (NameMap.ofList labels)).map Policy.text) := rfl
      rw [output_of_ok hload, hlines]
      exact Text.linesOf_lines (List.forall_mem_map.mpr fun p _ => p.newline_notMem_text)

end CommandLine

end AlertRouting
