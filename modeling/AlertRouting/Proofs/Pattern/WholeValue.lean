import AlertRouting.Proofs.Pattern.Anchors

/-!
# Patterns match whole values

The anchors stand outside the group of a pattern, so no flag, assertion or branch inside changes
what they ask. A matcher needs one match of the pattern from the first character of the value to the
last. Which match a search for the pattern alone would prefer does not matter.
-/
namespace AlertRouting

open Regex

/-- A pattern whose text is well-formed by itself is the group between the anchors. -/
theorem Pattern.expr_eq_anchoredExpr {p : Pattern} {e : Expr} (h : read? p.text.toList = some e) :
    p.expr = anchoredExpr e := by
  have hcloses : ¬ ClosesEarly p.text.toList := fun hcloses => by
    rw [hcloses.read?_eq_none] at h
    cases h
  obtain ⟨e', hread, hexpr⟩ := Pattern.exists_read?_of_not_closesEarly hcloses
  rw [h] at hread
  cases hread
  exact hexpr

namespace Matcher

/-- The matcher of a pattern that is well-formed by itself holds if and only if some match of the
pattern starts at the first character of the value and ends at its last. -/
theorem regex_holds_iff_matches_whole [SizeLimit] {name text : String} {m : Matcher} {e : Expr}
    (hread : read? text.toList = some e) (h : regex name text = .ok m) (labels : Labels) :
    m.holds labels = true ↔ e.Matches (labels.valueOrEmpty name).toList.toArray 0
      (labels.valueOrEmpty name).length := by
  obtain ⟨p, hp, rfl⟩ := exists_pattern_of_regex h
  obtain ⟨rfl, -⟩ := Pattern.ofText?_eq_some hp
  exact Pattern.isMatch_iff (Pattern.expr_eq_anchoredExpr hread) _

attribute [local instance] SizeLimit.unlimited

/-- The first branch of this pattern matches the first line of a value, and a search for the pattern
alone would stop there. The matcher looks for the whole value, which the second branch has. -/
theorem regex_holds_iff_matches_whole_lines : ∃ m first second,
    regex "x" "(?m)^a$|a(?s:.)+?b" = .ok m ∧
      read? "(?m)^a$|a(?s:.)+?b".toList = some (.alt first second) ∧
      first.isMatch "a\nb" = true ∧ ¬ first.MatchesAll "a\nb" ∧
      m.holds (NameMap.ofList [("x", "a\nb")]) = true ∧
      m.holds (NameMap.ofList [("x", "a\nc")]) = false ∧ m.holds ∅ = false := by
  have hread : read? "(?m)^a$|a(?s:.)+?b".toList = some (.alt _ _) := rfl
  obtain ⟨m, hm⟩ : ∃ m, regex "x" "(?m)^a$|a(?s:.)+?b" = .ok m :=
    (exists_regex_iff "x").mpr (by decide +kernel)
  have hwhole := regex_holds_iff_matches_whole hread hm
  refine ⟨m, _, _, hm, hread, by decide +kernel, ?_, ?_, ?_, ?_⟩
  · rw [← isMatch_anchoredExpr_iff]
    decide +kernel
  · exact (hwhole _).mpr (isMatch_anchoredExpr_iff.mp (by decide +kernel))
  · rw [← Bool.not_eq_true, hwhole]
    exact mt isMatch_anchoredExpr_iff.mpr (by decide +kernel)
  · rw [← Bool.not_eq_true, hwhole]
    exact mt isMatch_anchoredExpr_iff.mpr (by decide +kernel)

end Matcher

end AlertRouting
