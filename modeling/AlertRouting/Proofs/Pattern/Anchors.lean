import AlertRouting.Config.Validation
import AlertRouting.Proofs.Regex.Positions
import AlertRouting.Proofs.Regex.Reading

/-!
# What a pattern between anchors matches

The text of a pattern is pasted between anchors before it is read. If no parenthesis in it closes
the group of the anchors, the text is a pattern by itself and the matcher asks that it match the
whole of the value. Otherwise the text is accepted without being a pattern.
-/
namespace AlertRouting

namespace Regex

variable {text : Array Char} {i j : ℕ}

theorem matches_textStart_iff :
    (Expr.look .textStart).Matches text i j ↔ i = 0 ∧ j = 0 := by
  rw [Expr.Matches, Look.holds, charBefore]
  constructor
  · rintro ⟨rfl, hi, hnone⟩
    split_ifs at hnone with h
    · exact ⟨h, h⟩
    · rw [Option.isNone_iff_eq_none, Array.getElem?_eq_none_iff] at hnone
      omega
  · rintro ⟨rfl, rfl⟩
    exact ⟨rfl, Nat.zero_le _, rfl⟩

theorem matches_textEnd_iff :
    (Expr.look .textEnd).Matches text i j ↔ i = text.size ∧ j = text.size := by
  rw [Expr.Matches, Look.holds, Option.isNone_iff_eq_none, Array.getElem?_eq_none_iff]
  omega

/-- A match between anchors is one of the whole text. -/
theorem matches_anchoredExpr_iff {e : Expr} : (anchoredExpr e).Matches text i j ↔
    i = 0 ∧ j = text.size ∧ e.Matches text 0 text.size := by
  constructor
  · rintro ⟨k, ⟨l, hstart, he⟩, hend⟩
    obtain ⟨rfl, rfl⟩ := matches_textStart_iff.mp hstart
    obtain ⟨rfl, rfl⟩ := matches_textEnd_iff.mp hend
    exact ⟨rfl, rfl, he⟩
  · rintro ⟨rfl, rfl, he⟩
    have hstart : (Expr.look .textStart).Matches text 0 0 :=
      matches_textStart_iff.mpr ⟨rfl, rfl⟩
    have hend : (Expr.look .textEnd).Matches text text.size text.size :=
      matches_textEnd_iff.mpr ⟨rfl, rfl⟩
    exact ⟨text.size, ⟨0, hstart, he⟩, hend⟩

def Expr.MatchesAll (e : Expr) (value : String) : Prop :=
  e.Matches value.toList.toArray 0 value.toList.length

theorem isMatch_anchoredExpr_iff {e : Expr} {value : String} :
    (anchoredExpr e).isMatch value = true ↔ e.MatchesAll value := by
  rw [Expr.isMatch_iff]
  constructor
  · rintro ⟨i, j, h⟩
    exact (matches_anchoredExpr_iff.mp h).2.2
  · intro h
    exact ⟨0, _, matches_anchoredExpr_iff.mpr ⟨rfl, rfl, h⟩⟩

end Regex

open Regex

theorem toList_anchored (text : String) : (anchored text).toList = anchoredText text.toList := by
  simp only [anchored, anchoredText, String.toList_append]
  rfl

namespace Pattern

variable {p : Pattern} {e : Expr}

/-- If no parenthesis in the text of a pattern closes the group of the anchors, the text is a pattern
by itself, and its expression stands between the anchors. -/
theorem exists_read?_of_not_closesEarly (h : ¬ ClosesEarly p.text.toList) :
    ∃ e, read? p.text.toList = some e ∧ p.expr = anchoredExpr e := by
  have hread := p.reads
  rw [toList_anchored] at hread
  exact (read?_anchoredText hread).resolve_left h

theorem isMatch_iff (h : p.expr = anchoredExpr e) (value : String) :
    p.isMatch value = true ↔ e.MatchesAll value := by
  rw [Pattern.isMatch, h, isMatch_anchoredExpr_iff]

variable [SizeLimit] {text : String}

theorem ofText?_eq_some (h : ofText? text = some p) :
    p.text = text ∧ compile? (anchored text) = some p.expr := by
  unfold ofText? at h
  split at h
  · next hcompile =>
    cases h
    exact ⟨rfl, hcompile⟩
  · cases h

theorem ofText?_eq_none_iff : ofText? text = none ↔ compile? (anchored text) = none := by
  unfold ofText?
  split <;> simp [*]

end Pattern

namespace Matcher

section

variable [SizeLimit] {name text : String} {m : Matcher}

theorem exists_pattern_of_regex (h : regex name text = .ok m) :
    ∃ p, Pattern.ofText? text = some p ∧ m = ⟨name, .matching p⟩ := by
  unfold regex at h
  split at h
  · next p hp =>
    cases h
    exact ⟨p, hp, rfl⟩
  · cases h

theorem regex_eq_ok_iff : regex name text = .ok m ↔
    ∃ p, Pattern.ofText? text = some p ∧ m = ⟨name, .matching p⟩ := by
  refine ⟨exists_pattern_of_regex, ?_⟩
  rintro ⟨p, hp, rfl⟩
  rw [regex, hp]

theorem regex_eq_error_iff {e : BadPattern} :
    regex name text = .error e ↔ compile? (anchored text) = none ∧ e = ⟨name, text⟩ := by
  rw [← Pattern.ofText?_eq_none_iff, regex]
  cases Pattern.ofText? text <;> simp [eq_comm]

theorem exists_regex_iff (name : String) :
    (∃ m, regex name text = .ok m) ↔ compile? (anchored text) ≠ none := by
  rw [ne_eq, ← Pattern.ofText?_eq_none_iff, ← ne_eq, Option.ne_none_iff_exists']
  simp only [regex_eq_ok_iff]
  exact ⟨fun ⟨_, p, hp, _⟩ => ⟨p, hp⟩, fun ⟨p, hp⟩ => ⟨_, p, hp, rfl⟩⟩

theorem holds_of_regex {labels : Labels} (h : regex name text = .ok m) : m.holds labels = true ↔
    ∃ expr, compile? (anchored text) = some expr ∧
      expr.isMatch (labels.valueOrEmpty name) = true := by
  obtain ⟨p, hp, rfl⟩ := regex_eq_ok_iff.mp h
  obtain ⟨rfl, hcompile⟩ := Pattern.ofText?_eq_some hp
  simp [hcompile, holds, Condition.holds, Pattern.isMatch]

/-- A text that is accepted as a pattern is confined between the anchors, and its matcher asks that
it match the whole of the value, unless a parenthesis in it closes the group of the anchors. Then
it is no pattern by itself. -/
theorem regex_confined (h : regex name text = .ok m) :
    (¬ ClosesEarly text.toList → ∃ e, read? text.toList = some e ∧
      ∀ labels : Labels, m.holds labels = true ↔ e.MatchesAll (labels.valueOrEmpty name)) ∧
    (ClosesEarly text.toList → read? text.toList = none) ∧
    (patternFault? text = none ↔ text.utf8ByteSize ≤ maxPatternSize) := by
  obtain ⟨p, hp, rfl⟩ := exists_pattern_of_regex h
  obtain ⟨rfl, -⟩ := Pattern.ofText?_eq_some hp
  refine ⟨?_, ClosesEarly.read?_eq_none, ?_⟩
  · intro hcloses
    obtain ⟨e, he, hexpr⟩ := Pattern.exists_read?_of_not_closesEarly hcloses
    exact ⟨e, he, fun labels => Pattern.isMatch_iff hexpr _⟩
  · unfold patternFault?
    rw [hp]
    by_cases hsize : p.text.utf8ByteSize > maxPatternSize
    · simp [hsize]
    · rw [if_neg hsize]
      simpa using Nat.le_of_not_lt hsize

end

section

attribute [local instance] SizeLimit.unlimited

/-- An alternation stays between the anchors. -/
theorem regex_confined_alternation : ∃ m e, regex "x" "a|b" = .ok m ∧
    read? "a|b".toList = some e ∧
    ∀ labels : Labels, m.holds labels = true ↔ e.MatchesAll (labels.valueOrEmpty "x") := by
  have hok : (regex "x" "a|b").isOk = true := by decide +kernel
  have hread : read? "a|b".toList ≠ none := by decide +kernel
  cases h : regex "x" "a|b" with
  | error _ =>
    rw [h] at hok
    cases hok
  | ok m =>
    obtain ⟨hconfined, hcloses, -⟩ := regex_confined h
    obtain ⟨e, he⟩ := hconfined fun hearly => hread (hcloses hearly)
    exact ⟨m, e, rfl, he⟩

/-- The parentheses of this text close the group of the anchors and open another. It is no pattern,
but its matcher asks for a value that starts or ends in a certain way. -/
example : read? "a)|(?:b".toList = none ∧
    (regex "x" "a)|(?:b").toOption.any
      (fun m => m.holds (NameMap.ofList [("x", "abc")])) = true := by
  decide +kernel

end

end Matcher

end AlertRouting
