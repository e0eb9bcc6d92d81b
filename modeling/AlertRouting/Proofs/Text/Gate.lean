import AlertRouting.Matcher
import AlertRouting.Proofs.Text.Joined

/-!
# The texts of matchers

The text of a matcher begins with its name. If the name is a label name it ends before the equals
sign, so the matcher can be told from its text whatever its value or pattern is.
-/
namespace AlertRouting

theorem isNameRest_of_mem {name : String} (h : isLabelName name) {c : Char} (hc : c ∈ name.toList) :
    isNameRest c = true := by
  unfold isLabelName at h
  split at h
  · cases h
  · next d rest hname =>
    rw [hname] at hc
    rw [Bool.and_eq_true, List.all_eq_true] at h
    rcases List.mem_cons.mp hc with rfl | hc
    · simp [isNameRest, h.1]
    · exact h.2 c hc

theorem exists_of_isLabelName {name : String} (h : isLabelName name) :
    ∃ c rest, isNameRest c = true ∧ name.toList = c :: rest := by
  cases hname : name.toList with
  | nil => simp [isLabelName, hname] at h
  | cons c rest => exact ⟨c, rest, isNameRest_of_mem h (hname ▸ List.mem_cons_self), rfl⟩

/-- A pattern is given by its text. -/
theorem Pattern.ext_text {p q : Pattern} (h : p.text = q.text) : p = q := by
  have hexpr : some p.expr = some q.expr := by rw [← p.reads, ← q.reads, h]
  cases p
  cases q
  cases h
  cases hexpr
  rfl

namespace Matcher

def named : Set Matcher := {m | isLabelName m.name}

private def behindName (m : Matcher) : List Char :=
  match m.condition with
  | .equals value => (Text.quote value).toList
  | .matching pattern => '~' :: (Text.quote pattern.text).toList

private theorem toList_text (m : Matcher) :
    m.text.toList = m.name.toList ++ '=' :: m.behindName := by
  unfold text behindName
  cases m.condition <;> simp

theorem selfDelimiting_text : Text.SelfDelimiting text named where
  opens m hm := by
    obtain ⟨c, rest, hc, hname⟩ := exists_of_isLabelName hm
    refine ⟨c, rest ++ '=' :: m.behindName, ?_, by rw [toList_text, hname]; rfl⟩
    rintro rfl
    cases hc
  told m hm n hn x y h := by
    have hequals {m : Matcher} (hm : m ∈ named) : '=' ∉ m.name.toList := fun hmem =>
      absurd (isNameRest_of_mem hm hmem) (by decide)
    rw [toList_text, toList_text, List.append_assoc, List.append_assoc] at h
    obtain ⟨hname, hbehind⟩ := Text.eq_of_append_cons (hequals hm) (hequals hn) h
    cases m with
    | mk name c =>
    cases n with
    | mk name' c' =>
    obtain rfl := String.toList_inj.mp hname
    cases c with
    | equals value =>
      cases c' with
      | equals value' =>
        obtain ⟨rfl, rfl⟩ := Text.eq_of_quote_append hbehind
        exact ⟨rfl, rfl⟩
      | matching pattern => simp [behindName, Text.toList_quote] at hbehind
    | matching pattern =>
      cases c' with
      | equals value => simp [behindName, Text.toList_quote] at hbehind
      | matching pattern' =>
        obtain ⟨hpattern, rfl⟩ := Text.eq_of_quote_append (List.cons.inj hbehind).2
        obtain rfl := Pattern.ext_text hpattern
        exact ⟨rfl, rfl⟩

end Matcher

namespace Gate

/-- The matchers of a gate can be told from its text, whatever stands behind it. -/
theorem eq_of_text_append {g g' : Gate} {x y : List Char} (hg : ∀ m ∈ g, m ∈ Matcher.named)
    (hg' : ∀ m ∈ g', m ∈ Matcher.named) (h : g.text.toList ++ x = g'.text.toList ++ y) :
    g = g' ∧ x = y :=
  Matcher.selfDelimiting_text.eq_of_braces_append hg hg' h

theorem text_eq_iff {g g' : Gate} (hg : ∀ m ∈ g, m ∈ Matcher.named)
    (hg' : ∀ m ∈ g', m ∈ Matcher.named) : g.text = g'.text ↔ g = g' := by
  constructor
  · intro h
    have happend : g.text.toList ++ [] = g'.text.toList ++ [] := by rw [h]
    exact (eq_of_text_append hg hg' happend).1
  · rintro rfl
    rfl

theorem newline_notMem_text {g : Gate} (hg : ∀ m ∈ g, m ∈ Matcher.named) :
    '\n' ∉ g.text.toList := by
  refine Text.notMem_braces (List.forall_mem_map.mpr fun m hm => ?_) (by decide)
  have hname : '\n' ∉ m.name.toList := fun hmem =>
    absurd (isNameRest_of_mem (hg m hm) hmem) (by decide)
  unfold Matcher.text
  cases m.condition <;> simp [hname, Text.newline_notMem_quote]

end Gate

end AlertRouting
