import AlertRouting.CommandLine.Arguments
import AlertRouting.Proofs.Text.Gate
import Mathlib.Computability.Language
import Mathlib.Data.List.TakeWhile

/-!
# Reading label arguments

A label argument is a label name, an equals sign and any text, and these can be told from it. No name
has an equals sign in it, so the first one stands between the two.
-/
namespace AlertRouting

open scoped Computability

namespace LabelName

/-- The words of one of the characters. -/
def oneOf (chars : String) : Language Char := {w | ∃ c ∈ chars.toList, w = [c]}

/-- What a label name begins with, in the order of code points. -/
def first : String := "ABCDEFGHIJKLMNOPQRSTUVWXYZ_abcdefghijklmnopqrstuvwxyz"

/-- What a label name goes on with, in the order of code points. -/
def following : String := "0123456789ABCDEFGHIJKLMNOPQRSTUVWXYZ_abcdefghijklmnopqrstuvwxyz"

def words : Language Char := oneOf first * (oneOf following)∗

/-- A class of characters that has none beyond ASCII can be listed. -/
theorem iff_mem_filter_ascii {p : Char → Bool} (hp : ∀ c, p c → c.toNat < 128) (c : Char) :
    p c ↔ c ∈ ((List.range 128).map Char.ofNat).filter p := by
  rw [List.mem_filter, List.mem_map, and_iff_right_of_imp]
  exact fun hc => ⟨c.toNat, List.mem_range.mpr (hp c hc), c.ofNat_toNat⟩

theorem lt_of_isNameRest (c : Char) (h : isNameRest c) : c.toNat < 128 := by
  simp only [isNameRest, isNameStart, Bool.or_eq_true, Bool.and_eq_true, decide_eq_true_eq,
    Char.le_def, UInt32.le_iff_toNat_le] at h
  rcases h with ((⟨-, h⟩ | ⟨-, h⟩) | h) | ⟨-, h⟩
  · exact h.trans_lt (by decide)
  · exact h.trans_lt (by decide)
  · rw [h]
    decide
  · exact h.trans_lt (by decide)

theorem isNameRest_iff (c : Char) : isNameRest c ↔ c ∈ following.toList := by
  have hlist : ((List.range 128).map Char.ofNat).filter isNameRest = following.toList := by
    decide +kernel
  rw [iff_mem_filter_ascii lt_of_isNameRest, hlist]

theorem isNameStart_iff (c : Char) : isNameStart c ↔ c ∈ first.toList := by
  have hascii (c : Char) (hc : isNameStart c) : c.toNat < 128 :=
    lt_of_isNameRest c (by rw [isNameRest, hc, Bool.true_or])
  have hlist : ((List.range 128).map Char.ofNat).filter isNameStart = first.toList := by
    decide +kernel
  rw [iff_mem_filter_ascii hascii, hlist]

theorem mem_kstar_oneOf_iff {chars : String} {w : List Char} :
    w ∈ (oneOf chars)∗ ↔ ∀ c ∈ w, c ∈ chars.toList := by
  rw [Language.mem_kstar]
  constructor
  · rintro ⟨parts, rfl, hparts⟩ c hc
    obtain ⟨part, hpart, hc⟩ := List.mem_flatten.mp hc
    obtain ⟨d, hd, rfl⟩ := hparts part hpart
    exact List.mem_singleton.mp hc ▸ hd
  · intro h
    have hflatten : w = (w.map ([·])).flatten := by
      rw [← List.flatMap_def, List.flatMap_singleton']
    exact ⟨w.map ([·]), hflatten, List.forall_mem_map.mpr fun c hc => ⟨c, h c hc, rfl⟩⟩

theorem mem_words_iff {name : String} : name.toList ∈ words ↔ isLabelName name := by
  have hcons (w : List Char) : w ∈ words ↔
      ∃ c rest, w = c :: rest ∧ isNameStart c ∧ rest.all isNameRest := by
    simp only [isNameStart_iff, isNameRest_iff, List.all_eq_true]
    rw [words, Language.mem_mul]
    constructor
    · rintro ⟨-, ⟨c, hc, rfl⟩, rest, hrest, rfl⟩
      exact ⟨c, rest, rfl, hc, mem_kstar_oneOf_iff.mp hrest⟩
    · rintro ⟨c, rest, rfl, hc, hrest⟩
      exact ⟨[c], ⟨c, hc, rfl⟩, rest, mem_kstar_oneOf_iff.mpr hrest, rfl⟩
  rw [hcons, isLabelName]
  cases name.toList <;> simp

theorem equals_notMem {name : String} (h : isLabelName name) : '=' ∉ name.toList :=
  fun hmem => absurd (isNameRest_of_mem h hmem) (by decide)

end LabelName

namespace CommandLine

variable {argument name value : String}

/-- A text with an equals sign is what stands before the first one and what stands behind it. -/
theorem exists_eq_append (h : '=' ∈ argument.toList) :
    ∃ name value, argument = name ++ "=" ++ value ∧ '=' ∉ name.toList := by
  obtain ⟨front, behind, heq, hfront⟩ := List.eq_append_cons_of_mem h
  refine ⟨.ofList front, .ofList behind, ?_, by rwa [String.toList_ofList]⟩
  rw [← String.toList_inj, heq]
  simp

theorem readLabel_of_notMem (h : '=' ∉ argument.toList) :
    readLabel argument = .error (.noSeparator argument) := by
  have hdrop : argument.toList.dropWhile (· ≠ '=') = [] :=
    List.dropWhile_eq_nil_iff.mpr fun _ hc => decide_eq_true (ne_of_mem_of_not_mem hc h)
  simp only [readLabel, hdrop]

theorem readLabel_append (h : '=' ∉ name.toList) : readLabel (name ++ "=" ++ value) =
    if isLabelName name then .ok (name, value) else .error (.badName name) := by
  have hlist : (name ++ "=" ++ value).toList = name.toList ++ '=' :: value.toList := by simp
  have hname : ∀ c ∈ name.toList, decide (c ≠ '=') := fun c hc =>
    decide_eq_true (ne_of_mem_of_not_mem hc h)
  have hstop : ∀ c ∈ ('=' :: value.toList).head?, ¬ decide (c ≠ '=') := by simp
  unfold readLabel
  rw [hlist, Text.takeWhile_append_stop hname hstop, Text.dropWhile_append_stop hname hstop]
  simp

/-- Nothing is read from an argument without an equals sign; otherwise the first one divides it. -/
theorem readLabel_cases (argument : String) :
    ('=' ∉ argument.toList ∧ readLabel argument = .error (.noSeparator argument)) ∨
    ∃ name value, argument = name ++ "=" ++ value ∧ '=' ∉ name.toList ∧ readLabel argument =
      if isLabelName name then .ok (name, value) else .error (.badName name) := by
  by_cases hmem : '=' ∈ argument.toList
  · obtain ⟨name, value, rfl, hname⟩ := exists_eq_append hmem
    exact .inr ⟨name, value, rfl, hname, readLabel_append hname⟩
  · exact .inl ⟨hmem, readLabel_of_notMem hmem⟩

theorem readLabel_eq_ok_iff : readLabel argument = .ok (name, value) ↔
    argument = name ++ "=" ++ value ∧ name.toList ∈ LabelName.words := by
  rw [LabelName.mem_words_iff]
  constructor
  · intro h
    rcases readLabel_cases argument with ⟨-, hread⟩ | ⟨name', value', rfl, -, hread⟩
    · rw [hread] at h
      cases h
    · rw [hread] at h
      split_ifs at h with hvalid
      cases h
      exact ⟨rfl, hvalid⟩
  · rintro ⟨rfl, hvalid⟩
    rw [readLabel_append (LabelName.equals_notMem hvalid), if_pos hvalid]

theorem readLabel_eq_error_iff {fault : LabelFault} : readLabel argument = .error fault ↔
    ('=' ∉ argument.toList ∧ fault = .noSeparator argument) ∨
    ∃ name value, argument = name ++ "=" ++ value ∧ '=' ∉ name.toList ∧
      name.toList ∉ LabelName.words ∧ fault = .badName name := by
  simp only [LabelName.mem_words_iff]
  constructor
  · intro h
    rcases readLabel_cases argument with ⟨hmem, hread⟩ | ⟨name, value, rfl, hname, hread⟩
    · rw [hread] at h
      cases h
      exact .inl ⟨hmem, rfl⟩
    · rw [hread] at h
      split_ifs at h with hvalid
      cases h
      exact .inr ⟨name, value, rfl, hname, hvalid, rfl⟩
  · rintro (⟨hmem, rfl⟩ | ⟨name, value, rfl, hname, hvalid, rfl⟩)
    · exact readLabel_of_notMem hmem
    · rw [readLabel_append hname, if_neg hvalid]

/-- An argument is read as a name and a text if and only if it is written as a label name and the
text with an equals sign between them, and there is one way at most to write it so. Any other argument
is refused: as a whole if it has no equals sign, and otherwise for what stands before the first one. -/
theorem readLabel_undoes_writing :
    (∀ argument name value, readLabel argument = .ok (name, value) ↔
      argument = name ++ "=" ++ value ∧ name.toList ∈ LabelName.words) ∧
    (∀ argument, (∃ label, readLabel argument = .ok label) ↔
      ∃! label : String × String,
        argument = label.1 ++ "=" ++ label.2 ∧ label.1.toList ∈ LabelName.words) ∧
    (∀ argument fault, readLabel argument = .error fault ↔
      ('=' ∉ argument.toList ∧ fault = .noSeparator argument) ∨
      ∃ name value, argument = name ++ "=" ++ value ∧ '=' ∉ name.toList ∧
        name.toList ∉ LabelName.words ∧ fault = .badName name) ∧
    (∀ argument, (LabelFault.noSeparator argument).message =
      "invalid label \"" ++ argument ++ "\", expected key=value") ∧
    ∀ name, (LabelFault.badName name).message = "invalid label name \"" ++ name ++ "\"" := by
  refine ⟨fun _ _ _ => readLabel_eq_ok_iff, fun argument => ?_, fun _ _ => readLabel_eq_error_iff,
    fun _ => rfl, fun _ => rfl⟩
  simp only [← readLabel_eq_ok_iff]
  constructor
  · rintro ⟨label, h⟩
    refine ⟨label, h, fun other hother => ?_⟩
    rw [h] at hother
    cases hother
    rfl
  · rintro ⟨label, h, -⟩
    exact ⟨label, h⟩

/-- Later equals signs belong to the text, which may be empty; letters beyond ASCII make no names. -/
example : readLabel "query=a=b" = .ok ("query", "a=b") ∧ readLabel "_9=" = .ok ("_9", "") ∧
    readLabel "größe=1" = .error (.badName "größe") ∧ readLabel "=x" = .error (.badName "") := by
  decide +kernel

end CommandLine

end AlertRouting
