import AlertRouting.Proofs.Text.Quoted
import Mathlib.Data.Set.Defs

/-!
# Joined texts

Texts between braces, with commas between them, can be taken apart again if every one of them can be
told from what stands behind it, and none looks like the closing brace.
-/
namespace AlertRouting.Text

variable {α : Type} {print : α → String} {s : Set α}

theorem mem_of_mem_intercalate {between : String} {parts : List String} {c : Char}
    (h : c ∈ (between.intercalate parts).toList) :
    c ∈ between.toList ∨ ∃ p ∈ parts, c ∈ p.toList := by
  induction parts with
  | nil => simp at h
  | cons p parts ih =>
    cases parts with
    | nil =>
      rw [String.intercalate_singleton] at h
      exact .inr ⟨p, List.mem_singleton_self p, h⟩
    | cons q parts =>
      rw [String.intercalate_cons_cons, String.toList_append, String.toList_append,
        List.mem_append, List.mem_append] at h
      rcases h with (h | h) | h
      · exact .inr ⟨p, List.mem_cons_self, h⟩
      · exact .inl h
      · exact (ih h).imp_right fun ⟨t, ht, hc⟩ => ⟨t, List.mem_cons_of_mem p ht, hc⟩

/-- What stands in front of a character can be told if the character does not occur in it. -/
theorem eq_of_append_cons {c : Char} {s t x y : List Char} (hs : c ∉ s) (ht : c ∉ t)
    (h : s ++ c :: x = t ++ c :: y) : s = t ∧ x = y := by
  induction s generalizing t with
  | nil =>
    cases t with
    | nil => exact ⟨rfl, (List.cons.inj h).2⟩
    | cons d t => exact absurd (List.cons.inj h).1 (List.ne_of_not_mem_cons ht)
  | cons b s ih =>
    cases t with
    | nil => exact absurd (List.cons.inj h).1.symm (List.ne_of_not_mem_cons hs)
    | cons d t =>
      obtain ⟨rfl, hrest⟩ := List.cons.inj h
      obtain ⟨rfl, rfl⟩ :=
        ih (List.not_mem_of_not_mem_cons hs) (List.not_mem_of_not_mem_cons ht) hrest
      exact ⟨rfl, rfl⟩

/-- What is printed for the values of a set can be told apart, whatever stands behind it. It is not
empty, and does not begin with a closing brace. -/
structure SelfDelimiting (print : α → String) (s : Set α) : Prop where
  opens : ∀ a ∈ s, ∃ c rest, c ≠ '\x7d' ∧ (print a).toList = c :: rest
  told : ∀ a ∈ s, ∀ b ∈ s, ∀ x y, (print a).toList ++ x = (print b).toList ++ y → a = b ∧ x = y

theorem selfDelimiting_quote : SelfDelimiting quote Set.univ where
  opens t _ := ⟨'"', _, by decide, toList_quote t⟩
  told _ _ _ _ _ _ := eq_of_quote_append

theorem toList_braces (parts : List String) :
    (braces parts).toList = '\x7b' :: ((commas parts).toList ++ ['\x7d']) := by
  simp [braces]

private def behind (print : α → String) (as : List α) (x : List Char) : List Char :=
  match as with
  | [] => '\x7d' :: x
  | a :: as => ',' :: ' ' :: ((commas ((a :: as).map print)).toList ++ '\x7d' :: x)

private theorem commas_cons (a : α) (as : List α) (x : List Char) :
    (commas ((a :: as).map print)).toList ++ '\x7d' :: x =
      (print a).toList ++ behind print as x := by
  cases as with
  | nil => simp [commas, behind]
  | cons b as => simp [commas, behind]

private theorem eq_of_commas_append (h : SelfDelimiting print s) {as bs : List α} {x y : List Char}
    (has : ∀ a ∈ as, a ∈ s) (hbs : ∀ b ∈ bs, b ∈ s)
    (heq : (commas (as.map print)).toList ++ '\x7d' :: x =
      (commas (bs.map print)).toList ++ '\x7d' :: y) : as = bs ∧ x = y := by
  induction as generalizing bs with
  | nil =>
    cases bs with
    | nil => exact ⟨rfl, (List.cons.inj heq).2⟩
    | cons b bs =>
      obtain ⟨c, rest, hc, hb⟩ := h.opens b (hbs b List.mem_cons_self)
      rw [commas_cons, hb] at heq
      exact absurd (List.cons.inj heq).1.symm hc
  | cons a as ih =>
    obtain ⟨ha, has⟩ := List.forall_mem_cons.mp has
    rw [commas_cons] at heq
    cases bs with
    | nil =>
      obtain ⟨c, rest, hc, hb⟩ := h.opens a ha
      rw [hb] at heq
      exact absurd (List.cons.inj heq).1 hc
    | cons b bs =>
      obtain ⟨hb, hmore⟩ := List.forall_mem_cons.mp hbs
      rw [commas_cons] at heq
      obtain ⟨rfl, hbehind⟩ := h.told a ha b hb _ _ heq
      cases as with
      | nil =>
        cases bs with
        | nil => exact ⟨rfl, (List.cons.inj hbehind).2⟩
        | cons b bs => cases hbehind
      | cons a' as =>
        cases bs with
        | nil => cases hbehind
        | cons b bs =>
          have hrest := (List.cons.inj (List.cons.inj hbehind).2).2
          obtain ⟨hlists, hx⟩ := ih has hmore hrest
          exact ⟨congrArg (List.cons a) hlists, hx⟩

/-- Lists between braces can be told apart, whatever stands behind them. -/
theorem SelfDelimiting.eq_of_braces_append (h : SelfDelimiting print s) {as bs : List α}
    {x y : List Char} (has : ∀ a ∈ as, a ∈ s) (hbs : ∀ b ∈ bs, b ∈ s)
    (heq : (braces (as.map print)).toList ++ x = (braces (bs.map print)).toList ++ y) :
    as = bs ∧ x = y := by
  rw [toList_braces, toList_braces] at heq
  simp only [List.cons_append, List.append_assoc, List.nil_append, List.cons.injEq, true_and]
    at heq
  exact eq_of_commas_append h has hbs heq

theorem notMem_braces {parts : List String} {c : Char} (hparts : ∀ p ∈ parts, c ∉ p.toList)
    (hc : c ∉ ['\x7b', ',', ' ', '\x7d']) : c ∉ (braces parts).toList := by
  simp only [List.mem_cons, List.not_mem_nil, or_false, not_or] at hc
  obtain ⟨hleft, hcomma, hblank, hright⟩ := hc
  rw [toList_braces, List.mem_cons, List.mem_append, List.mem_singleton]
  rintro (h | h | h)
  · exact hleft h
  · rcases mem_of_mem_intercalate h with h | ⟨p, hp, h⟩
    · simp [hcomma, hblank] at h
    · exact hparts p hp h
  · exact hright h

end AlertRouting.Text
