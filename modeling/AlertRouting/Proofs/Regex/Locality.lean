import AlertRouting.Regex.Reader
import Mathlib.Data.List.Infix

/-!
# Readers do not look past a closing parenthesis

What a reader takes depends only on what it takes, if a closing parenthesis or the end of the
pattern comes next. So what is read up to the parenthesis of a group is read in the same way in any
other group, and as a pattern of its own.
-/
namespace AlertRouting.Regex

/-- What comes next: the end of the pattern, or a closing parenthesis. -/
inductive IsEnd : List Char → Prop
  | nil : IsEnd []
  | close (x : List Char) : IsEnd (')' :: x)

/-- What the reader leaves is an end of its input. Where it stops before a closing parenthesis, what
comes from there on can be replaced, as long as `ok` holds of what is read and what is left. -/
structure LocalIf {α : Type} (ok : α → List Char → Prop)
    (g : List Char → Option (α × List Char)) : Prop where
  suffix : ∀ {cs a rest}, g cs = some (a, rest) → rest <:+ cs
  change : ∀ cs {a rest x t}, g (cs ++ ')' :: x) = some (a, rest ++ ')' :: x) → ok a rest →
    IsEnd t → g (cs ++ t) = some (a, rest ++ t)

abbrev Local {α : Type} (g : List Char → Option (α × List Char)) : Prop :=
  LocalIf (fun _ _ => True) g

/-- What the end of a text does not decide. -/
def Unending (p : List Char → Prop) : Prop := ∀ cs {t}, IsEnd t → (p (cs ++ t) ↔ p cs)

variable {α β : Type}

theorem IsEnd.head?_ne {t : List Char} (ht : IsEnd t) {c : Char} (hc : c ≠ ')') :
    t.head? ≠ some c := by
  cases ht with
  | nil => nofun
  | close x => simpa using hc.symm

theorem Unending.always : Unending fun _ => True := fun _ _ _ => Iff.rfl

theorem Unending.head {c : Char} (hc : c ≠ ')') : Unending fun cs => cs.head? = some c := by
  intro cs t ht
  cases cs with
  | nil => simpa using ht.head?_ne hc
  | cons d cs => rfl

theorem not_suffix_of_close {rest x r : List Char} (h : r <:+ x) : r ≠ rest ++ ')' :: x := by
  rintro rfl
  have := h.length_le
  simp at this
  omega

/-- A part of a text that reaches up to its end goes on where the text does. -/
theorem exists_append_of_suffix {rest t r : List Char} (h : rest ++ t <:+ r) :
    ∃ mid, r = mid ++ t ∧ rest <:+ mid := by
  obtain ⟨u, rfl⟩ := h
  exact ⟨u ++ rest, by simp, List.suffix_append _ _⟩

namespace LocalIf

variable {ok : β → List Char → Prop} {g : List Char → Option (α × List Char)}

theorem fail : LocalIf ok fun _ => none := ⟨nofun, nofun⟩

theorem give (b : β) : LocalIf ok fun cs => some (b, cs) where
  suffix := by
    rintro cs a rest h
    cases h
    exact List.suffix_rfl
  change := by
    intro cs a rest x t h _ _
    simp only [Option.some.injEq, Prod.mk.injEq, List.append_cancel_right_eq] at h
    rw [h.1, h.2]

theorem of_eq {g₀ g : List Char → Option (β × List Char)} (h : ∀ cs, g₀ cs = g cs)
    (hg : LocalIf ok g) : LocalIf ok g₀ :=
  (funext h : g₀ = g) ▸ hg

theorem weaken {ok' : β → List Char → Prop} {g : List Char → Option (β × List Char)}
    (hg : LocalIf ok' g)
    (h : ∀ {cs a x rest}, g cs = some (a, rest ++ ')' :: x) → ok a rest → ok' a rest) :
    LocalIf ok g where
  suffix := hg.suffix
  change cs _ _ _ _ hcs ha ht := hg.change cs hcs (h hcs ha) ht

theorem always {g : List Char → Option (β × List Char)} (hg : Local g) : LocalIf ok g :=
  hg.weaken fun _ _ => trivial

/-- The first reader has to be local only where the second one can go on. -/
theorem bindIf {ok' : α → List Char → Prop} (hg : LocalIf ok' g)
    {k : α × List Char → Option (β × List Char)} (hk : ∀ a, LocalIf ok fun cs => k (a, cs))
    (hok : ∀ {a mid b rest x}, k (a, mid ++ ')' :: x) = some (b, rest ++ ')' :: x) → ok b rest →
      ok' a mid) : LocalIf ok fun cs => (g cs).bind k where
  suffix := by
    intro cs b rest h
    obtain ⟨⟨a, mid⟩, ha, hb⟩ := Option.bind_eq_some_iff.mp h
    exact ((hk a).suffix hb).trans (hg.suffix ha)
  change := by
    intro cs b rest x t h hb ht
    obtain ⟨⟨a, r⟩, ha, hk'⟩ := Option.bind_eq_some_iff.mp h
    obtain ⟨mid, rfl, -⟩ := exists_append_of_suffix ((hk a).suffix hk')
    have hg' := hg.change cs ha (hok hk' hb) ht
    exact Option.bind_eq_some_iff.mpr ⟨_, hg', (hk a).change mid hk' hb ht⟩

theorem bind (hg : Local g) {k : α × List Char → Option (β × List Char)}
    (hk : ∀ a, LocalIf ok fun cs => k (a, cs)) : LocalIf ok fun cs => (g cs).bind k :=
  bindIf hg hk fun _ _ => trivial

theorem mapIf {ok' : α → List Char → Prop} (hg : LocalIf ok' g) (h : α → β)
    (hok : ∀ {a rest}, ok (h a) rest → ok' a rest) :
    LocalIf ok fun cs => (g cs).map fun p => (h p.1, p.2) := by
  simp only [Option.map_eq_bind]
  apply bindIf hg
  · exact fun a => give (h a)
  · intro a mid b rest x hb hrest
    simp only [Function.comp_apply, Option.some.injEq, Prod.mk.injEq,
      List.append_cancel_right_eq] at hb
    exact hok (hb.1 ▸ hb.2 ▸ hrest)

theorem map (hg : Local g) (h : α → β) : LocalIf ok fun cs => (g cs).map fun p => (h p.1, p.2) :=
  mapIf hg h fun _ => trivial

/-- A reader that first tries one that the end of the text does not matter to. -/
theorem attempt (hg : ∀ {cs a rest}, g cs = some (a, rest) → rest <:+ cs)
    (hend : ∀ cs {t}, IsEnd t → g (cs ++ t) = (g cs).map fun p => (p.1, p.2 ++ t))
    {j : α × List Char → Option (β × List Char)} (hj : ∀ a, LocalIf ok fun cs => j (a, cs))
    {k : List Char → Option (β × List Char)} (hk : LocalIf ok k) :
    LocalIf ok fun cs => match g cs with
      | some p => j p
      | none => k cs where
  suffix := by
    intro cs b rest h
    cases hcs : g cs with
    | none =>
      rw [hcs] at h
      exact hk.suffix h
    | some p =>
      rw [hcs] at h
      exact ((hj p.1).suffix h).trans (hg hcs)
  change := by
    intro cs b rest x t h hb ht
    rw [hend cs (.close x)] at h
    rw [hend cs ht]
    cases hcs : g cs with
    | none =>
      rw [hcs] at h
      exact hk.change cs h hb ht
    | some p =>
      rw [hcs] at h
      exact (hj p.1).change p.2 h hb ht

/-- A reader that fails or not whatever comes. -/
theorem optionBind (o : Option α) {k : α → List Char → Option (β × List Char)}
    (hk : ∀ a, LocalIf ok (k a)) : LocalIf ok fun cs => o.bind fun a => k a cs := by
  cases o with
  | none => exact fail
  | some a => exact hk a

theorem optionMap (o : Option α) (h : α → β) {g : List Char → List Char}
    (hg : Local fun cs => some ((), g cs)) : LocalIf ok fun cs => o.map fun a => (h a, g cs) := by
  simp only [Option.map_eq_bind]
  apply optionBind
  exact fun a => bind (k := fun p => some (h a, p.2)) hg fun _ => give (h a)

/-- A reader that needs a first character is local if it is so after every first character. -/
theorem of_cons {g : List Char → Option (β × List Char)} (hnil : g [] = none)
    (hcons : ∀ c, LocalIf ok fun cs => g (c :: cs)) : LocalIf ok g where
  suffix := by
    intro cs a rest h
    cases cs with
    | nil => simp [hnil] at h
    | cons c cs => exact ((hcons c).suffix h).trans (List.suffix_cons c cs)
  change := by
    intro cs a rest x t h hok ht
    cases cs with
    | nil => exact absurd rfl (not_suffix_of_close ((hcons ')').suffix h))
    | cons c cs => exact (hcons c).change cs h hok ht

theorem branch {p : Prop} [Decidable p] {g k : List Char → Option (β × List Char)}
    (hg : p → LocalIf ok g) (hk : ¬ p → LocalIf ok k) :
    LocalIf ok fun cs => if p then g cs else k cs := by
  by_cases h : p
  · simpa [h] using hg h
  · simpa [h] using hk h

/-- A reader that looks ahead, but not at the end. -/
theorem branchOn {p : List Char → Prop} [DecidablePred p] (hp : Unending p)
    {g k : List Char → Option (β × List Char)} (hg : LocalIf ok g) (hk : LocalIf ok k) :
    LocalIf ok fun cs => if p cs then g cs else k cs where
  suffix := by
    intro cs a rest h
    split_ifs at h
    · exact hg.suffix h
    · exact hk.suffix h
  change := by
    intro cs a rest x t h ha ht
    simp only [hp cs (.close x), hp cs ht] at h ⊢
    split_ifs at h ⊢
    · exact hg.change cs h ha ht
    · exact hk.change cs h ha ht

/-- A reader that goes on in one way after a certain character, and in another otherwise. -/
theorem headIf {c : Char} (hc : c ≠ ')') {p : List Char → Prop} (hp : Unending p)
    {g₀ g k : List Char → Option (β × List Char)} (hcons : ∀ cs, p cs → g₀ (c :: cs) = g cs)
    (hother : ∀ cs, (∀ r, cs = c :: r → ¬ p r) → g₀ cs = k cs)
    (hg : LocalIf ok g) (hk : LocalIf ok k) : LocalIf ok g₀ where
  suffix := by
    intro cs a rest h
    by_cases hcs : ∃ r, cs = c :: r ∧ p r
    · obtain ⟨r, rfl, hr⟩ := hcs
      rw [hcons r hr] at h
      exact (hg.suffix h).trans (List.suffix_cons c r)
    · rw [hother cs fun r hr hpr => hcs ⟨r, hr, hpr⟩] at h
      exact hk.suffix h
  change := by
    intro cs a rest x t h ha ht
    by_cases hcs : ∃ r, cs = c :: r ∧ p r
    · obtain ⟨r, rfl, hr⟩ := hcs
      rw [List.cons_append, hcons _ ((hp r (.close x)).mpr hr)] at h
      rw [List.cons_append, hcons _ ((hp r ht).mpr hr)]
      exact hg.change r h ha ht
    · have hend : ∀ {t}, IsEnd t → ∀ r, cs ++ t = c :: r → ¬ p r := by
        intro t ht r hr hpr
        cases cs with
        | nil =>
          rw [List.nil_append] at hr
          exact ht.head?_ne hc (by rw [hr, List.head?_cons])
        | cons d cs =>
          obtain ⟨rfl, rfl⟩ := List.cons.inj hr
          exact hcs ⟨cs, rfl, (hp cs ht).mp hpr⟩
      rw [hother _ (hend (.close x))] at h
      rw [hother _ (hend ht)]
      exact hk.change cs h ha ht

theorem head {c : Char} (hc : c ≠ ')') {g₀ g k : List Char → Option (β × List Char)}
    (hcons : ∀ cs, g₀ (c :: cs) = g cs) (hother : ∀ cs, (∀ r, cs ≠ c :: r) → g₀ cs = k cs)
    (hg : LocalIf ok g) (hk : LocalIf ok k) : LocalIf ok g₀ :=
  headIf hc .always (fun cs _ => hcons cs) (fun cs h => hother cs fun r hr => h r hr trivial) hg hk

/-- A reader that leaves something. -/
theorem nonempty (b : β) :
    LocalIf (fun _ rest => rest ≠ []) fun cs => if cs = [] then none else some (b, cs) where
  suffix := by
    intro cs a rest h
    split_ifs at h
    cases h
    exact List.suffix_rfl
  change := by
    intro cs a rest x t h hrest ht
    rw [if_neg (by simp)] at h
    simp only [Option.some.injEq, Prod.mk.injEq, List.append_cancel_right_eq] at h
    rw [if_neg (by simp [h.2, hrest]), h.1, h.2]

end LocalIf

theorem IsEnd.not_blank {t : List Char} (ht : IsEnd t) : dropBlank false t = t := by
  cases ht with
  | nil => rfl
  | close x => rw [dropBlank]; rfl

theorem dropBlank_suffix (comment : Bool) (cs : List Char) : dropBlank comment cs <:+ cs := by
  induction cs generalizing comment with
  | nil => exact List.suffix_rfl
  | cons c cs ih =>
    rw [dropBlank]
    split_ifs
    · exact (ih _).trans (List.suffix_cons c cs)
    · exact (ih _).trans (List.suffix_cons c cs)
    · exact (ih _).trans (List.suffix_cons c cs)
    · exact List.suffix_rfl

/-- A comment that is open at the end of the text would go on past the parenthesis. -/
theorem dropBlank_change {comment : Bool} (cs : List Char) {rest x t : List Char}
    (h : dropBlank comment (cs ++ ')' :: x) = rest ++ ')' :: x) (ht : IsEnd t) :
    dropBlank comment (cs ++ t) = rest ++ t := by
  induction cs generalizing comment with
  | nil =>
    cases comment with
    | true => exact absurd h (not_suffix_of_close (dropBlank_suffix _ x))
    | false =>
      rw [List.nil_append, (IsEnd.close x).not_blank] at h
      obtain rfl : rest = [] := by simpa using h.symm
      exact ht.not_blank
  | cons c cs ih =>
    rw [List.cons_append, dropBlank] at h ⊢
    split_ifs at h ⊢
    · exact ih h
    · exact ih h
    · exact ih h
    · rw [← List.cons_append, List.append_cancel_right_eq] at h
      rw [← h, List.cons_append]

theorem dropBlank_append_of_ne_nil {comment : Bool} {cs : List Char}
    (h : dropBlank comment cs ≠ []) (y : List Char) :
    dropBlank comment (cs ++ y) = dropBlank comment cs ++ y := by
  induction cs generalizing comment with
  | nil => simp [dropBlank] at h
  | cons c cs ih =>
    rw [List.cons_append, dropBlank]
    rw [dropBlank] at h ⊢
    split_ifs at h ⊢
    · exact ih h
    · exact ih h
    · exact ih h
    · rfl

namespace Flags

variable (f : Flags)

theorem skip_suffix (cs : List Char) : f.skip cs <:+ cs := by
  unfold skip
  split_ifs
  · exact dropBlank_suffix _ _
  · exact List.suffix_rfl

theorem skip_change (cs : List Char) {rest x t : List Char}
    (h : f.skip (cs ++ ')' :: x) = rest ++ ')' :: x) (ht : IsEnd t) :
    f.skip (cs ++ t) = rest ++ t := by
  unfold skip at h ⊢
  split_ifs at h ⊢
  · exact dropBlank_change cs h ht
  · rw [List.append_cancel_right_eq] at h
    rw [h]

theorem skip_append_of_ne_nil {cs : List Char} (h : f.skip cs ≠ []) (y : List Char) :
    f.skip (cs ++ y) = f.skip cs ++ y := by
  unfold skip at h ⊢
  split_ifs at h ⊢
  · exact dropBlank_append_of_ne_nil h y
  · rfl

theorem span_suffix (p : Char → Bool) (cs : List Char) : (f.span p cs).2 <:+ cs := by
  fun_induction f.span p cs with
  | case1 => exact List.suffix_rfl
  | case2 c rest hc s ih => exact (ih.trans (f.skip_suffix rest)).trans (List.suffix_cons c rest)
  | case3 c rest hc => exact List.suffix_rfl

theorem span_change (p : Char → Bool) (cs : List Char) {a rest x t : List Char}
    (h : f.span p (cs ++ ')' :: x) = (a, rest ++ ')' :: x)) (ht : IsEnd t) :
    f.span p (cs ++ t) = (a, rest ++ t) := by
  induction hn : cs.length using Nat.strong_induction_on generalizing cs a with
  | _ n ih =>
    cases cs with
    | nil =>
      rw [List.nil_append, span] at h
      split_ifs at h with hp
      · obtain ⟨-, h⟩ := Prod.mk.inj h
        exact absurd h (not_suffix_of_close ((f.span_suffix p _).trans (f.skip_suffix x)))
      · obtain ⟨rfl, h⟩ := Prod.mk.inj h
        obtain rfl : rest = [] := by simpa using h.symm
        cases ht with
        | nil => rw [List.nil_append, span]
        | close y => rw [List.nil_append, span, if_neg hp]
    | cons c cs =>
      rw [List.cons_append, span] at h ⊢
      split_ifs at h ⊢ with hp
      · obtain ⟨rfl, hr⟩ := Prod.mk.inj h
        -- What is left after the skip reaches up to the parenthesis, since the span does.
        have hsuffix : rest ++ ')' :: x <:+ f.skip (cs ++ ')' :: x) := hr ▸ f.span_suffix p _
        obtain ⟨mid, hmid, -⟩ := exists_append_of_suffix hsuffix
        have hle : mid.length ≤ cs.length := by
          have := f.length_skip_le (cs ++ ')' :: x)
          rw [hmid] at this
          simpa using this
        rw [hmid] at hr
        have hspan := ih mid.length (by simp at hn; omega) mid (Prod.ext rfl hr) rfl
        rw [f.skip_change cs hmid ht, hspan, hmid]
      · obtain ⟨rfl, hr⟩ := Prod.mk.inj h
        rw [← List.cons_append, List.append_cancel_right_eq] at hr
        rw [← hr, List.cons_append]

end Flags

namespace LocalIf

variable {ok : β → List Char → Prop}

/-- A reader that begins with something that cannot fail. -/
theorem after {h : List Char → List Char} (hh : Local fun cs => some ((), h cs))
    {g : List Char → Option (β × List Char)} (hg : LocalIf ok g) : LocalIf ok fun cs => g (h cs) :=
  bind (k := fun p => g p.2) hh fun _ => hg

theorem skip (f : Flags) : Local fun cs => some ((), f.skip cs) where
  suffix := by
    rintro cs a rest h
    cases h
    exact f.skip_suffix cs
  change := by
    intro cs a rest x t h _ ht
    simp only [Option.some.injEq, Prod.mk.injEq, true_and] at h ⊢
    exact f.skip_change cs h ht

theorem dropWhile {p : Char → Bool} : Local fun cs => some (cs.takeWhile p, cs.dropWhile p) where
  suffix := by
    rintro cs a rest h
    cases h
    exact List.dropWhile_suffix p
  change := by
    intro cs a rest x t h _ ht
    induction cs generalizing a with
    | nil =>
      by_cases hp : p ')'
      · simp only [List.nil_append, List.takeWhile_cons, List.dropWhile_cons, hp, if_true,
          Option.some.injEq, Prod.mk.injEq] at h
        exact absurd h.2 (not_suffix_of_close (List.dropWhile_suffix p))
      · simp only [List.nil_append, List.takeWhile_cons, List.dropWhile_cons, hp,
          Bool.false_eq_true, if_false, Option.some.injEq, Prod.mk.injEq] at h
        obtain ⟨rfl, h⟩ := h
        obtain rfl : rest = [] := by simpa using h.symm
        cases ht with
        | nil => rfl
        | close y => simp [hp]
    | cons c cs ih =>
      by_cases hp : p c
      · simp only [List.cons_append, List.takeWhile_cons, List.dropWhile_cons, hp, if_true,
          Option.some.injEq, Prod.mk.injEq] at h ⊢
        obtain ⟨rfl, h⟩ := h
        have := ih (a := (cs ++ ')' :: x).takeWhile p) (by simp [h])
        simp only [Option.some.injEq, Prod.mk.injEq] at this
        exact ⟨by rw [this.1], this.2⟩
      · simp only [List.cons_append, List.takeWhile_cons, List.dropWhile_cons, hp,
          Bool.false_eq_true, if_false, Option.some.injEq, Prod.mk.injEq] at h ⊢
        rw [← List.cons_append, List.append_cancel_right_eq] at h
        exact ⟨h.1, by rw [← h.2, List.cons_append]⟩

theorem span (f : Flags) (p : Char → Bool) : Local fun cs => some (f.span p cs) where
  suffix := by
    rintro cs a rest h
    obtain ⟨-, rfl⟩ := Prod.mk.inj (Option.some.inj h)
    exact f.span_suffix p cs
  change := by
    intro cs a rest x t h _ ht
    exact congrArg some (f.span_change p cs (Option.some.inj h) ht)

end LocalIf

end AlertRouting.Regex
