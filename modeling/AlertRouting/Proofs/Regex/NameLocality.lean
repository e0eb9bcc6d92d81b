import AlertRouting.Proofs.Regex.Locality
import AlertRouting.Regex.Bracket
import Mathlib.Data.List.TakeWhile

/-!
# Looking ahead inside a bracketed class

Inside a class the reader looks ahead in two places: for the name of a class between colons, and
past a hyphen. What it finds does not depend on how the pattern goes on after a closing
parenthesis.
-/
namespace AlertRouting.Regex

variable (f : Flags)

theorem dropWhile_append_of_isEnd {p : Char → Bool} (hp : p ')' = false) (cs : List Char)
    {t : List Char} (ht : IsEnd t) : (cs ++ t).dropWhile p = cs.dropWhile p ++ t := by
  induction cs with
  | nil =>
    cases ht with
    | nil => rfl
    | close x => simp [hp]
  | cons c cs ih =>
    rw [List.cons_append, List.dropWhile_cons, List.dropWhile_cons]
    split_ifs
    · exact ih
    · rfl

/-- In a verbose pattern the character is found past blanks, or past a number sign and blanks. -/
theorem peekPast_eq_some_iff {f : Flags} (hf : f.verbose = true) {cs : List Char} {c : Char}
    (hblank : Text.isBlank c = false) (hsign : c ≠ '#') :
    peekPast f cs = some c ↔ (cs.dropWhile Text.isBlank).head? = some c ∨
      (cs.dropWhile Text.isBlank).head? = some '#' ∧
        ((cs.dropWhile Text.isBlank).tail.dropWhile Text.isBlank).head? = some c := by
  have hnot : cs.dropWhile Text.isBlank ≠ cs → cs.head? ≠ some c := by
    intro hne hhead
    obtain ⟨r, rfl⟩ := List.head?_eq_some_iff.mp hhead
    exact hne (List.dropWhile_cons_of_neg (by simp [hblank]))
  unfold peekPast
  simp only [hf, Bool.not_true, Bool.false_eq_true, if_false]
  split
  · next h =>
    cases cs with
    | nil => simp
    | cons d cs => simpa [h] using hnot (by simp [h])
  · next rest h =>
    rw [h, List.head?_cons, List.tail_cons]
    split
    · next h' =>
      have hhead : cs.head? ≠ some c := by
        intro hhead
        obtain ⟨r, rfl⟩ := List.head?_eq_some_iff.mp hhead
        rw [List.dropWhile_cons_of_neg (by simp [hblank])] at h
        exact hsign (List.cons.inj h).1
      simp [h', hhead, hsign.symm]
    · next d r h' => simp [h', hsign.symm]
  · next d r hd h =>
    rw [h, List.head?_cons]
    simp [show d ≠ '#' from hd]

theorem unending_peekPast {c : Char} (hc : c ≠ ')') (hblank : Text.isBlank c = false)
    (hsign : c ≠ '#') : Unending fun cs => peekPast f cs = some c := by
  intro cs t ht
  change peekPast f (cs ++ t) = some c ↔ peekPast f cs = some c
  have hhead := Unending.head hc
  by_cases hf : f.verbose = true
  · have hdrop := fun cs => dropWhile_append_of_isEnd (p := Text.isBlank) (by decide) cs ht
    have hsign' : ∀ cs, (cs ++ t).head? = some '#' ↔ cs.head? = some '#' :=
      fun cs => Unending.head (by decide) cs ht
    rw [peekPast_eq_some_iff hf hblank hsign, peekPast_eq_some_iff hf hblank hsign, hdrop]
    apply or_congr (hhead _ ht)
    rw [hsign']
    apply and_congr_right
    intro h
    obtain ⟨r, hr⟩ := List.head?_eq_some_iff.mp h
    rw [hr, List.cons_append, List.tail_cons, List.tail_cons, hdrop]
    exact hhead _ ht
  · simp only [peekPast, hf]
    exact hhead cs ht

/-- No class has a parenthesis in its name. -/
theorem namedClass?_eq_none {name : List Char} (h : ')' ∈ name) :
    namedClass? (String.ofList name) = none := by
  have hkeys : ∀ p ∈ namedClass?.ranges, ')' ∉ p.1.toList := by decide
  unfold namedClass?
  rw [Option.map_eq_none_iff, List.lookup_eq_none_iff]
  intro p hp
  have hne : String.ofList name ≠ p.1 := by
    intro heq
    apply hkeys p hp
    rw [← heq, String.toList_ofList]
    exact h
  simpa using hne

/-- A class by its name, after what tells whether it is negated. -/
def named? (negated : Bool) (cs : List Char) : Option (Option CharSet × List Char) :=
  match cs.dropWhile (· != ':') with
  | ':' :: ']' :: rest =>
    (namedClass? (String.ofList (cs.takeWhile (· != ':')))).map fun s => (f.close? negated s, rest)
  | _ => none

theorem readNamed?_colon (cs : List Char) : readNamed? f (':' :: cs) =
    if cs.head? = some '^' then named? f true cs.tail else named? f false cs := by
  unfold readNamed?
  by_cases h : cs.head? = some '^'
  · simp only [h, if_true, decide_true]
    rfl
  · simp only [h, if_false, decide_false]
    rfl

/-- What a name stands for, given what comes after the colon that ends it. -/
def nameEnd? (negated : Bool) (name : List Char) : List Char → Option (Option CharSet × List Char)
  | ']' :: rest => (namedClass? (String.ofList name)).map fun s => (f.close? negated s, rest)
  | _ => none

theorem named?_eq_nameEnd? (negated : Bool) {name : List Char} (h : ':' ∉ name) (r : List Char) :
    named? f negated (name ++ ':' :: r) = nameEnd? f negated name r := by
  have hname : ∀ c ∈ name, (c != ':') = true := by
    intro c hc
    exact bne_iff_ne.mpr fun heq => h (heq ▸ hc)
  unfold named?
  rw [List.dropWhile_append_of_pos hname, List.takeWhile_append_of_pos hname,
    List.dropWhile_cons_of_neg (by decide), List.takeWhile_cons_of_neg (by decide), List.append_nil]
  cases r with
  | nil => rfl
  | cons c r =>
    by_cases hc : c = ']'
    · rw [hc]
      rfl
    · simp [nameEnd?, hc]

theorem named?_of_notMem (negated : Bool) {cs : List Char} (h : ':' ∉ cs) :
    named? f negated cs = none := by
  have hdrop : cs.dropWhile (· != ':') = [] := by
    rw [List.dropWhile_eq_nil_iff]
    intro c hc
    exact bne_iff_ne.mpr fun heq => h (heq ▸ hc)
  unfold named?
  rw [hdrop]

theorem nameEnd?_of_mem (negated : Bool) {name : List Char} (h : ')' ∈ name) (r : List Char) :
    nameEnd? f negated name r = none := by
  unfold nameEnd?
  split
  · rw [namedClass?_eq_none h, Option.map_none]
  · rfl

theorem nameEnd?_append (negated : Bool) (name r : List Char) {t : List Char} (ht : IsEnd t) :
    nameEnd? f negated name (r ++ t) =
      (nameEnd? f negated name r).map fun p => (p.1, p.2 ++ t) := by
  cases r with
  | nil =>
    cases ht with
    | nil => rfl
    | close x => rfl
  | cons c r =>
    by_cases hc : c = ']'
    · rw [hc]
      simp only [nameEnd?, List.cons_append, Option.map_map]
      rfl
    · simp [nameEnd?, hc]

theorem mem_of_append_eq {cs t name r : List Char} (hcs : ':' ∉ cs) (ht : IsEnd t)
    (h : cs ++ t = name ++ ':' :: r) : ')' ∈ name := by
  rcases List.append_eq_append_iff.mp h with ⟨mid, hname, hmid⟩ | ⟨mid, hname, hmid⟩
  · cases ht with
    | nil => simp at hmid
    | close x =>
      obtain _ | ⟨c, mid⟩ := mid
      · simp at hmid
      · obtain ⟨rfl, -⟩ := List.cons.inj hmid
        simp [hname]
  · obtain _ | ⟨c, mid⟩ := mid
    · cases ht <;> simp at hmid
    · obtain ⟨rfl, -⟩ := List.cons.inj hmid
      simp [hname] at hcs

theorem named?_append (negated : Bool) (cs : List Char) {t : List Char} (ht : IsEnd t) :
    named? f negated (cs ++ t) = (named? f negated cs).map fun p => (p.1, p.2 ++ t) := by
  by_cases hcs : ':' ∈ cs
  · obtain ⟨name, r, rfl, hname⟩ := List.eq_append_cons_of_mem hcs
    rw [List.append_assoc, List.cons_append, named?_eq_nameEnd? f negated hname,
      named?_eq_nameEnd? f negated hname]
    exact nameEnd?_append f negated name r ht
  · rw [named?_of_notMem f negated hcs, Option.map_none]
    -- A name that is ended later has the parenthesis in it.
    by_cases hall : ':' ∈ cs ++ t
    · obtain ⟨name, r, heq, hname⟩ := List.eq_append_cons_of_mem hall
      rw [heq, named?_eq_nameEnd? f negated hname]
      exact nameEnd?_of_mem f negated (mem_of_append_eq hcs ht heq) r
    · exact named?_of_notMem f negated hall

theorem named?_suffix {negated : Bool} {cs rest : List Char} {s : Option CharSet}
    (h : named? f negated cs = some (s, rest)) : rest <:+ cs := by
  unfold named? at h
  split at h
  · next r heq =>
    obtain ⟨a, -, ha⟩ := Option.map_eq_some_iff.mp h
    obtain ⟨-, rfl⟩ := Prod.mk.inj ha
    have hdrop : ':' :: ']' :: r <:+ cs := heq ▸ List.dropWhile_suffix _
    exact ((List.suffix_cons _ r).trans (List.suffix_cons _ _)).trans hdrop
  · cases h

theorem readNamed?_of_ne {cs : List Char} (h : cs.head? ≠ some ':') :
    readNamed? f cs = none := by
  unfold readNamed?
  split
  · exact absurd rfl h
  · rfl

theorem readNamed?_append (cs : List Char) {t : List Char} (ht : IsEnd t) :
    readNamed? f (cs ++ t) = (readNamed? f cs).map fun p => (p.1, p.2 ++ t) := by
  have hcolon : (cs ++ t).head? = some ':' ↔ cs.head? = some ':' :=
    Unending.head (by decide) cs ht
  by_cases hcs : cs.head? = some ':'
  · obtain ⟨cs, rfl⟩ := List.head?_eq_some_iff.mp hcs
    have hcaret : (cs ++ t).head? = some '^' ↔ cs.head? = some '^' :=
      Unending.head (by decide) cs ht
    rw [List.cons_append, readNamed?_colon, readNamed?_colon]
    by_cases hneg : cs.head? = some '^'
    · obtain ⟨cs, rfl⟩ := List.head?_eq_some_iff.mp hneg
      exact named?_append f true cs ht
    · rw [if_neg (hcaret.not.mpr hneg), if_neg hneg]
      exact named?_append f false cs ht
  · rw [readNamed?_of_ne f (hcolon.not.mpr hcs), readNamed?_of_ne f hcs, Option.map_none]

theorem readNamed?_suffix {cs rest : List Char} {s : Option CharSet}
    (h : readNamed? f cs = some (s, rest)) : rest <:+ cs := by
  by_cases hcs : cs.head? = some ':'
  · obtain ⟨cs, rfl⟩ := List.head?_eq_some_iff.mp hcs
    rw [readNamed?_colon] at h
    split_ifs at h
    · exact ((named?_suffix f h).trans (List.tail_suffix cs)).trans (List.suffix_cons _ cs)
    · exact (named?_suffix f h).trans (List.suffix_cons _ cs)
  · rw [readNamed?_of_ne f hcs] at h
    cases h

end AlertRouting.Regex
