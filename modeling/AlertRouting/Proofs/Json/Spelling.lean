import AlertRouting.Json.Token
import AlertRouting.Proofs.Text.Quoted
import Mathlib.Data.List.Chain
import Mathlib.Data.List.TakeWhile
import Mathlib.Data.Nat.Notation

/-!
# Spellings

There is a choice in how tokens are written: a character of a string may be escaped, and white space
may stand in front of every token and at the end. Whatever the choice is, the tokens are read.
-/
namespace AlertRouting.Json

inductive SpelledChar : Char → List Char → Prop
  | plain {c : Char} (hcontrol : 0x20 ≤ c.toNat) (hquote : c ≠ '"') (hslash : c ≠ '\\') :
      SpelledChar c [c]
  | letter {c e : Char} (h : letterEscape? e = some c) : SpelledChar c ['\\', e]
  | unit {c : Char} {digits : List Char} (hlength : digits.length = 4)
      (h : Text.hexNumber? digits = some c.toNat) : SpelledChar c ('\\' :: 'u' :: digits)
  /-- Two surrogates. -/
  | pair {c : Char} {high low : List Char} {m n : ℕ} (hhigh : high.length = 4)
      (hlow : low.length = 4) (hm : Text.hexNumber? high = some (0xd800 + m)) (hm' : m < 0x400)
      (hn : Text.hexNumber? low = some (0xdc00 + n)) (hn' : n < 0x400)
      (h : c.toNat = 0x10000 + m * 0x400 + n) :
      SpelledChar c ('\\' :: 'u' :: high ++ '\\' :: 'u' :: low)

inductive SpelledChars : List Char → List Char → Prop
  | nil : SpelledChars [] []
  | cons {c : Char} {s part rest : List Char} (hc : SpelledChar c part) (hs : SpelledChars s rest) :
      SpelledChars (c :: s) (part ++ rest)

inductive SpelledToken : Token → List Char → Prop
  | punctuation {c : Char} {t : Token} (h : punctuation? c = some t) : SpelledToken t [c]
  | word {cs : List Char} {t : Token} (h : word? cs = some t) : SpelledToken t cs
  | number {cs : List Char} (h : isNumber cs) : SpelledToken (.number (String.ofList cs)) cs
  | string {s cs : List Char} (h : SpelledChars s cs) :
      SpelledToken (.string (String.ofList s)) ('"' :: cs ++ ['"'])

/-- The spellings of tokens, with white space in front of each of them and at the end. -/
inductive SpelledTokens : List Token → List Char → Prop
  | nil {space : List Char} (hspace : ∀ c ∈ space, isSpace c) : SpelledTokens [] space
  | cons {t : Token} {ts : List Token} {space part rest : List Char}
      (hspace : ∀ c ∈ space, isSpace c) (ht : SpelledToken t part) (hts : SpelledTokens ts rest) :
      SpelledTokens (t :: ts) (space ++ (part ++ rest))

/-- Tokens may stand next to each other without white space. -/
theorem spelledTokens_flatMap {parts : List (Token × List Char)}
    (h : ∀ p ∈ parts, SpelledToken p.1 p.2) :
    SpelledTokens (parts.map (·.1)) (parts.flatMap (·.2)) := by
  induction parts with
  | nil => exact .nil (by simp)
  | cons p parts ih =>
    obtain ⟨hp, hparts⟩ := List.forall_mem_cons.mp h
    have hspace : ∀ c ∈ ([] : List Char), isSpace c := by simp
    exact .cons hspace hp (ih hparts)

/-- A string of ordinary characters may stand between quotes as it is. -/
theorem spelledToken_string {s : String}
    (h : s.toList.all fun c => 0x20 ≤ c.toNat ∧ c ≠ '"' ∧ c ≠ '\\') :
    SpelledToken (.string s) ('"' :: s.toList ++ ['"']) := by
  have hchars : SpelledChars s.toList s.toList := by
    generalize s.toList = cs at h
    induction cs with
    | nil => exact .nil
    | cons c cs ih =>
      rw [List.all_cons, Bool.and_eq_true, decide_eq_true_eq] at h
      obtain ⟨⟨hcontrol, hquote, hslash⟩, hcs⟩ := h
      exact .cons (.plain hcontrol hquote hslash) (ih hcs)
  have hstring := SpelledToken.string hchars
  rwa [String.ofList_toList] at hstring

/-! ## Strings -/

theorem readUnit?_append {digits : List Char} {n : ℕ} (hlength : digits.length = 4)
    (h : Text.hexNumber? digits = some n) (x : List Char) :
    readUnit? (digits ++ x) = some (n, x) := by
  match digits, hlength with
  | [a, b, c, d], _ => simp [readUnit?, h]

theorem readChar?_append {c : Char} {part : List Char} (h : SpelledChar c part) (x : List Char) :
    readChar? (part ++ x) = some (c, x) := by
  cases h with
  | plain hcontrol hquote hslash =>
    have hlow : ¬ c.toNat < 0x20 := Nat.not_lt.mpr hcontrol
    rw [List.singleton_append]
    unfold readChar?
    split
    · next heq => exact absurd (List.cons.inj heq).1 hslash
    · next heq => exact absurd (List.cons.inj heq).1 hslash
    · next heq =>
      obtain ⟨rfl, rfl⟩ := List.cons.inj heq
      simp [hlow, hslash]
    · next heq => cases heq
  | @letter e h =>
    have he : e ≠ 'u' := by
      intro he
      simp [he, letterEscape?] at h
    simp [readChar?, h]
  | unit hlength h =>
    have hunit := readUnit?_append hlength h x
    have hvalid : c.toNat < 0xd800 ∨ 0xdfff < c.toNat := c.valid.imp id And.left
    simp [readChar?, readUnits?, hunit, hvalid]
  | @pair high low m n hhigh hlow hm hm' hn hn' h =>
    have hfirst := readUnit?_append hhigh hm ('\\' :: 'u' :: (low ++ x))
    have hsecond := readUnit?_append hlow hn x
    have hsurrogate : ¬ (0xd800 + m < 0xd800 ∨ 0xdfff < 0xd800 + m) := by omega
    have hleading : ¬ 0xdc00 ≤ 0xd800 + m := by omega
    have htrailing : 0xdc00 ≤ 0xdc00 + n ∧ 0xdc00 + n ≤ 0xdfff := by omega
    have hc : Char.ofNat (0x10000 + m * 0x400 + n) = c := by rw [← h, Char.ofNat_toNat]
    simp only [List.cons_append, List.append_assoc, readChar?, readUnits?, hfirst, hsecond,
      if_neg hsurrogate, if_neg hleading, if_pos htrailing, Nat.add_sub_cancel_left, hc]

theorem SpelledChar.ne_quote {c : Char} {part : List Char} (h : SpelledChar c part)
    (x y : List Char) : part ++ x ≠ '"' :: y := by
  cases h with
  | plain _ hquote _ => simp [hquote]
  | letter _ => simp
  | unit _ _ => simp
  | pair _ _ _ _ _ _ _ => simp

theorem readString?_append {s cs : List Char} (h : SpelledChars s cs) (x : List Char) :
    readString? (cs ++ '"' :: x) = some (s, x) := by
  induction h with
  | nil => rw [List.nil_append, readString?]
  | @cons c s part rest hc hs ih =>
    rw [List.append_assoc, readString?]
    · split
      · next hread => simp [readChar?_append hc] at hread
      · next hread =>
        rw [readChar?_append hc] at hread
        cases hread
        rw [ih]
        rfl
    · exact fun y => hc.ne_quote _ y

/-! ## Tokens -/

def Token.isBare : Token → Bool
  | null => true
  | bool _ => true
  | number _ => true
  | _ => false

/-- Does the text end here, or go on with something that is no part of a word or a number? -/
def Breaks (x : List Char) : Prop := ∀ c ∈ x.head?, ¬ c.isAlpha ∧ ¬ isNumberChar c

theorem eq_of_word? {cs : List Char} {t : Token} (h : word? cs = some t) :
    cs = "null".toList ∨ cs = "true".toList ∨ cs = "false".toList := by
  have hchars {word : String} (heq : String.ofList cs = word) : cs = word.toList := by
    rw [← heq, String.toList_ofList]
  unfold word? at h
  split at h
  · next heq => exact .inl (hchars heq)
  · next heq => exact .inr (.inl (hchars heq))
  · next heq => exact .inr (.inr (hchars heq))
  · cases h

theorem isAlpha_of_word? {cs : List Char} {t : Token} (h : word? cs = some t) :
    cs ≠ [] ∧ cs.all Char.isAlpha := by
  rcases eq_of_word? h with rfl | rfl | rfl
  all_goals decide

theorem isBare_of_word? {cs : List Char} {t : Token} (h : word? cs = some t) : t.isBare := by
  rcases eq_of_word? h with rfl | rfl | rfl
  all_goals
    cases h
    rfl

theorem isNumberChar_of_isDigit {c : Char} (h : c.isDigit) : isNumberChar c := by
  simp [isNumberChar, h]

theorem isNumberChar_of_isDigits {cs : List Char} (h : isDigits cs) : ∀ c ∈ cs, isNumberChar c := by
  simp only [isDigits, Bool.and_eq_true, List.all_eq_true] at h
  exact fun c hc => isNumberChar_of_isDigit (h.2 c hc)

theorem isNumberChar_of_isExponent {cs : List Char} (h : isExponent cs) :
    ∀ c ∈ cs, isNumberChar c := by
  unfold isExponent at h
  split at h
  · exact List.forall_mem_cons.mpr ⟨by decide, isNumberChar_of_isDigits h⟩
  · exact List.forall_mem_cons.mpr ⟨by decide, isNumberChar_of_isDigits h⟩
  · exact isNumberChar_of_isDigits h

theorem isNumberChar_of_takeWhile {cs : List Char}
    (h : ∀ c ∈ cs.dropWhile Char.isDigit, isNumberChar c) : ∀ c ∈ cs, isNumberChar c := by
  intro c hc
  rw [← List.takeWhile_append_dropWhile (p := Char.isDigit) (l := cs), List.mem_append] at hc
  rcases hc with hc | hc
  · exact isNumberChar_of_isDigit (List.mem_takeWhile_imp hc)
  · exact h c hc

private theorem isNumberChar_of_last {cs : List Char}
    (h : (match cs with
      | [] => true
      | c :: r => (c = 'e' || c = 'E') && isExponent r) = true) : ∀ c ∈ cs, isNumberChar c := by
  cases cs with
  | nil => simp
  | cons c r =>
    simp only [Bool.and_eq_true, Bool.or_eq_true, decide_eq_true_eq] at h
    obtain ⟨hletter, hexponent⟩ := h
    have hc : isNumberChar c := by
      rcases hletter with rfl | rfl
      all_goals decide
    exact List.forall_mem_cons.mpr ⟨hc, isNumberChar_of_isExponent hexponent⟩

theorem isNumber_spec {cs : List Char} (h : isNumber cs) :
    (∃ c rest, cs = c :: rest ∧ (c.isDigit ∨ c = '-')) ∧ ∀ c ∈ cs, isNumberChar c := by
  simp only [isNumber, Bool.and_eq_true] at h
  obtain ⟨⟨⟨hwhole, -⟩, -⟩, hlast⟩ := h
  have hunsigned : ∀ c ∈ (if cs.head? = some '-' then cs.tail else cs), isNumberChar c := by
    apply isNumberChar_of_takeWhile
    have hchars := isNumberChar_of_last hlast
    split at hchars
    · next r heq =>
      rw [heq]
      exact List.forall_mem_cons.mpr ⟨by decide, isNumberChar_of_takeWhile hchars⟩
    · exact hchars
  cases cs with
  | nil => simp [isDigits] at hwhole
  | cons c rest =>
    by_cases hc : c = '-'
    · subst hc
      simp at hunsigned
      exact ⟨⟨_, _, rfl, .inr rfl⟩, List.forall_mem_cons.mpr ⟨by decide, hunsigned⟩⟩
    · simp [hc] at hunsigned hwhole
      refine ⟨⟨_, _, rfl, .inl ?_⟩, List.forall_mem_cons.mpr hunsigned⟩
      by_contra hdigit
      simp [isDigits, hdigit] at hwhole

private theorem punctuation?_spec {c : Char} {t : Token} (h : punctuation? c = some t) :
    isSpace c = false ∧ c ≠ '"' ∧ c.isAlpha = false ∧ isNumberChar c = false := by
  unfold punctuation? at h
  split at h
  all_goals first | decide | cases h

theorem eq_of_isSpace {c : Char} (h : isSpace c) : c = ' ' ∨ c = '\t' ∨ c = '\n' ∨ c = '\r' := by
  simpa [isSpace, or_assoc] using h

private theorem not_isSpace {p : Char → Bool}
    (hp : [' ', '\t', '\n', '\r', '"'].any p = false) {c : Char} (h : p c) :
    isSpace c = false ∧ c ≠ '"' := by
  have hne : ∀ d ∈ [' ', '\t', '\n', '\r', '"'], c ≠ d := by
    rintro d hd rfl
    exact List.any_eq_false.mp hp c hd h
  have hspace : ¬ isSpace c := fun hc => by
    rcases eq_of_isSpace hc with hc | hc | hc | hc
    all_goals exact hne _ (by simp) hc
  exact ⟨Bool.eq_false_iff.mpr hspace, hne _ (by simp)⟩

theorem tokens?_space {space : List Char} (h : ∀ c ∈ space, isSpace c) (x : List Char) :
    tokens? (space ++ x) = tokens? x := by
  induction space with
  | nil => rfl
  | cons c space ih =>
    obtain ⟨hc, hspace⟩ := List.forall_mem_cons.mp h
    rw [List.cons_append, tokens?, if_pos hc, ih hspace]

theorem tokens?_punctuation {c : Char} {t : Token} (h : punctuation? c = some t) (x : List Char) :
    tokens? (c :: x) = (tokens? x).map (t :: ·) := by
  obtain ⟨hspace, hquote, halpha, hnumber⟩ := punctuation?_spec h
  rw [tokens?]
  simp [hspace, hquote, halpha, hnumber, h]

theorem tokens?_word {cs : List Char} {t : Token} (h : word? cs = some t) {x : List Char}
    (hx : Breaks x) : tokens? (cs ++ x) = (tokens? x).map (t :: ·) := by
  obtain ⟨hne, halpha⟩ := isAlpha_of_word? h
  cases cs with
  | nil => exact absurd rfl hne
  | cons c rest =>
    obtain ⟨hc, hrest⟩ := List.forall_mem_cons.mp (List.all_eq_true.mp halpha)
    obtain ⟨hspace, hquote⟩ := not_isSpace (by decide) hc
    have htake := Text.takeWhile_append_stop hrest fun d hd => (hx d hd).1
    have hdrop := Text.dropWhile_append_stop hrest fun d hd => (hx d hd).1
    rw [List.cons_append, tokens?]
    simp [hspace, hquote, hc, htake, hdrop, h]

theorem not_isAlpha_of_isDigit {c : Char} (h : c.isDigit) : c.isAlpha = false := by
  have hdigits : ∀ n < 58, 48 ≤ n → (Char.ofNat n).isAlpha = false := by decide
  obtain ⟨hlow, hhigh⟩ := Char.isDigit_iff_toNat.mp h
  rw [← Char.ofNat_toNat c]
  exact hdigits _ (Nat.lt_succ_of_le hhigh) hlow

theorem tokens?_number {cs : List Char} (h : isNumber cs) {x : List Char} (hx : Breaks x) :
    tokens? (cs ++ x) = (tokens? x).map (.number (String.ofList cs) :: ·) := by
  obtain ⟨⟨c, rest, rfl, hstart⟩, hnumber⟩ := isNumber_spec h
  obtain ⟨hc, hrest⟩ := List.forall_mem_cons.mp hnumber
  obtain ⟨hspace, hquote⟩ := not_isSpace (by decide) hc
  have halpha : c.isAlpha = false := by
    rcases hstart with hdigit | rfl
    · exact not_isAlpha_of_isDigit hdigit
    · decide
  have htake := Text.takeWhile_append_stop hrest fun d hd => (hx d hd).2
  have hdrop := Text.dropWhile_append_stop hrest fun d hd => (hx d hd).2
  rw [List.cons_append, tokens?]
  simp [hspace, hquote, halpha, hc, htake, hdrop, h]

theorem tokens?_string {s cs : List Char} (h : SpelledChars s cs) (x : List Char) :
    tokens? ('"' :: (cs ++ '"' :: x)) = (tokens? x).map (.string (String.ofList s) :: ·) := by
  have hspace : isSpace '"' = false := by decide
  rw [tokens?, if_neg (by simp [hspace]), if_pos rfl]
  split
  · next hread => simp [readString?_append h] at hread
  · next hread =>
    rw [readString?_append h] at hread
    cases hread
    rfl

theorem tokens?_append {t : Token} {part : List Char} (h : SpelledToken t part) {x : List Char}
    (hx : t.isBare → Breaks x) : tokens? (part ++ x) = (tokens? x).map (t :: ·) := by
  cases h with
  | punctuation h => exact tokens?_punctuation h x
  | word h => exact tokens?_word h (hx (isBare_of_word? h))
  | number h => exact tokens?_number h (hx rfl)
  | string h => simpa using tokens?_string h x

/-- A token whose end can be told from itself begins with something that is no part of a word or a
number. -/
theorem breaks_of_spelled {ts : List Token} {cs : List Char} (h : SpelledTokens ts cs)
    (hts : ∀ t ∈ ts.head?, t.isBare = false) : Breaks cs := by
  have hspaced {space x : List Char} (hspace : ∀ c ∈ space, isSpace c) (hx : Breaks x) :
      Breaks (space ++ x) := by
    cases space with
    | nil => exact hx
    | cons c space =>
      intro d hd
      cases hd
      rcases eq_of_isSpace (hspace c List.mem_cons_self) with rfl | rfl | rfl | rfl
      all_goals decide
  cases h with
  | nil hspace => simpa using hspaced hspace (x := []) (by simp [Breaks])
  | cons hspace ht _ =>
    refine hspaced hspace ?_
    have hbare := hts _ rfl
    cases ht with
    | punctuation h =>
      obtain ⟨-, -, halpha, hnumber⟩ := punctuation?_spec h
      simp [Breaks, halpha, hnumber]
    | word h => simp [isBare_of_word? h] at hbare
    | number _ => cases hbare
    | string _ =>
      intro d hd
      cases hd
      decide

/-- Tokens are read from all their spellings, as long as no two whose end has to be told from what
follows stand next to each other. -/
theorem tokens?_of_spelled {ts : List Token} {cs : List Char} (h : SpelledTokens ts cs)
    (hts : ts.IsChain fun t u => t.isBare → u.isBare = false) : tokens? cs = some ts := by
  induction h with
  | nil hspace => simpa [tokens?] using tokens?_space hspace []
  | @cons t ts space part rest hspace ht hrest ih =>
    have hbreaks : t.isBare → Breaks rest := fun hbare =>
      breaks_of_spelled hrest fun u hu => (List.isChain_cons.mp hts).1 u hu hbare
    rw [tokens?_space hspace, tokens?_append ht hbreaks, ih (List.isChain_cons.mp hts).2]
    rfl

end AlertRouting.Json
