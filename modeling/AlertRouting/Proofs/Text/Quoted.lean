import AlertRouting.Text.Quoted
import Mathlib.Data.List.Basic
import Mathlib.Data.Nat.Notation

/-!
# Reading quoted text back

A reader takes the characters of a quoted text back one by one, until it meets the closing quote. So
the text, and where it ends, can be told whatever stands behind it.
-/
namespace AlertRouting.Text

def escapedBy? : Char → Option Char
  | '"' => some '"'
  | '\\' => some '\\'
  | 'n' => some '\n'
  | 'r' => some '\r'
  | 't' => some '\t'
  | '0' => some '\x00'
  | _ => none

/-- Takes one character back, and none where the quoted text ends. -/
def unescape? : List Char → Option (Char × List Char)
  | '"' :: _ => none
  | '\\' :: 'u' :: '\x7b' :: rest =>
    (hexNumber? (rest.takeWhile (· ≠ '\x7d'))).map fun n =>
      (Char.ofNat n, (rest.dropWhile (· ≠ '\x7d')).drop 1)
  | '\\' :: c :: rest => (escapedBy? c).map fun e => (e, rest)
  | c :: rest => some (c, rest)
  | [] => none

/-- A run of characters ends where something else follows. -/
theorem takeWhile_append_stop {p : Char → Bool} {cs x : List Char} (hcs : ∀ c ∈ cs, p c)
    (hx : ∀ c ∈ x.head?, ¬ p c) : (cs ++ x).takeWhile p = cs := by
  rw [List.takeWhile_append_of_pos hcs]
  cases x with
  | nil => simp
  | cons c x => simp [hx c rfl]

theorem dropWhile_append_stop {p : Char → Bool} {cs x : List Char} (hcs : ∀ c ∈ cs, p c)
    (hx : ∀ c ∈ x.head?, ¬ p c) : (cs ++ x).dropWhile p = x := by
  rw [List.dropWhile_append_of_pos hcs]
  cases x with
  | nil => simp
  | cons c x => simp [hx c rfl]

theorem hexValue?_digitChar : ∀ d < 16, hexValue? (Nat.digitChar d) = some d := by
  decide

/-- The digits of a number are those of values below sixteen. -/
theorem exists_of_mem_hex {n : ℕ} {c : Char} (h : c ∈ hex n) : ∃ d < 16, c = Nat.digitChar d := by
  unfold hex at h
  induction n using Nat.strongRecOn with
  | ind n ih =>
    rw [Nat.toDigits_eq_if (by decide)] at h
    split at h
    · next hn => exact ⟨n, hn, List.mem_singleton.mp h⟩
    · next hn =>
      rcases List.mem_append.mp h with h | h
      · exact ih (n / 16) (by omega) h
      · exact ⟨n % 16, Nat.mod_lt n (by decide), List.mem_singleton.mp h⟩

theorem notMem_hex {c : Char} (h : hexValue? c = none) (n : ℕ) : c ∉ hex n := by
  intro hc
  obtain ⟨d, hd, rfl⟩ := exists_of_mem_hex hc
  rw [hexValue?_digitChar d hd] at h
  cases h

theorem hexNumber?_append {digits : List Char} {n v : ℕ} {c : Char} (hn : hexNumber? digits = some n)
    (hv : hexValue? c = some v) : hexNumber? (digits ++ [c]) = some (16 * n + v) := by
  unfold hexNumber? at hn ⊢
  obtain ⟨values, hvalues, rfl⟩ := Option.map_eq_some_iff.mp hn
  simp [List.mapM_append, hvalues, hv]

/-- The hexadecimal digits of a number stand for it. -/
theorem hexNumber?_hex (n : ℕ) : hexNumber? (hex n) = some n := by
  unfold hex
  induction n using Nat.strongRecOn with
  | ind n ih =>
    rw [Nat.toDigits_eq_if (by decide)]
    split
    · next hn => simp [hexNumber?, hexValue?_digitChar n hn]
    · next hn =>
      have hlast : n % 16 < 16 := Nat.mod_lt n (by decide)
      rw [hexNumber?_append (ih (n / 16) (by omega)) (hexValue?_digitChar _ hlast)]
      congr 1
      omega

theorem unescape?_of_ne {c : Char} (hquote : c ≠ '"') (hslash : c ≠ '\\') (x : List Char) :
    unescape? (c :: x) = some (c, x) := by
  unfold unescape?
  split <;> simp_all

/-- The digits up to the closing brace are those of the character. -/
theorem unescape?_hex (c : Char) (x : List Char) :
    unescape? ('\\' :: 'u' :: '\x7b' :: (hex c.toNat ++ '\x7d' :: x)) = some (c, x) := by
  have hall : ∀ d ∈ hex c.toNat, decide (d ≠ '\x7d') := fun d hd =>
    decide_eq_true fun h => notMem_hex (by decide) _ (h ▸ hd)
  have htake : (hex c.toNat ++ '\x7d' :: x).takeWhile (· ≠ '\x7d') = hex c.toNat :=
    takeWhile_append_stop hall (by simp)
  have hdrop : (hex c.toNat ++ '\x7d' :: x).dropWhile (· ≠ '\x7d') = '\x7d' :: x :=
    dropWhile_append_stop hall (by simp)
  rw [unescape?, htake, hdrop, hexNumber?_hex, Option.map_some, Char.ofNat_toNat]
  rfl

/-- Every character is taken back, and what stands behind it is left. -/
theorem unescape?_escape (c : Char) (x : List Char) : unescape? (escape c ++ x) = some (c, x) := by
  unfold escape
  split
  case _ => rfl
  case _ => rfl
  case _ => rfl
  case _ => rfl
  case _ => rfl
  case _ => rfl
  case _ hquote hslash _ _ _ _ =>
    split
    · exact unescape?_of_ne hquote hslash x
    · have htext : '\\' :: 'u' :: '\x7b' :: hex c.toNat ++ ['\x7d'] ++ x =
          '\\' :: 'u' :: '\x7b' :: (hex c.toNat ++ '\x7d' :: x) := by simp
      rw [htext, unescape?_hex]

/-- A quoted text never has a line end in it. -/
theorem newline_notMem_escape (c : Char) : '\n' ∉ escape c := by
  unfold escape
  split
  case _ => decide
  case _ => decide
  case _ => decide
  case _ => decide
  case _ => decide
  case _ => decide
  case _ _ _ hnewline _ _ _ =>
    split
    · simpa using Ne.symm hnewline
    · have hhex : '\n' ∉ hex c.toNat := notMem_hex (by decide) _
      simp [hhex]

theorem toList_quote (s : String) :
    (quote s).toList = '"' :: (s.toList.flatMap escape ++ ['"']) := by
  simp [quote]

theorem newline_notMem_quote (s : String) : '\n' ∉ (quote s).toList := by
  simp [toList_quote, newline_notMem_escape]

private theorem eq_of_flatMap_escape {s t x y : List Char}
    (h : s.flatMap escape ++ '"' :: x = t.flatMap escape ++ '"' :: y) : s = t ∧ x = y := by
  induction s generalizing t with
  | nil =>
    cases t with
    | nil => exact ⟨rfl, (List.cons.inj h).2⟩
    | cons d t =>
      have hread := congrArg unescape? h
      rw [List.flatMap_cons, List.append_assoc, unescape?_escape] at hread
      cases hread
  | cons c s ih =>
    have hread := congrArg unescape? h
    rw [List.flatMap_cons, List.append_assoc, unescape?_escape] at hread
    cases t with
    | nil => cases hread
    | cons d t =>
      rw [List.flatMap_cons, List.append_assoc, unescape?_escape] at hread
      obtain ⟨rfl, hrest⟩ := Prod.mk.inj (Option.some.inj hread)
      obtain ⟨rfl, rfl⟩ := ih hrest
      exact ⟨rfl, rfl⟩

/-- Quoted texts can be told apart whatever stands behind them. -/
theorem eq_of_quote_append {s t : String} {x y : List Char}
    (h : (quote s).toList ++ x = (quote t).toList ++ y) : s = t ∧ x = y := by
  rw [toList_quote, toList_quote] at h
  simp only [List.cons_append, List.append_assoc, List.nil_append, List.cons.injEq] at h
  obtain ⟨hs, hx⟩ := eq_of_flatMap_escape h.2
  exact ⟨String.toList_inj.mp hs, hx⟩

end AlertRouting.Text
