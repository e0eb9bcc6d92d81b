import AlertRouting.Regex.Matching
import Mathlib.Data.Nat.Bitwise
import Mathlib.Logic.Function.Iterate

/-!
# Sets of positions follow the matches

A set of positions is a number, and a sweep maps such a set to the set of the positions where
matches end. Every sweep moves a set along the relation of its expression, so the sweep of a whole
text tells whether some part of the text matches.
-/
namespace AlertRouting.Regex

theorem testBit_bits (p : ℕ → Bool) (n i : ℕ) :
    (bits p n).testBit i = (decide (i < n) && p i) := by
  induction n with
  | zero => simp [bits]
  | succ n ih =>
    have hn : (1 <<< n).testBit i = decide (n = i) := by
      rw [Nat.one_shiftLeft, Nat.testBit_two_pow]
    rw [bits]
    by_cases hi : n = i
    · subst hi
      by_cases hp : p n <;> simp [hp, ih, hn]
    · have hlt : (i < n + 1) ↔ (i < n) := by omega
      by_cases hp : p n <;> simp [hp, ih, hn, hi, hlt]

def Within (n s : ℕ) : Prop := ∀ i, s.testBit i → i ≤ n

/-- The function moves every set of positions along the relation, which never leads back or out of
the text. -/
structure Moves (n : ℕ) (f : ℕ → ℕ) (r : ℕ → ℕ → Prop) : Prop where
  forward : ∀ {i j}, r i j → i ≤ j ∧ j ≤ n
  testBit_iff : ∀ {s}, Within n s → ∀ j, (f s).testBit j ↔ ∃ i, s.testBit i ∧ r i j

theorem chain_add_iff {r : ℕ → ℕ → Prop} {m n i j : ℕ} :
    Chain r (m + n) i j ↔ ∃ k, Chain r m i k ∧ Chain r n k j := by
  induction m generalizing i with
  | zero => simp [Chain]
  | succ m ih =>
    simp only [Nat.succ_add, Chain, ih]
    constructor
    · rintro ⟨k, hik, l, hkl, hlj⟩
      exact ⟨l, ⟨k, hik, hkl⟩, hlj⟩
    · rintro ⟨l, ⟨k, hik, hkl⟩, hlj⟩
      exact ⟨k, hik, l, hkl, hlj⟩

namespace Moves

variable {n : ℕ} {f : ℕ → ℕ} {r : ℕ → ℕ → Prop}

theorem within (h : Moves n f r) {s : ℕ} (hs : Within n s) : Within n (f s) := by
  intro j hj
  obtain ⟨i, -, hr⟩ := (h.testBit_iff hs j).mp hj
  exact (h.forward hr).2

theorem chain_le (h : Moves n f r) {m i j : ℕ} (hc : Chain r m i j) : i ≤ j ∧ (i ≤ n → j ≤ n) := by
  induction m generalizing i with
  | zero => exact ⟨hc.le, fun hi => hc ▸ hi⟩
  | succ m ih =>
    obtain ⟨k, hik, hkj⟩ := hc
    obtain ⟨h₁, h₂⟩ := h.forward hik
    obtain ⟨h₃, h₄⟩ := ih hkj
    exact ⟨h₁.trans h₃, fun _ => h₄ h₂⟩

/-- Steps that stay in place can be left out, so a chain needs no more steps than it has way to go.
-/
theorem exists_chain_le (h : Moves n f r) {m i j : ℕ} (hc : Chain r m i j) :
    ∃ k, k ≤ j - i ∧ Chain r k i j := by
  induction m generalizing i with
  | zero => exact ⟨0, Nat.zero_le _, hc⟩
  | succ m ih =>
    obtain ⟨l, hil, hlj⟩ := hc
    obtain ⟨k, hk, hkj⟩ := ih hlj
    have hle := (h.forward hil).1
    have hle' := (h.chain_le hlj).1
    by_cases he : i = l
    · subst he
      exact ⟨k, hk, hkj⟩
    · exact ⟨k + 1, by omega, l, hil, hkj⟩

theorem testBit_iterate (h : Moves n f r) (m : ℕ) {s : ℕ} (hs : Within n s) (j : ℕ) :
    (f^[m] s).testBit j ↔ ∃ i, s.testBit i ∧ Chain r m i j := by
  induction m generalizing s with
  | zero => simp [Chain]
  | succ m ih =>
    rw [Function.iterate_succ_apply, ih (h.within hs)]
    constructor
    · rintro ⟨k, hk, hkj⟩
      obtain ⟨i, hi, hik⟩ := (h.testBit_iff hs k).mp hk
      exact ⟨i, hi, k, hik, hkj⟩
    · rintro ⟨i, hi, k, hik, hkj⟩
      exact ⟨k, (h.testBit_iff hs k).mpr ⟨i, hi, hik⟩, hkj⟩

end Moves

theorem power_eq_iterate (f : ℕ → ℕ) (n s : ℕ) : power f n s = f^[n] s := by
  induction n generalizing s with
  | zero => rfl
  | succ n ih =>
    simp only [power, Function.iterate_succ_apply]
    split
    · next h => rw [h, Function.iterate_fixed h]
    · exact ih _

namespace Moves

variable {n : ℕ} {f : ℕ → ℕ} {r : ℕ → ℕ → Prop}

theorem testBit_or_iff (h : Moves n f r) {seen frontier : ℕ} (hf : Within n frontier) (j : ℕ) :
    (seen ||| f frontier).testBit j ↔ seen.testBit j ∨ ∃ i, frontier.testBit i ∧ r i j := by
  rw [Nat.testBit_or, Bool.or_eq_true, h.testBit_iff hf]

/-- Positions seen that are not on the frontier have been followed before: their steps stay within
the positions seen. Under this invariant the search finds every position that up to `m` steps from
the positions seen lead to. -/
theorem testBit_spread (h : Moves n f r) (m : ℕ) {seen frontier : ℕ} (hs : Within n seen)
    (hsub : ∀ i, frontier.testBit i → seen.testBit i)
    (hdone : ∀ i, seen.testBit i → ¬ frontier.testBit i → ∀ j, r i j → seen.testBit j) (j : ℕ) :
    (spread f m seen frontier).testBit j ↔ ∃ k ≤ m, ∃ i, seen.testBit i ∧ Chain r k i j := by
  induction m generalizing seen frontier with
  | zero =>
    refine ⟨fun hj => ⟨0, Nat.le_refl _, j, hj, rfl⟩, ?_⟩
    rintro ⟨k, hk, i, hi, hc⟩
    obtain rfl := Nat.le_zero.mp hk
    exact (show i = j from hc) ▸ hi
  | succ m ih =>
    have hall (i : ℕ) : (seen ||| f frontier).testBit i ↔
        seen.testBit i ∨ ∃ k, frontier.testBit k ∧ r k i :=
      h.testBit_or_iff (fun k hk => hs k (hsub k hk)) i
    have hstep (i k : ℕ) (hi : seen.testBit i) (hik : r i k) :
        (seen ||| f frontier).testBit k := by
      rw [hall]
      by_cases hf : frontier.testBit i
      · exact .inr ⟨i, hf, hik⟩
      · exact .inl (hdone i hi hf k hik)
    simp only [spread]
    split
    · next heq =>
      -- Nothing new: what has been seen is closed under steps.
      refine ⟨fun hj => ⟨0, Nat.zero_le _, j, hj, rfl⟩, ?_⟩
      rintro ⟨k, -, i, hi, hc⟩
      clear ih
      induction k generalizing i with
      | zero => exact (show i = j from hc) ▸ hi
      | succ k ihk =>
        obtain ⟨l, hil, hlj⟩ := hc
        exact ihk l (heq ▸ hstep i l hi hil) hlj
    · have hnew (i : ℕ) : ((seen ||| f frontier) ^^^ seen).testBit i ↔
          (seen ||| f frontier).testBit i ∧ ¬ seen.testBit i := by
        rw [Nat.testBit_xor, Nat.testBit_or]
        cases seen.testBit i <;> simp
      have hwithin : Within n (seen ||| f frontier) := by
        intro i hi
        rcases (hall i).mp hi with hi | ⟨k, -, hr⟩
        · exact hs i hi
        · exact (h.forward hr).2
      have hold (i : ℕ) (hi : (seen ||| f frontier).testBit i)
          (hf : ¬ ((seen ||| f frontier) ^^^ seen).testBit i) : seen.testBit i :=
        by_contra fun hn => hf ((hnew i).mpr ⟨hi, hn⟩)
      rw [ih hwithin (fun i hi => ((hnew i).mp hi).1)
        (fun i hi hf k hik => hstep i k (hold i hi hf) hik)]
      constructor
      · rintro ⟨k, hk, i, hi, hc⟩
        rcases (hall i).mp hi with hi | ⟨l, hl, hr⟩
        · exact ⟨k, by omega, i, hi, hc⟩
        · exact ⟨k + 1, by omega, l, hsub l hl, i, hr, hc⟩
      · rintro ⟨k, hk, i, hi, hc⟩
        cases k with
        | zero => exact ⟨0, by omega, i, (hall i).mpr (.inl hi), hc⟩
        | succ k =>
          obtain ⟨l, hil, hlj⟩ := hc
          exact ⟨k, by omega, l, hstep i l hi hil, hlj⟩

/-- `least` rounds and then up to `more` of them. -/
theorem rounds (h : Moves n f r) (least more : ℕ) {s : ℕ} (hs : Within n s) (j : ℕ) :
    (spread f more (power f least s) (power f least s)).testBit j ↔
      ∃ i, s.testBit i ∧ ∃ k, least ≤ k ∧ k ≤ least + more ∧ Chain r k i j := by
  rw [power_eq_iterate]
  have hpower := h.testBit_iterate least hs
  have hwithin : Within n (f^[least] s) := by
    intro i hi
    obtain ⟨k, hk, hc⟩ := (hpower i).mp hi
    exact (h.chain_le hc).2 (hs k hk)
  rw [h.testBit_spread more hwithin (fun _ => id) (fun i hi hn => absurd hi hn)]
  constructor
  · rintro ⟨k, hk, l, hl, hc⟩
    obtain ⟨i, hi, hil⟩ := (hpower l).mp hl
    exact ⟨i, hi, least + k, by omega, by omega, chain_add_iff.mpr ⟨l, hil, hc⟩⟩
  · rintro ⟨i, hi, k, hk, hkm, hc⟩
    obtain ⟨d, rfl⟩ := Nat.exists_eq_add_of_le hk
    obtain ⟨l, hil, hlj⟩ := chain_add_iff.mp hc
    exact ⟨d, by omega, l, (hpower l).mpr ⟨i, hi, hil⟩, hlj⟩

end Moves

variable {text : Array Char}

theorem testBit_positions (i : ℕ) : (positions text).testBit i ↔ i ≤ text.size := by
  simp only [positions, testBit_bits, Nat.lt_succ_iff, Bool.and_true, decide_eq_true_eq]

/-- A sweep that lets positions pass where `p` holds. -/
theorem moves_pass (p : ℕ → Bool) :
    Moves text.size (Sweep.pass (bits p (text.size + 1))).ends
      fun i j => i = j ∧ i ≤ text.size ∧ p i = true where
  forward := by
    rintro i j ⟨rfl, hi, -⟩
    exact ⟨Nat.le_refl _, hi⟩
  testBit_iff := by
    intro s hs j
    simp only [Sweep.ends, Nat.testBit_and, testBit_bits, Bool.and_eq_true, decide_eq_true_eq]
    constructor
    · rintro ⟨hj, hlt, hp⟩
      exact ⟨j, hj, rfl, by omega, hp⟩
    · rintro ⟨i, hi, rfl, hle, hp⟩
      exact ⟨hi, by omega, hp⟩

/-- A sweep that takes a character of a set. -/
theorem moves_take (s : CharSet) :
    Moves text.size (Sweep.take (positionsIn text s)).ends
      fun i j => j = i + 1 ∧ text[i]?.any s.contains = true where
  forward := by
    rintro i j ⟨rfl, h⟩
    have hi : i < text.size := by
      by_contra hn
      simp [Array.getElem?_eq_none (Nat.le_of_not_lt hn)] at h
    omega
  testBit_iff := by
    intro t ht j
    simp only [Sweep.ends, positionsIn, Nat.testBit_shiftLeft, Nat.testBit_and, testBit_bits,
      Bool.and_eq_true, decide_eq_true_eq]
    constructor
    · rintro ⟨hj, hi, hlt, hs⟩
      exact ⟨j - 1, hi, by omega, hs⟩
    · rintro ⟨i, hi, rfl, hs⟩
      have hlt : i < text.size := by
        by_contra hn
        simp [Array.getElem?_eq_none (Nat.le_of_not_lt hn)] at hs
      exact ⟨by omega, by simpa using hi, by simpa using hlt, by simpa using hs⟩

theorem moves_seq {a b : Sweep} {r q : ℕ → ℕ → Prop} {n : ℕ} (ha : Moves n a.ends r)
    (hb : Moves n b.ends q) : Moves n (Sweep.seq a b).ends fun i j => ∃ k, r i k ∧ q k j where
  forward := by
    rintro i j ⟨k, hik, hkj⟩
    exact ⟨(ha.forward hik).1.trans (hb.forward hkj).1, (hb.forward hkj).2⟩
  testBit_iff := by
    intro s hs j
    simp only [Sweep.ends, hb.testBit_iff (ha.within hs), ha.testBit_iff hs]
    constructor
    · rintro ⟨k, ⟨i, hi, hik⟩, hkj⟩
      exact ⟨i, hi, k, hik, hkj⟩
    · rintro ⟨i, hi, k, hik, hkj⟩
      exact ⟨k, ⟨i, hi, hik⟩, hkj⟩

theorem moves_either {a b : Sweep} {r q : ℕ → ℕ → Prop} {n : ℕ} (ha : Moves n a.ends r)
    (hb : Moves n b.ends q) : Moves n (Sweep.either a b).ends fun i j => r i j ∨ q i j where
  forward := by
    rintro i j (h | h)
    · exact ha.forward h
    · exact hb.forward h
  testBit_iff := by
    intro s hs j
    simp only [Sweep.ends, Nat.testBit_or, Bool.or_eq_true, ha.testBit_iff hs, hb.testBit_iff hs]
    constructor
    · rintro (⟨i, hi, h⟩ | ⟨i, hi, h⟩)
      · exact ⟨i, hi, .inl h⟩
      · exact ⟨i, hi, .inr h⟩
    · rintro ⟨i, hi, h | h⟩
      · exact .inl ⟨i, hi, h⟩
      · exact .inr ⟨i, hi, h⟩

theorem moves_rounds {t : Sweep} {r : ℕ → ℕ → Prop} {n : ℕ} (ht : Moves n t.ends r)
    (least more : ℕ) : Moves n (Sweep.rounds t least more).ends
      fun i j => ∃ k, least ≤ k ∧ k ≤ least + more ∧ i ≤ n ∧ Chain r k i j where
  forward := by
    rintro i j ⟨k, -, -, hi, hc⟩
    exact ⟨(ht.chain_le hc).1, (ht.chain_le hc).2 hi⟩
  testBit_iff := by
    intro s hs j
    simp only [Sweep.ends, ht.rounds least more hs]
    constructor
    · rintro ⟨i, hi, k, hk, hkm, hc⟩
      exact ⟨i, hi, k, hk, hkm, hs i hi, hc⟩
    · rintro ⟨i, hi, k, hk, hkm, -, hc⟩
      exact ⟨i, hi, k, hk, hkm, hc⟩

theorem moves_congr {n : ℕ} {f : ℕ → ℕ} {r q : ℕ → ℕ → Prop} (h : Moves n f r)
    (hrq : ∀ i j, r i j ↔ q i j) : Moves n f q := by
  obtain rfl : r = q := by
    funext i j
    exact propext (hrq i j)
  exact h

/-- The sweep of an expression moves positions along its matches. -/
theorem moves_on {known : List (CharSet × ℕ)} (hknown : ∀ s, find text known s = positionsIn text s)
    (e : Expr) : Moves text.size (e.on text known).ends (e.Matches text) := by
  induction e with
  | empty =>
    refine moves_congr (moves_pass fun _ => true) fun i j => ?_
    simp [Expr.Matches]
  | chars s depth =>
    rw [Expr.on, hknown]
    exact moves_take s
  | look l =>
    exact moves_pass _
  | group captures e ih => exact ih
  | cat a b iha ihb => exact moves_seq iha ihb
  | alt a b iha ihb => exact moves_either iha ihb
  | repeated e least most ih =>
    cases most with
    | none =>
      refine moves_congr (moves_rounds ih least (text.size + 1)) fun i j => ?_
      constructor
      · rintro ⟨k, hk, -, hi, hc⟩
        exact ⟨k, hk, nofun, hi, hc⟩
      · rintro ⟨k, hk, -, hi, hc⟩
        -- The rounds beyond `least` can be cut down to the length of the text.
        obtain ⟨d, rfl⟩ := Nat.exists_eq_add_of_le hk
        obtain ⟨l, hil, hlj⟩ := chain_add_iff.mp hc
        obtain ⟨m, hm, hlj'⟩ := ih.exists_chain_le hlj
        have hj := (ih.chain_le hc).2 hi
        exact ⟨least + m, by omega, by omega, hi, chain_add_iff.mpr ⟨l, hil, hlj'⟩⟩
    | some m =>
      by_cases hm : least ≤ m
      · rw [Expr.on]
        simp only [hm, if_true]
        refine moves_congr (moves_rounds ih least (m - least)) fun i j => ?_
        constructor
        · rintro ⟨k, hk, hkm, hi, hc⟩
          exact ⟨k, hk, fun l hl => by cases hl; omega, hi, hc⟩
        · rintro ⟨k, hk, hkm, hi, hc⟩
          exact ⟨k, hk, by have := hkm m rfl; omega, hi, hc⟩
      · rw [Expr.on]
        simp only [hm, if_false]
        constructor
        · rintro i j ⟨k, hk, hkm, -, -⟩
          exact absurd (hk.trans (hkm m rfl)) hm
        · intro s hs j
          simp only [Sweep.ends, Nat.and_zero, Nat.zero_testBit, Bool.false_eq_true, false_iff]
          rintro ⟨i, -, k, hk, hkm, -, -⟩
          exact hm (hk.trans (hkm m rfl))

theorem Expr.le_of_matches {e : Expr} {i j : ℕ} (h : e.Matches text i j) :
    i ≤ j ∧ j ≤ text.size :=
  (moves_on (fun s => find_index text (e.sets []) s) e).forward h

/-- There is a match in a text if and only if some part of the text matches. -/
theorem Expr.isMatch_iff (e : Expr) (text : String) :
    e.isMatch text = true ↔ ∃ i j, e.Matches text.toList.toArray i j := by
  have hmoves := moves_on (fun s => find_index text.toList.toArray (e.sets []) s) e
  have hall : Within text.toList.toArray.size (positions text.toList.toArray) :=
    fun i hi => (testBit_positions i).mp hi
  rw [Expr.isMatch, bne_iff_ne]
  constructor
  · intro h
    obtain ⟨j, hj⟩ := Nat.exists_testBit_of_ne_zero h
    obtain ⟨i, -, hm⟩ := (hmoves.testBit_iff hall j).mp hj
    exact ⟨i, j, hm⟩
  · rintro ⟨i, j, hm⟩ h
    have hij := Expr.le_of_matches hm
    have hj := (hmoves.testBit_iff hall j).mpr ⟨i, (testBit_positions i).mpr (by omega), hm⟩
    rw [h, Nat.zero_testBit] at hj
    cases hj

end AlertRouting.Regex
