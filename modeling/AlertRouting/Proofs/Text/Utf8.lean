import AlertRouting.NameMap
import Mathlib.Data.Nat.Notation
import Mathlib.Tactic.SplitIfs

/-!
# UTF-8 keeps the order

Texts in the order of their code points are in the order of their bytes in UTF-8, because of two
characters the one with the smaller code point has the smaller byte where their bytes first differ.
-/
namespace AlertRouting.Text

/-- The bytes of a text in UTF-8. -/
def bytes (s : String) : List UInt8 := s.toUTF8.data.toList

theorem bytes_eq (s : String) : bytes s = s.toList.flatMap String.utf8EncodeChar := by
  rw [bytes, String.toUTF8_eq_toByteArray, ← String.utf8Encode_toList, List.utf8Encode,
    List.toList_data_toByteArray]

/-- Do the lists differ at some place, and is the first smaller there? -/
def Below : List UInt8 → List UInt8 → Prop
  | x :: s, y :: t => x < y ∨ x = y ∧ Below s t
  | _, _ => False

theorem Below.append_lt {s t : List UInt8} (h : Below s t) (u v : List UInt8) :
    s ++ u < t ++ v := by
  induction s generalizing t with
  | nil => exact h.elim
  | cons x s ih =>
    cases t with
    | nil => exact h.elim
    | cons y t =>
      rw [List.cons_append, List.cons_append, List.cons_lt_cons_iff]
      exact h.imp_right fun ⟨heq, hrest⟩ => ⟨heq, ih hrest⟩

theorem below_utf8EncodeChar {c d : Char} (h : c < d) :
    Below (String.utf8EncodeChar c) (String.utf8EncodeChar d) := by
  have hlt : c.val.toNat < d.val.toNat := h
  have hbound : d.val.toNat < 0x110000 := by
    rcases d.valid with hlow | ⟨-, hhigh⟩
    · exact Nat.lt_trans hlow (by decide)
    · exact hhigh
  -- Every byte is a digit in base 64 behind a mark of its own, so it is never cut to eight bits.
  have hfollowing (n : ℕ) : (n % 64 + 128) % 256 = n % 64 + 128 := by omega
  have hfirst (n : ℕ) : (n % 8 + 240) % 256 = n % 8 + 240 := by omega
  have hdigits (n : ℕ) : n / 4096 = n / 64 / 64 ∧ n / 262144 = n / 64 / 64 / 64 := by omega
  simp only [String.utf8EncodeChar]
  generalize c.val.toNat = v at *
  generalize d.val.toNat = w at *
  split_ifs <;>
  · simp only [Below, UInt8.lt_iff_toNat_lt, ← UInt8.toNat_inj, UInt8.toNat_ofNat', hfollowing,
      hfirst, hdigits, and_false, or_false]
    omega

theorem flatMap_utf8EncodeChar_lt {cs ds : List Char} (h : cs < ds) :
    cs.flatMap String.utf8EncodeChar < ds.flatMap String.utf8EncodeChar := by
  induction cs generalizing ds with
  | nil =>
    cases ds with
    | nil => exact absurd h (List.lt_irrefl _)
    | cons d ds =>
      obtain ⟨b, rest, hd⟩ := List.exists_cons_of_ne_nil (String.utf8EncodeChar_ne_nil (c := d))
      rw [List.flatMap_cons, hd]
      exact List.nil_lt_cons _ _
  | cons c cs ih =>
    cases ds with
    | nil => exact absurd h (by simp)
    | cons d ds =>
      rw [List.flatMap_cons, List.flatMap_cons]
      rcases List.cons_lt_cons_iff.mp h with hlt | ⟨rfl, hrest⟩
      · exact (below_utf8EncodeChar hlt).append_lt _ _
      · exact List.append_left_lt (ih hrest)

theorem bytes_lt {s t : String} (h : s < t) : bytes s < bytes t := by
  rw [bytes_eq, bytes_eq]
  exact flatMap_utf8EncodeChar_lt h

end AlertRouting.Text
