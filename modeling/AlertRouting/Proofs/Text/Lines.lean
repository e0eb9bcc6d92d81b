import AlertRouting.Proofs.Text.Quoted
import AlertRouting.Text.Basic

/-!
# Reading lines back

Texts that are written on lines of their own are the lines of what is written, as long as there is no
line end in any of them.
-/
namespace AlertRouting.Text

/-- The lines of a text: what stands in front of its line ends, and what stands behind the last one
if that is not empty. -/
def linesOf (text : String) : List String :=
  let parts := text.toList.splitOn '\n'
  (if parts.getLast? = some [] then parts.dropLast else parts).map String.ofList

def leadingBlanks (line : String) : ℕ := (line.toList.takeWhile (· = ' ')).length

theorem splitOn_lines {texts : List String} (h : ∀ t ∈ texts, '\n' ∉ t.toList) :
    (lines texts).toList.splitOn '\n' = texts.map String.toList ++ [[]] := by
  induction texts with
  | nil => rfl
  | cons t texts ih =>
    obtain ⟨ht, htexts⟩ := List.forall_mem_cons.mp h
    have hcons : (lines (t :: texts)).toList = t.toList ++ '\n' :: (lines texts).toList := by
      simp [lines]
    rw [hcons, List.splitOn_append_cons_self_of_not_mem ht, ih htexts]
    rfl

theorem linesOf_lines {texts : List String} (h : ∀ t ∈ texts, '\n' ∉ t.toList) :
    linesOf (lines texts) = texts := by
  unfold linesOf
  rw [splitOn_lines h]
  simp

theorem leadingBlanks_append (n : ℕ) {line : String} (h : line.toList.head? ≠ some ' ') :
    leadingBlanks (String.ofList (List.replicate n ' ') ++ line) = n := by
  have hblank : ∀ c ∈ List.replicate n ' ', decide (c = ' ') := by simp
  have hstop : ∀ c ∈ line.toList.head?, ¬ decide (c = ' ') := by
    intro c hc hblank
    exact h (of_decide_eq_true hblank ▸ hc)
  unfold leadingBlanks
  rw [String.toList_append, String.toList_ofList, takeWhile_append_stop hblank hstop,
    List.length_replicate]

end AlertRouting.Text
