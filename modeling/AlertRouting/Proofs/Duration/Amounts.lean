import AlertRouting.Duration
import AlertRouting.Proofs.Text.Joined
import Mathlib.Algebra.BigOperators.Group.List.Basic
import Mathlib.Algebra.GroupWithZero.Nat

/-!
# The amounts of a duration

The text of a duration is a sum of amounts, each a number and the name of a unit. Adding the amounts
up again gives the duration, so different durations have different texts.
-/
namespace AlertRouting.Duration

/-- The nanoseconds of an amount: the number in front, times the unit that is named behind it. -/
def nanosOf (amount : String) : ℕ :=
  number (amount.toList.takeWhile Char.isDigit) *
    ((TimeUnit.ofName? (String.ofList (amount.toList.dropWhile Char.isDigit))).elim 0 TimeUnit.nanos)

theorem number_toDigits (n : ℕ) : number (Nat.toDigits 10 n) = n := by
  have hfold : number (Nat.toDigits 10 n) = Nat.ofDigitChars 10 (Nat.toDigits 10 n) 0 :=
    Nat.ofDigitChars_eq_foldl.symm
  rw [hfold, Nat.ofDigitChars_ten_toDigits]

theorem isDigit_of_mem_toString {n : ℕ} {c : Char} (h : c ∈ (toString n).toList) :
    c.isDigit = true := by
  rw [Nat.toString_eq_ofList_toDigits, String.toList_ofList] at h
  exact Nat.isDigit_of_mem_toDigits (by decide) (by decide) h

theorem nanosOf_append {n : ℕ} {name : String} {u : TimeUnit} (hu : TimeUnit.ofName? name = some u)
    (hname : name.toList.takeWhile Char.isDigit = []) :
    nanosOf (toString n ++ name) = n * u.nanos := by
  have hdigits : ∀ c ∈ (toString n).toList, c.isDigit = true := fun c => isDigit_of_mem_toString
  have hrest : name.toList.dropWhile Char.isDigit = name.toList := by
    have hsplit := List.takeWhile_append_dropWhile (p := Char.isDigit) (l := name.toList)
    rwa [hname] at hsplit
  rw [nanosOf, String.toList_append, List.takeWhile_append_of_pos hdigits,
    List.dropWhile_append_of_pos hdigits, hname, hrest, List.append_nil, String.ofList_toList, hu,
    Nat.toString_eq_ofList_toDigits, String.toList_ofList, number_toDigits]
  rfl

/-- An amount that is left out counts for nothing, as it should. -/
theorem sum_amount (n : ℕ) {name : String} {u : TimeUnit} (hu : TimeUnit.ofName? name = some u)
    (hname : name.toList.takeWhile Char.isDigit = []) :
    ((amount n name).map nanosOf).sum = n * u.nanos := by
  unfold amount
  split
  · next h => simp [h]
  · rw [List.map_singleton, List.sum_singleton, nanosOf_append hu hname]

theorem sum_pluralAmount (n : ℕ) {name : String} {u : TimeUnit}
    (hone : TimeUnit.ofName? name = some u) (hmany : TimeUnit.ofName? (name ++ "s") = some u)
    (hname : name.toList.takeWhile Char.isDigit = [])
    (hnames : (name ++ "s").toList.takeWhile Char.isDigit = []) :
    ((pluralAmount n name).map nanosOf).sum = n * u.nanos := by
  unfold pluralAmount
  split
  · exact sum_amount n hone hname
  · exact sum_amount n hmany hnames

/-- The amounts add up to the duration. -/
theorem sum_amounts (d : Duration) : (d.amounts.map nanosOf).sum = d.nanos := by
  simp only [amounts, List.map_append, List.sum_append]
  rw [sum_pluralAmount (u := .year) _ (by decide) (by decide) (by decide) (by decide),
    sum_pluralAmount (u := .month) _ (by decide) (by decide) (by decide) (by decide),
    sum_pluralAmount (u := .day) _ (by decide) (by decide) (by decide) (by decide),
    sum_amount (u := .hour) _ (by decide) (by decide),
    sum_amount (u := .minute) _ (by decide) (by decide),
    sum_amount (u := .second) _ (by decide) (by decide),
    sum_amount (u := .millisecond) _ (by decide) (by decide),
    sum_amount (u := .microsecond) _ (by decide) (by decide),
    sum_amount (u := .nanosecond) _ (by decide) (by decide)]
  simp only [TimeUnit.nanos, seconds, subsec]
  omega

theorem isAlphanum_of_mem_amount {n : ℕ} {name : String} (hname : name.toList.all Char.isAlphanum)
    {p : String} (hp : p ∈ amount n name) : ∀ c ∈ p.toList, c.isAlphanum := by
  unfold amount at hp
  split at hp
  · cases hp
  · obtain rfl := List.mem_singleton.mp hp
    intro c hc
    rw [String.toList_append] at hc
    rcases List.mem_append.mp hc with hc | hc
    · simp [Char.isAlphanum, isDigit_of_mem_toString hc]
    · exact List.all_eq_true.mp hname c hc

theorem isAlphanum_of_mem_pluralAmount {n : ℕ} {name : String}
    (hone : name.toList.all Char.isAlphanum) (hmany : (name ++ "s").toList.all Char.isAlphanum)
    {p : String} (hp : p ∈ pluralAmount n name) : ∀ c ∈ p.toList, c.isAlphanum := by
  unfold pluralAmount at hp
  split at hp
  · exact isAlphanum_of_mem_amount hone hp
  · exact isAlphanum_of_mem_amount hmany hp

/-- An amount has only letters and digits. -/
theorem isAlphanum_of_mem_amounts {d : Duration} {p : String} (hp : p ∈ d.amounts) :
    ∀ c ∈ p.toList, c.isAlphanum := by
  simp only [amounts, List.mem_append] at hp
  rcases hp with (((((((hp | hp) | hp) | hp) | hp) | hp) | hp) | hp) | hp
  · exact isAlphanum_of_mem_pluralAmount (by decide) (by decide) hp
  · exact isAlphanum_of_mem_pluralAmount (by decide) (by decide) hp
  · exact isAlphanum_of_mem_pluralAmount (by decide) (by decide) hp
  · exact isAlphanum_of_mem_amount (by decide) hp
  · exact isAlphanum_of_mem_amount (by decide) hp
  · exact isAlphanum_of_mem_amount (by decide) hp
  · exact isAlphanum_of_mem_amount (by decide) hp
  · exact isAlphanum_of_mem_amount (by decide) hp
  · exact isAlphanum_of_mem_amount (by decide) hp

def shownAmounts (d : Duration) : List String := if d.nanos = 0 then ["0s"] else d.amounts

theorem text_eq (d : Duration) : d.text = " ".intercalate d.shownAmounts := by
  unfold text shownAmounts
  split
  · rw [String.intercalate_singleton]
  · rfl

theorem sum_shownAmounts (d : Duration) : (d.shownAmounts.map nanosOf).sum = d.nanos := by
  unfold shownAmounts
  split
  · next h =>
    rw [h]
    decide
  · exact sum_amounts d

theorem shownAmounts_ne_nil (d : Duration) : d.shownAmounts ≠ [] := by
  unfold shownAmounts
  split
  · exact List.cons_ne_nil _ _
  · next h =>
    intro hnil
    have hsum := sum_amounts d
    rw [hnil] at hsum
    exact h hsum.symm

theorem isAlphanum_of_mem_shownAmounts {d : Duration} {p : String} (hp : p ∈ d.shownAmounts) :
    ∀ c ∈ p.toList, c.isAlphanum := by
  unfold shownAmounts at hp
  split at hp
  · obtain rfl := List.mem_singleton.mp hp
    have hzero : "0s".toList.all Char.isAlphanum := by decide
    exact List.all_eq_true.mp hzero
  · exact isAlphanum_of_mem_amounts hp

/-- The amounts are what stands between the blanks. -/
theorem splitOn_text (d : Duration) :
    d.text.toList.splitOn ' ' = d.shownAmounts.map String.toList := by
  have hblank : ∀ p ∈ d.shownAmounts.map String.toList, ' ' ∉ p := by
    rw [List.forall_mem_map]
    intro p hp hmem
    exact absurd (isAlphanum_of_mem_shownAmounts hp ' ' hmem) (by decide)
  have hne : d.shownAmounts.map String.toList ≠ [] := by
    simpa using shownAmounts_ne_nil d
  rw [text_eq, String.toList_intercalate]
  exact List.splitOn_intercalate ' ' hblank hne

/-- Different durations have different texts. -/
theorem text_injective : Function.Injective text := by
  intro d e h
  have hparts : d.shownAmounts.map String.toList = e.shownAmounts.map String.toList := by
    rw [← splitOn_text, ← splitOn_text, h]
  have hamounts : d.shownAmounts = e.shownAmounts :=
    List.map_injective_iff.mpr (fun s t => String.toList_inj.mp) hparts
  have hnanos : d.nanos = e.nanos := by
    rw [← sum_shownAmounts, ← sum_shownAmounts, hamounts]
  cases d
  cases e
  exact congrArg Duration.mk hnanos

/-- The text of a duration has letters, digits and blanks. -/
theorem isAlphanum_or_blank_of_mem_text {d : Duration} {c : Char} (h : c ∈ d.text.toList) :
    c.isAlphanum = true ∨ c = ' ' := by
  rw [text_eq] at h
  rcases Text.mem_of_mem_intercalate h with h | ⟨p, hp, hc⟩
  · exact .inr (List.mem_singleton.mp h)
  · exact .inl (isAlphanum_of_mem_shownAmounts hp c hc)

end AlertRouting.Duration
