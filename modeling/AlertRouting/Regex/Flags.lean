import AlertRouting.Text.Basic

/-!
# Flags of a pattern

Flags hold from where they are set to the end of the group. In a verbose pattern, blanks and comments
between its parts do not count.
-/
namespace AlertRouting.Regex

structure Flags where
  ignoreCase : Bool
  multiLine : Bool
  dotAll : Bool
  swapGreed : Bool
  unicode : Bool
  crlf : Bool
  verbose : Bool
deriving DecidableEq, Repr

namespace Flags

def initial : Flags := ⟨false, false, false, false, true, false, false⟩

def set? (f : Flags) (letter : Char) (on : Bool) : Option Flags :=
  match letter with
  | 'i' => some { f with ignoreCase := on }
  | 'm' => some { f with multiLine := on }
  | 's' => some { f with dotAll := on }
  | 'U' => some { f with swapGreed := on }
  | 'u' => some { f with unicode := on }
  | 'R' => some { f with crlf := on }
  | 'x' => some { f with verbose := on }
  | _ => none

/-- Sets the flags of the letters up to a hyphen, and clears those after it. -/
def assign? (f : Flags) (on : Bool) : List Char → Option Flags
  | [] => some f
  | '-' :: rest => f.assign? false rest
  | c :: rest => (f.set? c on).bind fun f => f.assign? on rest

/-- Flags as written between the question mark and what ends them: no letter comes twice, nor does
the hyphen, and a letter follows the hyphen. -/
def change? (f : Flags) (letters : List Char) : Option Flags :=
  if letters.Nodup ∧ letters.getLast? ≠ some '-' then f.assign? true letters else none

end Flags

/-- Drops blanks and comments; a comment goes on to the end of its line. -/
def dropBlank (comment : Bool) : List Char → List Char
  | [] => []
  | c :: rest =>
    if comment then dropBlank (c != '\n') rest
    else if Text.isBlank c then dropBlank false rest
    else if c = '#' then dropBlank true rest
    else c :: rest

theorem length_dropBlank_le (comment : Bool) (cs : List Char) :
    (dropBlank comment cs).length ≤ cs.length := by
  induction cs generalizing comment with
  | nil => simp [dropBlank]
  | cons c rest ih =>
    rw [dropBlank]
    split
    · exact Nat.le_succ_of_le (ih _)
    · split
      · exact Nat.le_succ_of_le (ih _)
      · split
        · exact Nat.le_succ_of_le (ih _)
        · exact Nat.le_refl _

/-- Drops what does not count before the next part of the pattern. -/
def Flags.skip (f : Flags) (cs : List Char) : List Char := if f.verbose then dropBlank false cs else cs

theorem Flags.length_skip_le (f : Flags) (cs : List Char) : (f.skip cs).length ≤ cs.length := by
  unfold Flags.skip
  split
  · exact length_dropBlank_le _ _
  · exact Nat.le_refl _

/-- The characters from here on that satisfy `p`, not counting what is skipped between them, and the
rest of the pattern. -/
def Flags.span (f : Flags) (p : Char → Bool) (cs : List Char) : List Char × List Char :=
  match cs with
  | [] => ([], [])
  | c :: rest =>
    if p c then let s := f.span p (f.skip rest); (c :: s.1, s.2) else ([], c :: rest)
termination_by cs.length
decreasing_by exact Nat.lt_succ_of_le (f.length_skip_le rest)

end AlertRouting.Regex
