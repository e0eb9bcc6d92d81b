import AlertRouting.Config.Basic
import Mathlib.Data.List.Basic
import Mathlib.Data.Nat.Notation

/-!
# The texts of places

A place is shown by the positions on the way down to it, joined by points. No position has a point
in its text, so the positions can be read back and different paths have different texts.
-/
namespace AlertRouting

/-- The place of the route at a path of a configuration. The empty path is a route on its own. -/
def Location.ofPath : List ℕ → Location
  | [] => .route
  | i :: path => path.foldl .inside (.top i)

def positionText (i : ℕ) : String := "routes[" ++ toString i ++ "]"

def pathText (path : List ℕ) : String := ".".intercalate (path.map positionText)

/-- Further in, the text of a place has the positions from there on behind it. -/
theorem Location.text_foldl_inside (place : Location) (path : List ℕ) :
    (path.foldl Location.inside place).text =
      ".".intercalate (place.text :: path.map positionText) := by
  induction path generalizing place with
  | nil => simp
  | cons i path ih =>
    have hpoint : ".routes[" = "." ++ "routes[" := rfl
    have htext : (place.inside i).text = place.text ++ "." ++ positionText i := by
      simp only [Location.text, positionText, hpoint, String.append_assoc]
    rw [List.foldl_cons, ih, htext, String.intercalate_cons_append, List.map_cons,
      String.intercalate_cons_cons]

theorem Location.text_ofPath (i : ℕ) (path : List ℕ) :
    (Location.ofPath (i :: path)).text = pathText (i :: path) :=
  Location.text_foldl_inside (.top i) path

theorem toList_positionText (i : ℕ) :
    (positionText i).toList = "routes[".toList ++ Nat.toDigits 10 i ++ "]".toList := by
  simp [positionText]

theorem positionText_injective : Function.Injective positionText := by
  intro i j h
  have hdigits : Nat.toDigits 10 i = Nat.toDigits 10 j := by
    have hlists := congrArg String.toList h
    simpa only [toList_positionText, List.append_left_inj, List.append_right_inj] using hlists
  rw [← Nat.ofDigitChars_ten_toDigits (n := i), hdigits, Nat.ofDigitChars_ten_toDigits]

theorem point_notMem_positionText (i : ℕ) : '.' ∉ (positionText i).toList := by
  have hdigits : '.' ∉ Nat.toDigits 10 i := fun h =>
    absurd (Nat.isDigit_of_mem_toDigits (by decide) (Nat.le_refl 10) h) (by decide)
  rw [toList_positionText]
  simp [hdigits]

/-- The positions are the parts between the points. -/
theorem splitOn_pathText {path : List ℕ} (h : path ≠ []) :
    (pathText path).toList.splitOn '.' = path.map fun i => (positionText i).toList := by
  rw [pathText, String.toList_intercalate, List.map_map]
  refine List.splitOn_intercalate '.' ?_ (by simpa using h)
  simpa using fun i _ => point_notMem_positionText i

theorem pathText_cons_ne_empty (i : ℕ) (path : List ℕ) : pathText (i :: path) ≠ "" := by
  cases path <;> simp [pathText, positionText]

/-- Different paths have different texts. -/
theorem pathText_injective : Function.Injective pathText := by
  intro p q h
  match p, q with
  | [], [] => rfl
  | [], j :: q => exact absurd h.symm (pathText_cons_ne_empty j q)
  | i :: p, [] => exact absurd h (pathText_cons_ne_empty i p)
  | i :: p, j :: q =>
    have hparts := congrArg (fun s : String => s.toList.splitOn '.') h
    simp only [splitOn_pathText (List.cons_ne_nil _ _)] at hparts
    have hinj : Function.Injective fun i => (positionText i).toList := fun i j hij =>
      positionText_injective (String.toList_inj.mp hij)
    exact List.map_injective_iff.mpr hinj hparts

end AlertRouting
