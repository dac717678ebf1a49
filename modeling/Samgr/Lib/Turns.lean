import Mathlib.Data.Int.ModEq
import Mathlib.Data.List.Basic

/-! Numbers that are given out in turn from 1 up to a size and then from 1 again. As long as no more of
them than the size are out at once, and they come back in the order they were given out, no two that
are out are the same. -/
namespace Turns

/-- The number that follows the last one given out. -/
def next (size last : Int) : Int := if last + 1 > size then 1 else last + 1

/-- The number given out at a turn, counted from 0. -/
def number (size : Int) (turn : Nat) : Int := turn % size + 1

/-- The number given out last; it is 0 before the first. -/
def last (size : Int) : Nat → Int
  | 0 => 0
  | turns + 1 => number size turns

/-- The numbers that are out: all but the first `back` have not come back. -/
def window (size : Int) (back turns : Nat) : List Int :=
  (List.range' back (turns - back)).map (number size)

variable {size : Int} {turn other back turns : Nat}

theorem next_last (positive : 0 < size) : next size (last size turns) = number size turns := by
  cases turns with
  | zero => simp [next, last, number]
  | succ turn =>
      have least : 0 ≤ (turn : Int) % size := Int.emod_nonneg _ (by omega)
      have below : (turn : Int) % size < size := Int.emod_lt_of_pos _ positive
      have parts : ((turn + 1 : Nat) : Int) % size = ((turn : Int) % size + 1) % size := by
        rw [Int.emod_add_emod, Nat.cast_succ]
      have given : last size (turn + 1) = (turn : Int) % size + 1 := rfl
      by_cases full : (turn : Int) % size + 1 = size
      · have exceeds : last size (turn + 1) + 1 > size := by omega
        rw [next, if_pos exceeds, number, parts, full, Int.emod_self]
        rfl
      · have under : ¬ last size (turn + 1) + 1 > size := by omega
        have small : ((turn : Int) % size + 1) % size = (turn : Int) % size + 1 :=
          Int.emod_eq_of_lt (by omega) (by omega)
        rw [next, if_neg under, given, number, parts, small]

/-- Two turns that are less than the size apart have the same number only if they are the same. -/
theorem turn_eq_of_number_eq (near : (turn : Int) - other < size) (far : (other : Int) - turn < size)
    (same : number size turn = number size other) : turn = other := by
  have congruent : (turn : Int) % size = other % size := by
    simpa [number] using same
  have divides : size ∣ (turn : Int) - other := Int.ModEq.dvd congruent.symm
  obtain ⟨rounds, apart⟩ := divides
  have none : rounds = 0 := by
    by_contra some
    rcases lt_or_gt_of_ne some with negative | positive
    · have least : size * rounds ≤ size * (-1) := Int.mul_le_mul_of_nonneg_left (by omega) (by omega)
      omega
    · have most : size * 1 ≤ size * rounds := Int.mul_le_mul_of_nonneg_left (by omega) (by omega)
      omega
  rw [none] at apart
  omega

theorem window_push (inside : back ≤ turns) :
    window size back (turns + 1) = window size back turns ++ [number size turns] := by
  have longer : turns + 1 - back = turns - back + 1 := by omega
  have end_ : back + (turns - back) = turns := by omega
  rw [window, window, longer, List.range'_concat, List.map_append]
  simp [end_]

theorem window_pop (inside : back < turns) :
    window size back turns = number size back :: window size (back + 1) turns := by
  have longer : turns - back = turns - (back + 1) + 1 := by omega
  rw [window, window, longer, List.range'_succ, List.map_cons]

theorem window_of_le (all : turns ≤ back) : window size back turns = [] := by
  have none : turns - back = 0 := by omega
  rw [window, none]
  rfl

theorem length_window : (window size back turns).length = turns - back := by
  simp [window]

end Turns
