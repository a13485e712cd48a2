import Mathlib

/-!
# Rounding to significant digits

A number keeps so many digits of a base, and is rounded to the nearest such
number, of two to the even one.  The value of a double has 53 binary digits,
and `%.14g` writes 14 decimal ones.
-/

namespace Significant

/-- The nearest integer, the even one of two. -/
def nearest (value : ℚ) : ℤ :=
  let below := ⌊value⌋
  if value - below < 1 / 2 then
    below
  else if 1 / 2 < value - below then
    below + 1
  else if Even below then
    below
  else
    below + 1

/-- What the last of so many digits counts. -/
def unit (base digits : ℕ) (value : ℚ) : ℚ :=
  (base : ℚ) ^ (Int.log base |value| + 1 - digits)

/-- The value with so many digits. -/
def rounded (base digits : ℕ) (value : ℚ) : ℚ :=
  nearest (value / unit base digits value) * unit base digits value

theorem abs_nearest_sub_le
    (value : ℚ) :
    |(nearest value : ℚ) - value| ≤ 1 / 2 := by
  have atLeast := Int.floor_le value
  have below := Int.lt_floor_add_one value
  rw [abs_le]
  unfold nearest
  dsimp only
  split_ifs with low high even
  · constructor <;> linarith
  · push_cast
    constructor <;> linarith
  · constructor <;> linarith
  · push_cast
    constructor <;> linarith

variable
  {base : ℕ}
  {value : ℚ}

theorem unit_pos
    (proper : 1 < base)
    (digits : ℕ)
    (value : ℚ) :
    0 < unit base digits value := by
  have positive : (0 : ℚ) < base := by
    exact_mod_cast Nat.lt_of_succ_lt proper
  exact zpow_pos positive _

/-- Rounding moves a value by half a unit at most. -/
theorem abs_rounded_sub_le
    (proper : 1 < base)
    (digits : ℕ)
    (value : ℚ) :
    |rounded base digits value - value| ≤ unit base digits value / 2 := by
  have positive := unit_pos proper digits value
  have factored :
      rounded base digits value - value =
        (nearest (value / unit base digits value) -
            value / unit base digits value) *
          unit base digits value := by
    rw [rounded, sub_mul, div_mul_cancel₀ _ (ne_of_gt positive)]
  rw [factored, abs_mul, abs_of_pos positive]
  calc
    |(nearest (value / unit base digits value) : ℚ) -
          value / unit base digits value| * unit base digits value ≤
        1 / 2 * unit base digits value :=
      mul_le_mul_of_nonneg_right (abs_nearest_sub_le _) positive.le
    _ = unit base digits value / 2 := by ring

/-- Below a power of the base the unit is bounded. -/
theorem unit_le
    (proper : 1 < base)
    {power : ℕ}
    (digits : ℕ)
    (some : power ≠ 0)
    (small : |value| < (base : ℚ) ^ power) :
    unit base digits value ≤ (base : ℚ) ^ ((power : ℤ) - digits) := by
  have atLeast : (1 : ℚ) ≤ base := by
    exact_mod_cast proper.le
  apply zpow_le_zpow_right₀ atLeast
  have logarithm : Int.log base |value| < power := by
    rcases (abs_nonneg value).eq_or_lt with zero | positive
    · rw [← zero, Int.log_zero_right]
      exact_mod_cast Nat.pos_of_ne_zero some
    · rw [← Int.lt_zpow_iff_log_lt proper positive, zpow_natCast]
      exact small
  omega

end Significant
