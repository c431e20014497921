import Mathlib.Data.Int.Log
import Mathlib.Data.Rat.Floor
import Mathlib.Tactic.FieldSimp
import Mathlib.Tactic.Linarith

/-!
Rounding of rationals to integers and to double-precision floats.

A finite float is the rational that it stands for. Exponents have no upper end here, so a product
that overflows stays a large number instead of becoming an infinity.
-/

namespace Foundation

/-- `round(value)`: to the nearest integer, and from a tie to the even one. -/
def roundHalfEven (value : Rat) : Int :=
  let below := ⌊value⌋
  let rest := value - below
  if rest < 1 / 2 then below
  else if 1 / 2 < rest then below + 1
  else if below % 2 = 0 then below
  else below + 1

/-- Rounding moves a value by a half at most. -/
theorem roundHalfEven_near (value : Rat) : |(roundHalfEven value : Rat) - value| ≤ 1 / 2 := by
  have low : (⌊value⌋ : Rat) ≤ value := Int.floor_le value
  have high : value < ⌊value⌋ + 1 := Int.lt_floor_add_one value
  rw [abs_le, roundHalfEven]
  -- Below a half the floor is near, above it the ceiling, and at a half both are.
  split_ifs <;> push_cast <;> constructor <;> linarith

/-- What is at least an integer is rounded to at least that. -/
theorem le_roundHalfEven {limit : Int} {value : Rat} (above : limit ≤ value) :
    limit ≤ roundHalfEven value := by
  -- Below the integer there would be a whole unit to it, and rounding moves by half a unit at most.
  have near := (abs_le.mp (roundHalfEven_near value)).1
  by_contra below
  have whole : (roundHalfEven value : Rat) + 1 ≤ limit := by exact_mod_cast not_le.mp below
  linarith

/-- What is at most an integer is rounded to at most that. -/
theorem roundHalfEven_le {limit : Int} {value : Rat} (below : value ≤ limit) :
    roundHalfEven value ≤ limit := by
  -- As from the other side.
  have near := (abs_le.mp (roundHalfEven_near value)).2
  by_contra above
  have whole : (limit : Rat) + 1 ≤ roundHalfEven value := by exact_mod_cast not_le.mp above
  linarith

/-- What is less than a half away from an integer is rounded to it. -/
theorem roundHalfEven_of_near {whole : Int} {value : Rat} (near : |value - whole| < 1 / 2) :
    roundHalfEven value = whole := by
  -- The rounded value is less than a unit away from the integer.
  have moved := abs_le.mp (roundHalfEven_near value)
  have close := abs_lt.mp near
  have above : (roundHalfEven value : Rat) < (whole + 1 : Int) := by
    push_cast
    linarith
  have below : ((whole - 1 : Int) : Rat) < roundHalfEven value := by
    push_cast
    linarith
  have upper : roundHalfEven value < whole + 1 := by exact_mod_cast above
  have lower : whole - 1 < roundHalfEven value := by exact_mod_cast below
  omega

namespace Binary64

/-- The exponent of the last place of a float of this size: 53 bits, and none below `2 ^ -1074`. -/
def lastPlace (value : Rat) : Int :=
  max (Int.log 2 |value|) (-1022) - 52

/-- The float nearest to a value, and of two nearest ones that with the even significand. -/
def round (value : Rat) : Rat :=
  roundHalfEven (value / 2 ^ lastPlace value) * 2 ^ lastPlace value

/-- The place value of the last bit is positive. -/
theorem unit_pos (value : Rat) : (0 : Rat) < 2 ^ lastPlace value :=
  -- Powers of two are.
  zpow_pos (by norm_num) _

/-- Rounding to a float moves a value by half a unit in the last place at most. -/
theorem round_near_unit (value : Rat) :
    |round value - value| ≤ 2 ^ lastPlace value / 2 := by
  -- The significand moves by a half at most, and the unit scales that.
  have unit := unit_pos value
  have scaled : round value - value =
      (roundHalfEven (value / 2 ^ lastPlace value) - value / 2 ^ lastPlace value) *
        2 ^ lastPlace value := by
    rw [round]
    field_simp
  rw [scaled, abs_mul, abs_of_pos unit]
  have near := mul_le_mul_of_nonneg_right
    (roundHalfEven_near (value / 2 ^ lastPlace value)) unit.le
  linarith

/-- Half a unit in the last place is small against the value, or against every normal float. -/
theorem unit_le {value : Rat} (nonzero : value ≠ 0) :
    (2 : Rat) ^ lastPlace value / 2 ≤ |value| / 2 ^ 53 + 2 ^ (-1075 : Int) := by
  have size := div_nonneg (abs_nonneg value) (by norm_num : (0 : Rat) ≤ 2 ^ 53)
  have tiny : (0 : Rat) < 2 ^ (-1075 : Int) := zpow_pos (by norm_num) _
  have halved (exponent : Int) : (2 : Rat) ^ exponent / 2 = 2 ^ (exponent - 1) :=
    (zpow_sub_one₀ (by norm_num) exponent).symm
  rw [halved, lastPlace]
  rcases le_total (Int.log 2 |value|) (-1022) with small | normal
  · -- Below the normal range the unit is the least that there is.
    rw [max_eq_right small]
    have least : (-1022 - 52 - 1 : Int) = -1075 := rfl
    rw [least]
    linarith
  · -- In it the leading bit is at most the value.
    rw [max_eq_left normal, sub_sub, zpow_sub₀ (by norm_num)]
    have leading := Int.zpow_log_le_self (b := 2) (by norm_num) (abs_pos.mpr nonzero)
    have scaled := div_le_div_of_nonneg_right leading (by norm_num : (0 : Rat) ≤ 2 ^ 53)
    have bits : (2 : Rat) ^ (52 + 1 : Int) = 2 ^ 53 := by norm_num
    rw [bits]
    push_cast at scaled
    linarith

/-- Rounding to a float moves a value by a part in `2 ^ 53` at most, underflow apart. -/
theorem round_near (value : Rat) :
    |round value - value| ≤ |value| / 2 ^ 53 + 2 ^ (-1075 : Int) := by
  -- Half a unit in the last place is no more than that, and zero is not moved.
  by_cases zero : value = 0
  · rw [zero, round]
    simp [roundHalfEven]
  · exact (round_near_unit value).trans (unit_le zero)

/-- A value in the range of exact integers has a last place that divides one. -/
theorem unit_divides {value : Rat} (exact : |value| < 2 ^ 53) :
    ∃ parts : Nat, (2 : Rat) ^ lastPlace value * 2 ^ parts = 1 := by
  -- The leading bit is not above the bit 52, so the last place is at most one.
  have place : lastPlace value ≤ 0 := by
    by_cases zero : value = 0
    · rw [lastPlace, zero]
      simp
    · have leading := Int.zpow_log_le_self (b := 2) (by norm_num) (abs_pos.mpr zero)
      have bounded : (2 : Rat) ^ Int.log 2 |value| < 2 ^ (53 : Int) := by
        have same : (2 : Rat) ^ (53 : Int) = 2 ^ 53 := by norm_num
        push_cast at leading
        linarith
      have exponent := (zpow_lt_zpow_iff_right₀ (by norm_num : (1 : Rat) < 2)).mp bounded
      rw [lastPlace]
      omega
  refine ⟨(-lastPlace value).toNat, ?_⟩
  rw [← zpow_natCast, Int.toNat_of_nonneg (by omega), ← zpow_add₀ (by norm_num)]
  simp

/-- Where the last place divides one, an integer is a whole number of units. -/
theorem whole_units {value : Rat} {parts : Nat}
    (divides : (2 : Rat) ^ lastPlace value * 2 ^ parts = 1) (limit : Int) :
    ((limit * 2 ^ parts : Int) : Rat) * 2 ^ lastPlace value = limit := by
  -- The units of one cancel.
  push_cast
  rw [mul_assoc, mul_comm (2 ^ parts : Rat), divides, mul_one]

/-- A value beyond the range of exact integers stays far from zero. -/
theorem round_large {value : Rat} (large : 2 ^ 53 ≤ |value|) :
    |round value - value| ≤ |value| / 2 := by
  -- Half a unit in the last place is a small part of such a value.
  have near := round_near value
  have tiny : (2 : Rat) ^ (-1075 : Int) ≤ 2 ^ (0 : Int) :=
    zpow_le_zpow_right₀ (by norm_num) (by norm_num)
  rw [zpow_zero] at tiny
  linarith

/-- What is at least an integer is rounded to at least that. -/
theorem le_round {limit : Int} {value : Rat} (exact : |(limit : Rat)| ≤ 2 ^ 52)
    (above : limit ≤ value) : limit ≤ round value := by
  by_cases small : |value| < 2 ^ 53
  · -- The integer is a whole number of units, and rounding to one passes none.
    obtain ⟨parts, divides⟩ := unit_divides small
    have units := whole_units divides limit
    have rounded : limit * 2 ^ parts ≤ roundHalfEven (value / 2 ^ lastPlace value) :=
      le_roundHalfEven ((le_div_iff₀ (unit_pos value)).mpr (units.trans_le above))
    calc (limit : Rat) = ((limit * 2 ^ parts : Int) : Rat) * 2 ^ lastPlace value := units.symm
      _ ≤ round value := mul_le_mul_of_nonneg_right (by exact_mod_cast rounded) (unit_pos value).le
  · -- The value is far above the integer.
    have large := not_lt.mp small
    have bounds := abs_le.mp exact
    have moved := (abs_le.mp (round_large large)).1
    rcases abs_cases value with ⟨same, -⟩ | ⟨same, -⟩ <;> rw [same] at moved large <;> linarith

/-- What is at most an integer is rounded to at most that. -/
theorem round_le {limit : Int} {value : Rat} (exact : |(limit : Rat)| ≤ 2 ^ 52)
    (below : value ≤ limit) : round value ≤ limit := by
  by_cases small : |value| < 2 ^ 53
  · -- As from the other side.
    obtain ⟨parts, divides⟩ := unit_divides small
    have units := whole_units divides limit
    have rounded : roundHalfEven (value / 2 ^ lastPlace value) ≤ limit * 2 ^ parts :=
      roundHalfEven_le ((div_le_iff₀ (unit_pos value)).mpr (below.trans_eq units.symm))
    calc round value ≤ ((limit * 2 ^ parts : Int) : Rat) * 2 ^ lastPlace value :=
          mul_le_mul_of_nonneg_right (by exact_mod_cast rounded) (unit_pos value).le
      _ = limit := units
  · have large := not_lt.mp small
    have bounds := abs_le.mp exact
    have moved := (abs_le.mp (round_large large)).2
    rcases abs_cases value with ⟨same, -⟩ | ⟨same, -⟩ <;> rw [same] at moved large <;> linarith

end Binary64

end Foundation
