import Mathlib.Data.Int.Bitwise
import Mathlib.Data.Nat.Bitwise

/-! Masks and bit fields of unbounded integers are remainders and sums. -/

namespace Foundation.Mask

/-- The bits of a number that a mask leaves out of it are counted down from the mask. -/
theorem ldiff_two_pow_sub_one (width value : Nat) :
    Nat.ldiff (2 ^ width - 1) value = 2 ^ width - 1 - value % 2 ^ width := by
  -- Bit by bit: subtracting from a word of ones clears exactly the bits that are set.
  have small : value % 2 ^ width < 2 ^ width := Nat.mod_lt _ (Nat.two_pow_pos width)
  apply Nat.eq_of_testBit_eq
  intro index
  rw [Nat.testBit_ldiff, Nat.testBit_two_pow_sub_one, Nat.sub_sub, Nat.add_comm 1,
    Nat.testBit_two_pow_sub_succ small, Nat.testBit_mod_two_pow]
  cases decide (index < width) <;> simp

/-- A mask of low bits takes the remainder, of negative integers too. -/
theorem land_mask (value : Int) (width : Nat) :
    Int.land value ((2 ^ width - 1 : Nat) : Int) = value % 2 ^ width := by
  cases value with
  | ofNat value =>
    show ((value &&& (2 ^ width - 1) : Nat) : Int) = (value : Int) % 2 ^ width
    rw [Nat.and_two_pow_sub_one_eq_mod]
    exact_mod_cast rfl
  | negSucc value =>
    -- The complement of the remainder is the remainder of the complement.
    show ((Nat.ldiff (2 ^ width - 1) value : Nat) : Int) = Int.negSucc value % 2 ^ width
    have small : value % 2 ^ width < 2 ^ width := Nat.mod_lt _ (Nat.two_pow_pos width)
    have whole : ((2 ^ width : Nat) : Int) = 2 ^ width := by exact_mod_cast rfl
    rw [ldiff_two_pow_sub_one, ← whole,
      Int.negSucc_emod _ (by exact_mod_cast Nat.two_pow_pos width), ← Int.natCast_mod]
    omega

/-- A field above a smaller number is added to it. -/
theorem lor_shift (high width : Nat) {low : Nat} (small : low < 2 ^ width) :
    Int.lor ((high : Int) <<< width) (low : Int) = ((high * 2 ^ width + low : Nat) : Int) := by
  -- The shifted number has zeros where the low part has bits.
  show ((high <<< width ||| low : Nat) : Int) = _
  rw [← Nat.shiftLeft_add_eq_or_of_lt small, Nat.shiftLeft_eq]

end Foundation.Mask
