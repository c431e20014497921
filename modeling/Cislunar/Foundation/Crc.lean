import Mathlib.Data.Nat.Bitwise
import Mathlib.Logic.Function.Iterate

/-!
Reflected cyclic redundancy checks of any width and polynomial.

The register loses nothing: a shift can be undone, and as many bytes as the register is wide can be
read back from the register they lead to.
-/

namespace Foundation.Crc

/-- One shift of a reflected register. -/
def shift (polynomial register : Nat) : Nat :=
  if register % 2 = 1 then (register >>> 1) ^^^ polynomial else register >>> 1

/-- One byte enters the register at its low end. -/
def feed (polynomial register : Nat) (byte : UInt8) : Nat :=
  (shift polynomial)^[8] (register ^^^ byte.toNat)

/-- A byte string as one number, first byte lowest. -/
def word : List UInt8 → Nat
  | [] => 0
  | byte :: rest => byte.toNat ^^^ word rest * 2 ^ 8

/-- A reflected polynomial fills a register exactly when its constant term is the top bit. -/
def Fills (polynomial width : Nat) : Prop :=
  ∃ below, width = below + 1 ∧ 2 ^ below ≤ polynomial ∧ polynomial < 2 ^ width

section
variable {polynomial width : Nat}

/-- Whatever stands above the lowest bit passes a shift unchanged. -/
theorem shift_xor_double (register value : Nat) :
    shift polynomial (register ^^^ value * 2) = shift polynomial register ^^^ value := by
  have parity : (register ^^^ value * 2) % 2 = register % 2 := by
    have split := Nat.xor_mod_two_pow (a := register) (b := value * 2) (n := 1)
    rw [Nat.pow_one, Nat.mul_mod_left, Nat.xor_zero] at split
    exact split
  have moved : (register ^^^ value * 2) >>> 1 = register >>> 1 ^^^ value := by
    rw [Nat.shiftRight_xor_distrib]
    simp [Nat.shiftRight_one]
  -- The parity decides whether the polynomial is added, and it is the same on both sides.
  unfold shift
  rw [parity, moved]
  split
  · rw [Nat.xor_assoc, Nat.xor_assoc, Nat.xor_comm value]
  · rfl

/-- Whatever stands above the lowest bits passes as many shifts unchanged. -/
theorem iterate_shift_xor (count register value : Nat) :
    (shift polynomial)^[count] (register ^^^ value * 2 ^ count) =
      (shift polynomial)^[count] register ^^^ value := by
  -- By induction on the shifts: one of them moves the upper part down by one bit.
  induction count generalizing value with
  | zero => simp
  | succ count ih =>
    have doubled : value * 2 ^ (count + 1) = value * 2 * 2 ^ count := by
      rw [Nat.pow_succ, Nat.mul_comm (2 ^ count), Nat.mul_assoc]
    rw [Function.iterate_succ_apply', Function.iterate_succ_apply', doubled, ih, shift_xor_double]

/-- A byte string enters the register as one number. -/
theorem foldl_feed (bytes : List UInt8) (register : Nat) :
    bytes.foldl (feed polynomial) register =
      (shift polynomial)^[8 * bytes.length] (register ^^^ word bytes) := by
  induction bytes generalizing register with
  | nil => simp [word]
  | cons byte rest ih =>
    -- The later bytes stand above the first one, so they pass its eight shifts.
    rw [List.foldl_cons, ih, feed, ← iterate_shift_xor, ← Function.iterate_add_apply, word,
      List.length_cons, Nat.xor_assoc]
    rfl

/-- A number holds its lowest byte and the rest apart. -/
theorem byte_xor_inj {byte other : UInt8} {rest remainder : Nat}
    (same : byte.toNat ^^^ rest * 2 ^ 8 = other.toNat ^^^ remainder * 2 ^ 8) :
    byte = other ∧ rest = remainder := by
  -- The remainder by 256 gives the byte back, and the quotient the rest.
  have low : ∀ (byte : UInt8) (rest : Nat), (byte.toNat ^^^ rest * 2 ^ 8) % 2 ^ 8 = byte.toNat := by
    intro byte rest
    rw [Nat.xor_mod_two_pow, Nat.mul_mod_left, Nat.xor_zero, Nat.mod_eq_of_lt byte.toNat_lt]
  have high : ∀ (byte : UInt8) (rest : Nat), (byte.toNat ^^^ rest * 2 ^ 8) / 2 ^ 8 = rest := by
    intro byte rest
    rw [Nat.xor_div_two_pow, Nat.div_eq_of_lt byte.toNat_lt, Nat.zero_xor,
      Nat.mul_div_cancel _ (by decide)]
  constructor
  · apply UInt8.toNat_inj.mp
    rw [← low byte rest, same, low]
  · rw [← high byte rest, same, high]

/-- Byte strings of one length are told apart by their numbers. -/
theorem word_injective {bytes others : List UInt8} (sized : bytes.length = others.length)
    (same : word bytes = word others) : bytes = others := by
  -- By induction on the bytes: the lowest byte of the number is the first of the string.
  induction bytes generalizing others with
  | nil => exact (List.length_eq_zero_iff.mp sized.symm).symm
  | cons byte rest ih =>
    cases others with
    | nil => simp at sized
    | cons other remainder =>
      obtain ⟨first, rests⟩ := byte_xor_inj same
      rw [first, ih (Nat.succ.inj sized) rests]

/-- A byte string spells a number within its own bits. -/
theorem word_lt (bytes : List UInt8) : word bytes < 2 ^ (8 * bytes.length) := by
  -- By induction on the bytes: both the byte and the shifted rest are within the bits.
  induction bytes with
  | nil => decide
  | cons byte rest ih =>
    have low : byte.toNat < 2 ^ (8 * (rest.length + 1)) :=
      lt_of_lt_of_le byte.toNat_lt (Nat.pow_le_pow_right (by decide) (by omega))
    have high : word rest * 2 ^ 8 < 2 ^ (8 * (rest.length + 1)) := by
      rw [Nat.mul_add, Nat.pow_add]
      exact Nat.mul_lt_mul_of_pos_right ih (by decide)
    exact Nat.xor_lt_two_pow low high

/-- A shift stays within the register. -/
theorem shift_lt (fills : Fills polynomial width) {register : Nat} (fits : register < 2 ^ width) :
    shift polynomial register < 2 ^ width := by
  -- The moved register is below the bound, and so is the polynomial that may be added.
  obtain ⟨below, -, -, bounded⟩ := fills
  have moved : register >>> 1 < 2 ^ width := by
    rw [Nat.shiftRight_one]
    omega
  unfold shift
  split
  · exact Nat.xor_lt_two_pow moved bounded
  · exact moved

/-- A shift can be undone. -/
theorem shift_injective (fills : Fills polynomial width) {register other : Nat}
    (fits : register < 2 ^ width) (fitting : other < 2 ^ width)
    (same : shift polynomial register = shift polynomial other) : register = other := by
  obtain ⟨below, rfl, top, bounded⟩ := fills
  -- The top bit of the result is the bit that was shifted out.
  have shifted : ∀ register < 2 ^ (below + 1),
      shift polynomial register / 2 ^ below = register % 2 := by
    intro register fits
    have half : (register >>> 1) / 2 ^ below = 0 := by
      rw [Nat.shiftRight_one]
      apply Nat.div_eq_of_lt
      omega
    have leading : polynomial / 2 ^ below = 1 := by
      apply Nat.div_eq_of_lt_le
      · omega
      · rw [Nat.pow_succ] at bounded
        omega
    unfold shift
    split
    · rw [Nat.xor_div_two_pow, half, leading, Nat.zero_xor]
      omega
    · rw [half]
      omega
  have parity : register % 2 = other % 2 := by
    rw [← shifted register fits, same, shifted other fitting]
  have rest : register >>> 1 = other >>> 1 := by
    unfold shift at same
    rw [parity] at same
    split at same
    · exact Nat.xor_left_inj.mp same
    · exact same
  rw [Nat.shiftRight_one, Nat.shiftRight_one] at rest
  omega

/-- Any number of shifts stays within the register. -/
theorem iterate_shift_lt (fills : Fills polynomial width) (count : Nat) {register : Nat}
    (fits : register < 2 ^ width) : (shift polynomial)^[count] register < 2 ^ width := by
  -- On the number of shifts; one shift keeps the register inside its width.
  induction count with
  | zero => exact fits
  | succ count ih =>
    rw [Function.iterate_succ_apply']
    exact shift_lt fills ih

/-- Any number of shifts can be undone. -/
theorem iterate_shift_injective (fills : Fills polynomial width) (count : Nat)
    {register other : Nat} (fits : register < 2 ^ width) (fitting : other < 2 ^ width)
    (same : (shift polynomial)^[count] register = (shift polynomial)^[count] other) :
    register = other := by
  -- By induction on the shifts, the last of which is undone first.
  induction count with
  | zero => exact same
  | succ count ih =>
    rw [Function.iterate_succ_apply', Function.iterate_succ_apply'] at same
    exact ih (shift_injective fills (iterate_shift_lt fills count fits)
      (iterate_shift_lt fills count fitting) same)

/-- A byte is within a register of at least its size. -/
theorem xor_byte_lt (room : 8 ≤ width) {register : Nat} (fits : register < 2 ^ width)
    (byte : UInt8) : register ^^^ byte.toNat < 2 ^ width :=
  Nat.xor_lt_two_pow fits (lt_of_lt_of_le byte.toNat_lt (Nat.pow_le_pow_right (by decide) room))

/-- Bytes lead from a register to a register. -/
theorem foldl_feed_lt (fills : Fills polynomial width) (room : 8 ≤ width) (bytes : List UInt8)
    {register : Nat} (fits : register < 2 ^ width) :
    bytes.foldl (feed polynomial) register < 2 ^ width := by
  -- On the bytes; each one is folded into a register that has room for it.
  induction bytes generalizing register with
  | nil => exact fits
  | cons byte rest ih => exact ih (iterate_shift_lt fills 8 (xor_byte_lt room fits byte))

/-- The same bytes lead different registers to different ones. -/
theorem foldl_feed_injective (fills : Fills polynomial width) (room : 8 ≤ width)
    (bytes : List UInt8) {register other : Nat} (fits : register < 2 ^ width)
    (fitting : other < 2 ^ width)
    (same : bytes.foldl (feed polynomial) register = bytes.foldl (feed polynomial) other) :
    register = other := by
  -- By induction on the bytes: what is undone after a byte is its entry and eight shifts.
  induction bytes generalizing register other with
  | nil => exact same
  | cons byte rest ih =>
    have fed := ih (iterate_shift_lt fills 8 (xor_byte_lt room fits byte))
      (iterate_shift_lt fills 8 (xor_byte_lt room fitting byte)) same
    have entered := iterate_shift_injective fills 8 (xor_byte_lt room fits byte)
      (xor_byte_lt room fitting byte) fed
    exact Nat.xor_left_inj.mp entered

/-- Different bytes that fit into the register lead one register to different ones. -/
theorem bytes_eq_of_foldl_feed (fills : Fills polynomial width) {bytes others : List UInt8}
    (sized : bytes.length = others.length) (short : 8 * bytes.length ≤ width) {register : Nat}
    (fits : register < 2 ^ width)
    (same : bytes.foldl (feed polynomial) register = others.foldl (feed polynomial) register) :
    bytes = others := by
  -- Bytes that fit enter all at once as one number, and the shifts after it are undone.
  have within : ∀ bytes : List UInt8, 8 * bytes.length ≤ width →
      register ^^^ word bytes < 2 ^ width := by
    intro bytes short
    exact Nat.xor_lt_two_pow fits
      (lt_of_lt_of_le (word_lt bytes) (Nat.pow_le_pow_right (by decide) short))
  rw [foldl_feed, foldl_feed, ← sized] at same
  have words := iterate_shift_injective fills _ (within bytes short)
    (within others (sized ▸ short)) same
  exact word_injective sized (Nat.xor_right_inj.mp words)

/-- A burst no longer than the register changes the register that the whole string leads to. -/
theorem burst_changes (fills : Fills polynomial width) (room : 8 ≤ width)
    (front back : List UInt8) {bytes others : List UInt8} (sized : bytes.length = others.length)
    (short : 8 * bytes.length ≤ width) {register : Nat} (fits : register < 2 ^ width)
    (same : (front ++ bytes ++ back).foldl (feed polynomial) register =
      (front ++ others ++ back).foldl (feed polynomial) register) : bytes = others := by
  -- The bytes behind the burst carry a difference on, and those before it start from one register.
  simp only [List.foldl_append] at same
  have started := foldl_feed_lt fills room front fits
  exact bytes_eq_of_foldl_feed fills sized short started
    (foldl_feed_injective fills room back (foldl_feed_lt fills room bytes started)
      (foldl_feed_lt fills room others started) same)

end

end Foundation.Crc
