import Cislunar.Proofs.Runtime.Uuid
import Cislunar.Services.GroundApi

/-!
The identifiers that a vendor may put on a request.

The constructor of the standard library forgives prefixes, braces, hyphens anywhere and digits of any
script; printing what it read and comparing forgives none of them.
-/

namespace Cislunar

open Foundation

/-- Thirty-two digits in the groups of a UUID. -/
def groupDigits (digits : List Char) : List Char :=
  digits.take 8 ++ '-' :: ((digits.drop 8).take 4 ++ '-' :: ((digits.drop 12).take 4 ++
    '-' :: ((digits.drop 16).take 4 ++ '-' :: digits.drop 20)))

/-- `[0-9a-f]`. -/
def isLowerHex (char : Char) : Bool :=
  ('0' ≤ char ∧ char ≤ '9') ∨ ('a' ≤ char ∧ char ≤ 'f')

/-- Lower-case digits of a UUID of version 4 in canonical form. -/
def CanonicalForm (text : List Char) : Prop :=
  ∃ digits : List Char, text = groupDigits digits ∧ digits.length = 32 ∧
    (∀ char ∈ digits, isLowerHex char) ∧ digits[12]? = some '4' ∧
    ∃ variant ∈ ['8', '9', 'a', 'b'], digits[16]? = some variant

/-- Lower-case hexadecimal digits spell their values. -/
theorem isLowerHex_iff {char : Char} :
    isLowerHex char ↔ ∃ digit, digit < 16 ∧ char = lowerHexDigit digit := by
  -- The digit is the distance from the code point of zero, or from that of the letters.
  constructor
  · intro lower
    have range : (48 ≤ char.toNat ∧ char.toNat ≤ 57) ∨ (97 ≤ char.toNat ∧ char.toNat ≤ 102) := by
      simp only [isLowerHex, Char.le_def, UInt32.le_iff_toNat_le, decide_eq_true_eq] at lower
      exact lower
    have spelled : ∀ digit < 16, (lowerHexDigit digit).toNat =
        if digit < 10 then 48 + digit else 87 + digit := by decide
    refine ⟨if char.toNat < 97 then char.toNat - 48 else char.toNat - 87, ?_, ?_⟩
    · split <;> omega
    · apply Char.toNat_inj.mp
      rw [spelled _ (by split <;> omega)]
      split <;> split <;> omega
  · rintro ⟨digit, small, rfl⟩
    revert small digit
    decide

/-- A digit of a UUID, counted from the left. -/
theorem UUID.getElem?_digits (id : UUID) {index : Nat} (within : index < 32) :
    id.digits[index]? = some (lowerHexDigit (id.toNat / 16 ^ (31 - index) % 16)) := by
  -- The digits are a number in base sixteen, the highest first.
  have bound := id.isLt
  rw [id.digits_eq, Digits.getElem?_zeroPad_spell lowerHexAlphabet (by omega) within]

/-- One bit of a number is masked out by its power of two. -/
theorem and_two_pow_eq_zero {value : Nat} (bit : Nat) :
    value &&& 2 ^ bit = 0 ↔ value / 2 ^ bit % 2 = 0 := by
  -- The mask picks out one bit, and that bit is a remainder.
  rw [Nat.and_comm, Nat.two_pow_and, Nat.mul_eq_zero, Nat.testBit_eq_decide_div_mod_eq]
  simp

/-- The version and the variant of a UUID are digits of its text. -/
theorem UUID.version_eq_four_iff (id : UUID) : id.version = some 4 ↔
    id.digits[12]? = some '4' ∧ ∃ variant ∈ ['8', '9', 'a', 'b'], id.digits[16]? = some variant := by
  rw [id.getElem?_digits (by decide), id.getElem?_digits (by decide)]
  -- Bits 62 and 63 are the upper half of the seventeenth digit.
  have top : id.toNat &&& (0x8000 <<< 48) = 0 ↔ id.toNat / 2 ^ 63 % 2 = 0 := and_two_pow_eq_zero 63
  have next : id.toNat &&& (0x4000 <<< 48) = 0 ↔ id.toNat / 2 ^ 62 % 2 = 0 := and_two_pow_eq_zero 62
  have nibble : (id.toNat >>> 76) &&& 0xF = id.toNat / 16 ^ (31 - 12) % 16 := by
    rw [Nat.shiftRight_eq_div_pow]
    exact Nat.and_two_pow_sub_one_eq_mod _ 4
  have four : ∀ digit < 16, lowerHexDigit digit = '4' ↔ digit = 4 := by decide
  have variants : ∀ digit < 16,
      (∃ variant ∈ ['8', '9', 'a', 'b'], some (lowerHexDigit digit) = some variant) ↔
        8 ≤ digit ∧ digit < 12 := by
    simp only [List.mem_cons, List.not_mem_nil, or_false, exists_eq_or_imp, exists_eq_left,
      Option.some.injEq]
    decide
  rw [version, nibble, variants _ (Nat.mod_lt _ (by decide)), Option.some.injEq,
    four _ (Nat.mod_lt _ (by decide))]
  simp only [top, next]
  generalize id.toNat / 16 ^ (31 - 12) % 16 = versionDigit
  split
  · simp only [reduceCtorEq, false_iff]
    omega
  · split
    · simp only [Option.some.injEq]
      omega
    · simp only [reduceCtorEq, false_iff]
      omega

/-- Thirty-two digits are those of some UUID. -/
theorem exists_uuid_digits {digits : List Char} (filled : digits.length = 32)
    (lower : ∀ char ∈ digits, isLowerHex char) : ∃ id : UUID, id.digits = digits := by
  -- The digits spell a number of 128 bits, and a uuid is that number.
  obtain ⟨value, bounded, spelled⟩ := Digits.exists_zeroPad_spell lowerHexAlphabet filled
    fun char member => isLowerHex_iff.mp (lower char member)
  refine ⟨BitVec.ofNat 128 value, ?_⟩
  rw [UUID.digits_eq, BitVec.toNat_ofNat, Nat.mod_eq_of_lt (by omega), spelled]

/-- A text is canonical exactly when some UUID of version 4 is printed so. -/
theorem canonicalForm_iff {text : List Char} :
    CanonicalForm text ↔ ∃ id : UUID, id.toText = text ∧ id.version = some 4 := by
  -- The digits are those of the UUID; two of them fix its version and its variant.
  constructor
  · rintro ⟨digits, rfl, filled, lower, version, variant⟩
    obtain ⟨id, rfl⟩ := exists_uuid_digits filled lower
    exact ⟨id, rfl, id.version_eq_four_iff.mpr ⟨version, variant⟩⟩
  · rintro ⟨id, rfl, version⟩
    obtain ⟨version, variant⟩ := id.version_eq_four_iff.mp version
    exact ⟨id.digits, rfl, id.digits_length, id.forall_digits (by decide), version, variant⟩

/-- The check returns the UUID of version 4 that is printed as the text, if there is one. -/
theorem canonicalUuid4_eq_some_iff {text : String} {id : UUID} :
    canonicalUuid4 (some text) = some id ↔ id.str = text ∧ id.version = some 4 := by
  -- The code compares what it has parsed, printed again, with the text.
  rw [canonicalUuid4]
  simp only [Option.bind_eq_bind, Option.bind_some]
  constructor
  · intro returned
    obtain ⟨parsed, -, returned⟩ := Option.bind_eq_some_iff.mp returned
    split at returned
    · cases returned
    · next passed =>
      cases returned
      rw [not_or, not_not, not_not] at passed
      exact passed.symm
  · rintro ⟨rfl, version⟩
    rw [UUID.str, String.toList_ofList, parseUuid_toText, Option.bind_some, if_neg]
    simp [version, UUID.str]

/--
Request identifiers are accepted exactly in canonical form of version 4.

The UUID that is returned prints back to its text, so no two accepted texts share a key of the request
ledger; every other text, and a missing one, gives no identifier.
-/
theorem canonicalUuid4_exact :
    (∀ text : String, (canonicalUuid4 (some text)).isSome ↔ CanonicalForm text.toList) ∧
      (∀ (text : String) (id : UUID), canonicalUuid4 (some text) = some id → id.str = text) ∧
      (∀ (first second : String) (id id' : UUID), canonicalUuid4 (some first) = some id →
        canonicalUuid4 (some second) = some id' → first ≠ second → id ≠ id') ∧
      (∀ text : String, ¬CanonicalForm text.toList → canonicalUuid4 (some text) = none) ∧
      canonicalUuid4 none = none := by
  -- Everything follows from what is accepted and from what the accepted text prints to.
  have accepted : ∀ text : String, (canonicalUuid4 (some text)).isSome ↔
      CanonicalForm text.toList := by
    intro text
    rw [Option.isSome_iff_exists, canonicalForm_iff]
    refine exists_congr fun id => ?_
    rw [canonicalUuid4_eq_some_iff, UUID.str, ← String.toList_inj, String.toList_ofList]
  refine ⟨accepted, ?_, ?_, ?_, rfl⟩
  · intro text id returned
    exact (canonicalUuid4_eq_some_iff.mp returned).1
  · intro first second id id' left right different same
    rw [← (canonicalUuid4_eq_some_iff.mp left).1, ← (canonicalUuid4_eq_some_iff.mp right).1, same]
      at different
    exact different rfl
  · intro text other
    rw [← Option.not_isSome_iff_eq_none, accepted]
    exact other

/-- The identifier of the documentation is accepted; its upper-case form is not. -/
example : (canonicalUuid4 (some "5b0ef52e-1517-4b70-8e9d-f49ef2f72d8d")).isSome ∧
    canonicalUuid4 (some "5B0EF52E-1517-4B70-8E9D-F49EF2F72D8D") = none := by
  decide +kernel

end Cislunar
