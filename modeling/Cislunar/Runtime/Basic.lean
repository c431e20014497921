import Cislunar.Foundation.Digits

/-! Byte strings, clock readings and integer formatting as the Python runtime defines them. -/

namespace Cislunar

/-- Contents of a request body or of a wire frame. -/
abbrev Bytes := List UInt8

/-- A Coordinated Universal Time instant in exact microseconds since 1970-01-01T00:00Z. -/
abbrev Time := Int

/-- A `datetime` value: its wall-clock reading and its offset from UTC, both in microseconds. -/
structure Datetime where
  /-- Wall-clock microseconds since 1970-01-01T00:00 in the value's own zone. -/
  wallUs : Int
  /-- `utcoffset()`, absent for a naive value. -/
  utcoffset : Option Int
  deriving DecidableEq, Repr

/-- A timezone-aware reading in Coordinated Universal Time. -/
def Datetime.utc (time : Time) : Datetime :=
  { wallUs := time, utcoffset := some 0 }

/-- `timedelta(seconds=seconds)` in microseconds. -/
def secondsUs (seconds : Int) : Int :=
  seconds * 1000000

/-- Upper-case hexadecimal digit characters. -/
def upperHexDigit (digit : Nat) : Char :=
  "0123456789ABCDEF".toList.getD digit '0'

/-- Lower-case hexadecimal digit characters, which also spell decimal digits. -/
def lowerHexDigit (digit : Nat) : Char :=
  "0123456789abcdef".toList.getD digit '0'

/-- The value of a hexadecimal digit in either case. -/
def hexDigitValue (char : Char) : Nat :=
  if char.toNat < 'A'.toNat then char.toNat - '0'.toNat
  else if char.toNat < 'a'.toNat then char.toNat - 'A'.toNat + 10
  else char.toNat - 'a'.toNat + 10

/-- `format(value, "0{width}...")`: the sign stands first and counts towards the width. -/
def formatInt (base : Nat) (alphabet : Nat → Char) (width : Nat) (value : Int) : List Char :=
  if value < 0 then
    '-' :: Foundation.Digits.zeroPad (width - 1)
      (Foundation.Digits.spell base alphabet value.natAbs)
  else Foundation.Digits.zeroPad width (Foundation.Digits.spell base alphabet value.natAbs)

/-- `f"{value:0{width}d}"`. -/
def formatDecimal (width : Nat) (value : Int) : List Char :=
  formatInt 10 lowerHexDigit width value

/-- `f"{value:0{width}X}"`. -/
def formatUpperHex (width : Nat) (value : Int) : List Char :=
  formatInt 16 upperHexDigit width value

/-- `f"{value:0{width}x}"`. -/
def formatLowerHex (width : Nat) (value : Int) : List Char :=
  formatInt 16 lowerHexDigit width value

/-- Decimal digits are told apart by their values. -/
theorem decimalAlphabet : Foundation.Digits.Alphabet 10 lowerHexDigit hexDigitValue :=
  ⟨by decide, by decide, by decide⟩

/-- Upper-case hexadecimal digits are told apart by their values. -/
theorem upperHexAlphabet : Foundation.Digits.Alphabet 16 upperHexDigit hexDigitValue :=
  ⟨by decide, by decide, by decide⟩

/-- A printed decimal field of a natural number contains no hyphen. -/
theorem hyphen_not_mem_formatDecimal {width : Nat} {value : Int} (natural : 0 ≤ value) :
    '-' ∉ formatDecimal width value := by
  -- Every character is one of ten digits.
  intro member
  rw [formatDecimal, formatInt, if_neg (by omega)] at member
  obtain ⟨digit, small, spelled⟩ := Foundation.Digits.mem_zeroPad_spell decimalAlphabet member
  revert small spelled digit
  decide

/-- A printed hexadecimal field of a natural number contains no hyphen. -/
theorem hyphen_not_mem_formatUpperHex {width : Nat} {value : Int} (natural : 0 ≤ value) :
    '-' ∉ formatUpperHex width value := by
  -- Every character is one of sixteen digits.
  intro member
  rw [formatUpperHex, formatInt, if_neg (by omega)] at member
  obtain ⟨digit, small, spelled⟩ := Foundation.Digits.mem_zeroPad_spell upperHexAlphabet member
  revert small spelled digit
  decide

/-- Natural numbers printed in one decimal width are told apart by their text. -/
theorem formatDecimal_injective {width : Nat} {first second : Int} (left : 0 ≤ first)
    (right : 0 ≤ second) (same : formatDecimal width first = formatDecimal width second) :
    first = second := by
  -- Neither number has a sign, and padded digits determine the number.
  rw [formatDecimal, formatDecimal, formatInt, formatInt, if_neg (by omega), if_neg (by omega)]
    at same
  have equal := Foundation.Digits.zeroPad_spell_injective decimalAlphabet same
  omega

/-- Natural numbers printed in one hexadecimal width are told apart by their text. -/
theorem formatUpperHex_injective {width : Nat} {first second : Int} (left : 0 ≤ first)
    (right : 0 ≤ second) (same : formatUpperHex width first = formatUpperHex width second) :
    first = second := by
  -- Neither number has a sign, and padded digits determine the number.
  rw [formatUpperHex, formatUpperHex, formatInt, formatInt, if_neg (by omega), if_neg (by omega)]
    at same
  have equal := Foundation.Digits.zeroPad_spell_injective upperHexAlphabet same
  omega

end Cislunar
