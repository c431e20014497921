import Cislunar.Proofs.Runtime.Uuid

/-! A printed decimal numeral is read by `int` as the number it was printed from. -/

namespace Cislunar

open Foundation

/-- The characters of a decimal numeral. -/
def DecimalDigit (char : Char) : Prop :=
  ∃ digit, digit < 10 ∧ char = lowerHexDigit digit

/-- What holds of ten digits holds of every decimal digit. -/
theorem DecimalDigit.forall {char : Char} (spelled : DecimalDigit char) {P : Char → Prop}
    (each : ∀ digit, digit < 10 → P (lowerHexDigit digit)) : P char := by
  obtain ⟨digit, small, rfl⟩ := spelled
  exact each digit small

/-- One more decimal digit is read. -/
theorem readDecimalDigits_cons (total : Nat) (afterDigit : Bool) {char : Char}
    (spelled : DecimalDigit char) (rest : List Char) :
    readDecimalDigits total afterDigit (char :: rest) =
      readDecimalDigits (10 * total + hexDigitValue char) true rest := by
  -- Only the branch of a digit is left: the text is not empty and its head is no underscore.
  have plain : char ≠ '_' := spelled.forall (P := fun char => char ≠ '_') (by decide)
  have digit : ('0' ≤ char ∧ char ≤ '9') ∧ char.toNat - '0'.toNat = hexDigitValue char :=
    spelled.forall (P := fun char =>
      ('0' ≤ char ∧ char ≤ '9') ∧ char.toNat - '0'.toNat = hexDigitValue char) (by decide)
  rw [readDecimalDigits.eq_def]
  split
  · next same => cases same
  · next same => exact absurd (List.cons.inj same).1 plain
  · next head tail _ same =>
    obtain ⟨rfl, rfl⟩ := List.cons.inj same
    rw [if_pos digit.1, digit.2]

/-- The digits behind a number are read as its continuation. -/
theorem readDecimalDigits_readBack (total : Nat) {numeral : List Char}
    (digits : ∀ char ∈ numeral, DecimalDigit char) :
    readDecimalDigits total true numeral =
      some (10 ^ numeral.length * total + Digits.readBack 10 hexDigitValue numeral) := by
  induction numeral generalizing total with
  | nil => simp [readDecimalDigits, Digits.readBack]
  | cons char rest ih =>
    obtain ⟨spelled, others⟩ := List.forall_mem_cons.mp digits
    rw [readDecimalDigits_cons total true spelled, ih _ others]
    -- The new digit stands in front of the digits that are left.
    simp only [Digits.readBack, List.reverse_cons, List.map_append, List.map_cons, List.map_nil,
      Nat.ofDigits_append, Nat.ofDigits_singleton, List.length_map, List.length_reverse,
      List.length_cons, pow_succ]
    congr 1
    ring

/-- A numeral that is not too long is read as the number it spells. -/
theorem intBase10_digits {numeral : List Char} (filled : numeral ≠ [])
    (bounded : numeral.length ≤ 4300) (digits : ∀ char ∈ numeral, DecimalDigit char) :
    intBase10 numeral = some (Digits.readBack 10 hexDigitValue numeral : Int) := by
  have ascii : numeral.map transformToAscii = numeral := by
    conv_rhs => rw [← List.map_id numeral]
    exact List.map_congr_left fun char member => (digits char member).forall
      (P := fun char => transformToAscii char = id char) (by decide)
  have spaces : ∀ char ∈ numeral, asciiSpace char = false := fun char member =>
    (digits char member).forall (P := fun char => asciiSpace char = false) (by decide)
  have short : ¬4300 < (numeral.filter Char.isDigit).length := by
    have fewer := List.length_filter_le Char.isDigit numeral
    omega
  obtain ⟨first, rest, rfl⟩ := List.exists_cons_of_ne_nil filled
  obtain ⟨spelled, others⟩ := List.forall_mem_cons.mp digits
  have read : readDecimalDigits 0 false (first :: rest) =
      some (Digits.readBack 10 hexDigitValue (first :: rest)) := by
    rw [readDecimalDigits_cons 0 false spelled, ← readDecimalDigits_cons 0 true spelled,
      readDecimalDigits_readBack 0 digits, Nat.mul_zero, Nat.zero_add]
  rw [intBase10, readSigned, ascii, dropWhile_eq_self spaces, dropWhile_eq_self fun char member =>
    spaces char (List.mem_reverse.mp member), List.reverse_reverse]
  -- A digit is no sign.
  have signed : first ≠ '+' ∧ first ≠ '-' :=
    spelled.forall (P := fun char => char ≠ '+' ∧ char ≠ '-') (by decide)
  split
  · next same => exact absurd (List.cons.inj same).1 signed.1
  · next same => exact absurd (List.cons.inj same).1 signed.2
  · rw [if_neg short, read]
    rfl

/-- The characters of a printed natural number are digits, and there is one. -/
theorem formatDecimal_one {value : Int} (natural : 0 ≤ value) :
    formatDecimal 1 value ≠ [] ∧ ∀ char ∈ formatDecimal 1 value, DecimalDigit char := by
  -- Padding to one character leaves no empty text, and no sign is printed.
  rw [formatDecimal, formatInt, if_neg (by omega)]
  constructor
  · intro empty
    have length := congrArg List.length empty
    simp only [Digits.zeroPad, List.length_append, List.length_replicate, List.length_nil] at length
    omega
  · exact fun char member => Digits.mem_zeroPad_spell decimalAlphabet member

/-- `int(f"{value}")` is `value`. -/
theorem intBase10_formatDecimal {value : Int} (natural : 0 ≤ value)
    (bounded : (formatDecimal 1 value).length ≤ 4300) :
    intBase10 (formatDecimal 1 value) = some value := by
  -- The digits are read back; the bound is the limit on integer literals.
  obtain ⟨filled, digits⟩ := formatDecimal_one natural
  rw [intBase10_digits filled bounded digits, formatDecimal, formatInt, if_neg (by omega),
    Digits.readBack_zeroPad_spell decimalAlphabet, Int.natAbs_of_nonneg natural]

end Cislunar
