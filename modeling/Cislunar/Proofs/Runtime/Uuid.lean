import Cislunar.Proofs.Runtime.Json

/-! The canonical text of a UUID is parsed as the UUID. -/

namespace Cislunar

open Foundation

/-- The digits of a UUID. -/
def UUID.digits (id : UUID) : List Char := formatLowerHex 32 id.toNat

/-- A UUID is printed as thirty-two digits. -/
theorem UUID.digits_eq (id : UUID) :
    id.digits = Digits.zeroPad 32 (Digits.spell 16 lowerHexDigit id.toNat) := by
  -- The number is not negative, so it has no sign.
  rw [UUID.digits, formatLowerHex, formatInt, if_neg (by omega), Int.natAbs_natCast]

/-- Thirty-two digits suffice. -/
theorem UUID.digits_length (id : UUID) : id.digits.length = 32 := by
  -- 128 bits fit in 32 hexadecimal digits, so the padding fills them up.
  rw [id.digits_eq]
  apply Digits.zeroPad_spell_length lowerHexAlphabet
  have bound := id.isLt
  omega

/-- What every digit satisfies holds along the digits of a UUID. -/
theorem UUID.forall_digits (id : UUID) {P : Char → Prop}
    (each : ∀ digit < 16, P (lowerHexDigit digit)) : ∀ char ∈ id.digits, P char := by
  -- Every character is a digit of the number or a padding zero.
  intro char member
  rw [id.digits_eq] at member
  obtain ⟨digit, small, rfl⟩ := Digits.mem_zeroPad_spell lowerHexAlphabet member
  exact each digit small

/-- What every digit and the hyphen satisfy holds along the text of a UUID. -/
theorem UUID.forall_toText (id : UUID) {P : Char → Prop} (hyphen : P '-')
    (each : ∀ digit < 16, P (lowerHexDigit digit)) : ∀ char ∈ id.toText, P char := by
  -- The text is five parts of the digits with a hyphen between each two.
  have digits := id.forall_digits each
  intro char member
  rw [UUID.toText] at member
  simp only [List.mem_append, List.mem_cons] at member
  rcases member with part | rfl | part | rfl | part | rfl | part | rfl | part
  · exact digits char (List.mem_of_mem_take part)
  · exact hyphen
  · exact digits char (List.mem_of_mem_drop (List.mem_of_mem_take part))
  · exact hyphen
  · exact digits char (List.mem_of_mem_drop (List.mem_of_mem_take part))
  · exact hyphen
  · exact digits char (List.mem_of_mem_drop (List.mem_of_mem_take part))
  · exact hyphen
  · exact digits char (List.mem_of_mem_drop part)

/-- A text without the first character of a pattern has nothing to delete. -/
theorem deleteAll_eq_self {first : Char} (pattern : List Char) (fuel : Nat) {text : List Char}
    (absent : first ∉ text) : deleteAll (first :: pattern) fuel text = text := by
  -- By induction on the fuel: no position of the text starts the pattern.
  induction fuel generalizing text with
  | zero => rfl
  | succ fuel ih =>
    cases text with
    | nil => rfl
    | cons char rest =>
      have different : first ≠ char := fun same => absent (same ▸ List.mem_cons_self)
      have unmatched : (first :: pattern).isPrefixOf (char :: rest) = false := by
        simp [List.isPrefixOf, different]
      rw [deleteAll, unmatched, ih fun member => absent (List.mem_cons_of_mem _ member)]
      rfl

/-- Nothing is dropped where the condition fails throughout. -/
theorem dropWhile_eq_self {p : Char → Bool} {text : List Char} (never : ∀ char ∈ text, p char = false) :
    text.dropWhile p = text := by
  -- The first character stops the scan.
  cases text with
  | nil => rfl
  | cons char rest => rw [List.dropWhile_cons, never char List.mem_cons_self, if_neg (by simp)]

/-- Removing the hyphens leaves the digits. -/
theorem UUID.filter_toText (id : UUID) : id.toText.filter (· != '-') = id.digits := by
  -- The filter acts on each part, where it removes nothing, and the parts make up the digits.
  have digits : ∀ {part : List Char}, (∀ char ∈ part, char ∈ id.digits) →
      part.filter (· != '-') = part := by
    intro part subset
    apply List.filter_eq_self.mpr
    intro char member
    exact id.forall_digits (P := fun char => (char != '-') = true) (by decide) char
      (subset char member)
  have hyphen : ∀ rest : List Char, ('-' :: rest).filter (· != '-') = rest.filter (· != '-') :=
    fun _ => rfl
  have regroup : id.digits.take 8 ++ ((id.digits.drop 8).take 4 ++ ((id.digits.drop 12).take 4 ++
      ((id.digits.drop 16).take 4 ++ id.digits.drop 20))) = id.digits := by
    conv_rhs => rw [← List.take_append_drop 8 id.digits,
      ← List.take_append_drop 4 (id.digits.drop 8), List.drop_drop,
      ← List.take_append_drop 4 (id.digits.drop 12), List.drop_drop,
      ← List.take_append_drop 4 (id.digits.drop 16), List.drop_drop]
  show (id.digits.take 8 ++ '-' :: ((id.digits.drop 8).take 4 ++ '-' ::
    ((id.digits.drop 12).take 4 ++ '-' :: ((id.digits.drop 16).take 4 ++ '-' ::
      id.digits.drop 20)))).filter (· != '-') = id.digits
  simp only [List.filter_append, hyphen]
  rw [digits fun _ part => List.mem_of_mem_take part,
    digits fun _ part => List.mem_of_mem_drop (List.mem_of_mem_take part),
    digits fun _ part => List.mem_of_mem_drop (List.mem_of_mem_take part),
    digits fun _ part => List.mem_of_mem_drop (List.mem_of_mem_take part),
    digits fun _ part => List.mem_of_mem_drop part, regroup]

/-- One more digit is read. -/
theorem readHexDigits_cons (total : Nat) (afterDigit : Bool) {digit : Nat} (small : digit < 16)
    (rest : List Char) : readHexDigits total afterDigit (lowerHexDigit digit :: rest) =
      readHexDigits (16 * total + digit) true rest := by
  -- Only the branch of a digit is left: the head is no underscore.
  have plain : lowerHexDigit digit ≠ '_' := by
    revert small digit
    decide
  rw [readHexDigits.eq_def]
  split
  · next same => cases same
  · next same => exact absurd (List.cons.inj same).1 plain
  · next char tail _ same =>
    obtain ⟨rfl, rfl⟩ := List.cons.inj same
    rw [hexDigit?_lowerHexDigit small]

/-- A padded numeral is read as its number. -/
theorem readHexDigits_zeroPad (width : Nat) {value : Nat} (bounded : value < 16 ^ (width + 1))
    (rest : List Char) :
    readHexDigits 0 false (Digits.zeroPad (width + 1) (Digits.spell 16 lowerHexDigit value) ++ rest) =
      readHexDigits value true rest := by
  -- By induction on the width, splitting off the last digit.
  induction width generalizing value rest with
  | zero =>
    have last : value / 16 = 0 := by omega
    rw [Digits.zeroPad_spell_succ lowerHexAlphabet, last]
    show readHexDigits 0 false (lowerHexDigit (value % 16) :: rest) = _
    rw [readHexDigits_cons _ _ (Nat.mod_lt _ (by decide))]
    congr 1
    omega
  | succ width ih =>
    rw [Digits.zeroPad_spell_succ lowerHexAlphabet, List.append_assoc, List.singleton_append,
      ih (by rw [pow_succ] at bounded; omega), readHexDigits_cons _ _ (Nat.mod_lt _ (by decide))]
    congr 1
    omega

/-- A text of lower-case digits has no prefix and no separator. -/
theorem intBase16_digits (id : UUID) : intBase16 id.digits = some (id.toNat : Int) := by
  have ascii : id.digits.map transformToAscii = id.digits := by
    conv_rhs => rw [← List.map_id id.digits]
    exact List.map_congr_left (id.forall_digits (by decide))
  have spaces : ∀ char ∈ id.digits, asciiSpace char = false := id.forall_digits (by decide)
  have read : readHexDigits 0 false id.digits = some id.toNat := by
    have bound : id.toNat < 16 ^ (31 + 1) := by
      have bound := id.isLt
      omega
    have whole := readHexDigits_zeroPad 31 bound []
    rw [List.append_nil, ← id.digits_eq] at whole
    exact whole
  rw [intBase16, readSigned, ascii, dropWhile_eq_self spaces, dropWhile_eq_self fun char member =>
    spaces char (List.mem_reverse.mp member), List.reverse_reverse]
  -- The first two characters are digits.
  obtain ⟨first, second, rest, shape⟩ : ∃ first second rest, id.digits = first :: second :: rest := by
    have length := id.digits_length
    match id.digits, length with
    | first :: second :: rest, _ => exact ⟨first, second, rest, rfl⟩
  have unsigned : readHexUnsigned id.digits = some id.toNat := by
    rw [← read, shape]
    have prefixed : second ≠ 'x' ∧ second ≠ 'X' :=
      id.forall_digits (P := fun char => char ≠ 'x' ∧ char ≠ 'X') (by decide) second
        (by simp [shape])
    rw [readHexUnsigned.eq_def]
    split
    · next same => exact absurd (List.cons.inj (List.cons.inj same).2).1 prefixed.1
    · next same => exact absurd (List.cons.inj (List.cons.inj same).2).1 prefixed.2
    · next same => exact absurd (List.cons.inj (List.cons.inj same).2).1 prefixed.1
    · next same => exact absurd (List.cons.inj (List.cons.inj same).2).1 prefixed.2
    · rfl
  have signed : first ≠ '+' ∧ first ≠ '-' :=
    id.forall_digits (P := fun char => char ≠ '+' ∧ char ≠ '-') (by decide) first
      (by simp [shape])
  split
  · next same => exact absurd (List.cons.inj (shape.symm.trans same)).1 signed.1
  · next same => exact absurd (List.cons.inj (shape.symm.trans same)).1 signed.2
  · rw [unsigned]
    rfl

/-- `uuid.UUID(str(id))` is `id`. -/
theorem parseUuid_toText (id : UUID) : parseUuid id.toText = some id := by
  -- Neither prefix nor brace occurs in the text, so the digits alone are read as a number.
  have urn : 'u' ∉ id.toText := by
    intro member
    have other := id.forall_toText (P := fun char => char ≠ 'u') (by decide) (by decide) 'u' member
    exact other rfl
  have braces : ∀ char ∈ id.toText, (char.toNat == 0x7B || char.toNat == 0x7D) = false :=
    id.forall_toText (by decide) (by decide)
  have stripped : stripBraces id.toText = id.toText := by
    rw [stripBraces, dropWhile_eq_self braces, dropWhile_eq_self fun char member =>
      braces char (List.mem_reverse.mp member), List.reverse_reverse]
  rw [parseUuid, show "urn:".toList = 'u' :: ['r', 'n', ':'] by decide,
    show "uuid:".toList = 'u' :: ['u', 'i', 'd', ':'] by decide, deleteAll_eq_self _ _ urn,
    deleteAll_eq_self _ _ urn, stripped, id.filter_toText, if_neg (by simp [id.digits_length]),
    intBase16_digits]
  dsimp only
  rw [if_pos ⟨by omega, by exact_mod_cast id.isLt⟩, Int.toNat_natCast, BitVec.ofNat_toNat]
  simp

end Cislunar
