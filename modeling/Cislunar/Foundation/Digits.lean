import Mathlib.Data.Nat.Digits.Lemmas

/-! Zero-padded positional numerals: the printed digits determine the number they print. -/

namespace Foundation.Digits

/-- Digits of a number, most significant first, spelled through an alphabet. -/
def spell (base : Nat) (alphabet : Nat → Char) (value : Nat) : List Char :=
  (Nat.digits base value).reverse.map alphabet

/-- Zeros put on the front until a numeral is at least `width` characters long. -/
def zeroPad (width : Nat) (numeral : List Char) : List Char :=
  List.replicate (width - numeral.length) '0' ++ numeral

/-- The number a numeral stands for, whatever zeros stand in front of it. -/
def readBack (base : Nat) (valueOf : Char → Nat) (numeral : List Char) : Nat :=
  Nat.ofDigits base (numeral.reverse.map valueOf)

/-- An alphabet spells digits that a reader can tell apart. -/
structure Alphabet (base : Nat) (alphabet : Nat → Char) (valueOf : Char → Nat) : Prop where
  /-- There are at least two digits. -/
  two_le : 2 ≤ base
  /-- Zero is spelled by the padding character. -/
  zero : alphabet 0 = '0'
  /-- Every digit is read back as itself. -/
  inverse : ∀ digit, digit < base → valueOf (alphabet digit) = digit

section
variable {base : Nat} {alphabet : Nat → Char} {valueOf : Char → Nat}

/-- A padded numeral is read back as the number it was printed from. -/
theorem readBack_zeroPad_spell (lawful : Alphabet base alphabet valueOf) (width value : Nat) :
    readBack base valueOf (zeroPad width (spell base alphabet value)) = value := by
  have zero : valueOf '0' = 0 := by
    rw [← lawful.zero]
    exact lawful.inverse 0 (by have := lawful.two_le; omega)
  -- Reading undoes the spelling digit by digit.
  have digits : (Nat.digits base value).map (valueOf ∘ alphabet) = Nat.digits base value := by
    conv_rhs => rw [← List.map_id (Nat.digits base value)]
    refine List.map_congr_left fun digit member => ?_
    exact lawful.inverse digit (Nat.digits_lt_base (by have := lawful.two_le; omega) member)
  -- The padding zeros are the high digits, so they add nothing to the sum.
  simp only [readBack, zeroPad, spell, List.reverse_append, List.reverse_replicate, List.map_append,
    List.map_replicate, ← List.map_reverse, List.reverse_reverse, List.map_map, zero, digits]
  rw [Nat.ofDigits_append, Nat.ofDigits_digits, Nat.ofDigits_replicate_zero, Nat.mul_zero,
    Nat.add_zero]

/-- Padded numerals of one width and base are equal only for equal numbers. -/
theorem zeroPad_spell_injective (lawful : Alphabet base alphabet valueOf) {width first second : Nat}
    (same : zeroPad width (spell base alphabet first) = zeroPad width (spell base alphabet second)) :
    first = second := by
  -- The text reads back as the number it was made from.
  rw [← readBack_zeroPad_spell lawful width first, same, readBack_zeroPad_spell lawful]

/-- Every character of a padded numeral spells a digit. -/
theorem mem_zeroPad_spell (lawful : Alphabet base alphabet valueOf) {width value : Nat} {char : Char}
    (member : char ∈ zeroPad width (spell base alphabet value)) :
    ∃ digit, digit < base ∧ char = alphabet digit := by
  have two := lawful.two_le
  -- A padding character is the digit zero, every other one is a digit of the value.
  rcases List.mem_append.mp member with padding | spelled
  · exact ⟨0, by omega, by rw [lawful.zero]; exact List.eq_of_mem_replicate padding⟩
  · obtain ⟨digit, among, rfl⟩ := List.mem_map.mp spelled
    exact ⟨digit, Nat.digits_lt_base (by omega) (List.mem_reverse.mp among), rfl⟩

/-- A number below a power of the base fills its field exactly. -/
theorem zeroPad_spell_length (lawful : Alphabet base alphabet valueOf) {width value : Nat}
    (bounded : value < base ^ width) :
    (zeroPad width (spell base alphabet value)).length = width := by
  -- A number below the power has at most that many digits, and zeros fill the field.
  have two := lawful.two_le
  have fits : (Nat.digits base value).length ≤ width :=
    (Nat.digits_length_le_iff (by omega) value).mpr bounded
  simp only [zeroPad, spell, List.length_append, List.length_replicate, List.length_map,
    List.length_reverse]
  omega

/-- A padded numeral ends with its last digit. -/
theorem zeroPad_spell_succ (lawful : Alphabet base alphabet valueOf) (width value : Nat) :
    zeroPad (width + 1) (spell base alphabet value) =
      zeroPad width (spell base alphabet (value / base)) ++ [alphabet (value % base)] := by
  have two := lawful.two_le
  rcases Nat.eq_zero_or_pos value with rfl | positive
  · -- Zero is spelled by its padding alone.
    simp [zeroPad, spell, lawful.zero, List.replicate_succ']
  · have digits : spell base alphabet value =
        spell base alphabet (value / base) ++ [alphabet (value % base)] := by
      rw [spell, Nat.digits_def' (by omega) positive]
      simp [spell]
    simp only [zeroPad, digits, List.length_append, List.length_singleton, List.append_assoc]
    congr 2
    omega

/-- The digits of a padded numeral are the quotients by the powers of the base. -/
theorem getElem?_zeroPad_spell (lawful : Alphabet base alphabet valueOf) {width value index : Nat}
    (bounded : value < base ^ width) (within : index < width) :
    (zeroPad width (spell base alphabet value))[index]? =
      some (alphabet (value / base ^ (width - 1 - index) % base)) := by
  have two := lawful.two_le
  induction width generalizing value with
  | zero => omega
  | succ width ih =>
    have quotient : value / base < base ^ width := by
      rw [Nat.div_lt_iff_lt_mul (by omega), ← Nat.pow_succ]
      exact bounded
    have filled := zeroPad_spell_length lawful quotient
    rw [zeroPad_spell_succ lawful, Nat.add_sub_cancel]
    rcases Nat.lt_or_eq_of_le (Nat.le_of_lt_succ within) with earlier | rfl
    · -- Every digit but the last belongs to the quotient.
      have exponent : width - index = width - 1 - index + 1 := by omega
      rw [List.getElem?_append_left (by omega), ih quotient earlier, Nat.div_div_eq_div_mul,
        exponent, Nat.pow_succ']
    · rw [List.getElem?_append_right (by omega), filled, Nat.sub_self, Nat.pow_zero, Nat.div_one]
      rfl

/-- Every row of digits is the padded numeral of some number. -/
theorem exists_zeroPad_spell (lawful : Alphabet base alphabet valueOf) {width : Nat}
    {numeral : List Char} (filled : numeral.length = width)
    (digits : ∀ char ∈ numeral, ∃ digit, digit < base ∧ char = alphabet digit) :
    ∃ value, value < base ^ width ∧ zeroPad width (spell base alphabet value) = numeral := by
  have two := lawful.two_le
  -- The last digit comes off first, because a numeral grows at its end.
  induction width generalizing numeral with
  | zero =>
    refine ⟨0, by simp, ?_⟩
    rw [List.length_eq_zero_iff.mp filled]
    simp [zeroPad, spell]
  | succ width ih =>
    have filledOnce : numeral ≠ [] := fun empty => by simp [empty] at filled
    obtain ⟨front, last, rfl⟩ := List.eq_nil_or_concat numeral |>.resolve_left filledOnce
    rw [List.concat_eq_append] at filled digits ⊢
    obtain ⟨high, bounded, spelled⟩ := ih (by simpa using filled) fun char member =>
      digits char (List.mem_append_left _ member)
    obtain ⟨low, small, rfl⟩ := digits last (by simp)
    have quotient : (high * base + low) / base = high := by
      rw [Nat.mul_comm, Nat.mul_add_div (by omega), Nat.div_eq_of_lt small, Nat.add_zero]
    have remainder : (high * base + low) % base = low := by
      rw [Nat.mul_comm, Nat.mul_add_mod, Nat.mod_eq_of_lt small]
    refine ⟨high * base + low, ?_, ?_⟩
    · calc high * base + low < high * base + base := Nat.add_lt_add_left small _
        _ = (high + 1) * base := by rw [Nat.add_mul, Nat.one_mul]
        _ ≤ base ^ width * base := Nat.mul_le_mul_right _ bounded
        _ = base ^ (width + 1) := (Nat.pow_succ ..).symm
    · rw [zeroPad_spell_succ lawful, quotient, remainder, spelled]

end

/-- Text before the first separator is determined by the whole text. -/
theorem append_separator_inj {separator : Char} {left right rest rest' : List Char}
    (leftFree : separator ∉ left) (rightFree : separator ∉ right)
    (same : left ++ separator :: rest = right ++ separator :: rest') :
    left = right ∧ rest = rest' := by
  -- Both heads are the longest run that avoids the separator.
  have run : ∀ head tail : List Char, separator ∉ head →
      (head ++ separator :: tail).takeWhile (· != separator) = head := by
    intro head tail free
    rw [List.takeWhile_append_of_pos]
    · simp
    · intro char member
      have : char ≠ separator := fun equal => free (equal ▸ member)
      simpa using this
  have heads : left = right := by rw [← run left rest leftFree, same, run right rest' rightFree]
  subst heads
  simpa using same

end Foundation.Digits
