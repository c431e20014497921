import Cislunar.Proofs.Services.Identifiers

/-!
The two expressions for packet identifiers, over the whole Unicode alphabet.

Both take every decimal digit where the formatter prints ASCII digits only, so they accept texts that
no packet has; with ASCII digits they accept exactly what the formatter prints.
-/

namespace Cislunar

open Foundation

/-- A text has the shape of an identifier, with decimal digits of any script. -/
structure IdentifierShape (text : List Char) (tens ones : Char) (boot sequence : List Char) :
    Prop where
  spelled : text =
    "TLM-P".toList ++ tens :: ones :: '-' :: 'B' :: (boot ++ '-' :: 'S' :: sequence)
  tensDecimal : (unicodeDecimal tens).isSome
  onesDecimal : (unicodeDecimal ones).isSome
  bootDigits : boot.length = 8 ∧ ∀ char ∈ boot, isUpperHex char
  sequenceDigits : sequence.length = 8 ∧ ∀ char ∈ sequence, isUpperHex char

/-- Both expressions accept exactly the texts of this shape. -/
theorem fullmatch_messageIdPattern_iff {text : List Char} :
    fullmatch messageIdPattern text = true ↔
      ∃ tens ones boot sequence, IdentifierShape text tens ones boot sequence := by
  -- Both directions exchange the pieces of the expression for the fields of the shape.
  rw [messageIdPattern]
  simp only [fullmatch_cons, fullmatch_nil, take_literal, take_textEnd, take_repeated]
  constructor
  · rintro ⟨_, rfl, _, ⟨pair, rfl, two, decimals⟩, _, rfl, _, ⟨boot, rfl, bootLength, bootDigits⟩,
      _, rfl, _, ⟨sequence, rfl, sequenceLength, sequenceDigits⟩, _, ⟨rfl, -⟩, -⟩
    obtain ⟨tens, ones, rfl⟩ := List.length_eq_two.mp two
    refine ⟨tens, ones, boot, sequence, ?_, decimals tens (by simp), decimals ones (by simp),
      ⟨bootLength, bootDigits⟩, ⟨sequenceLength, sequenceDigits⟩⟩
    rw [List.append_nil]
    rfl
  · rintro ⟨tens, ones, boot, sequence, shape⟩
    refine ⟨_, shape.spelled, '-' :: 'B' :: (boot ++ '-' :: 'S' :: sequence),
      ⟨[tens, ones], rfl, rfl, ?_⟩, _, rfl, _, ⟨boot, rfl, shape.bootDigits⟩, _, rfl, [],
      ⟨sequence, (List.append_nil _).symm, shape.sequenceDigits⟩, [], ⟨rfl, rfl⟩, rfl⟩
    intro char member
    rcases List.mem_pair.mp member with rfl | rfl
    · exact shape.tensDecimal
    · exact shape.onesDecimal

/-- The code points of upper-case hexadecimal digits. -/
theorem isUpperHex_range {char : Char} (upper : isUpperHex char) :
    (48 ≤ char.toNat ∧ char.toNat ≤ 57) ∨ (65 ≤ char.toNat ∧ char.toNat ≤ 70) := by
  -- The comparison of characters is one of their numbers.
  simp only [isUpperHex, Char.le_def, UInt32.le_iff_toNat_le, decide_eq_true_eq] at upper
  exact upper

/-- No digit of an identifier is a space. -/
theorem unicodeSpace_of_isUpperHex {char : Char} (upper : isUpperHex char) :
    unicodeSpace char = false := by
  -- The digits and the letters A to F lie apart from every space character.
  have range := isUpperHex_range upper
  simp only [unicodeSpace, List.contains_eq_mem, List.mem_cons, List.not_mem_nil, or_false,
    Bool.or_eq_false_iff, Bool.and_eq_false_iff, decide_eq_false_iff_not]
  omega

/-- The queue complains about no text that matches its expression. -/
theorem packetIdComplaint_eq_none {text : String} (matched : matchesPacketId text = true) :
    packetIdComplaint text = none := by
  -- The complaints are an empty text, space at either end, a length and the expression. The shape
  -- has neither a space nor another length.
  have matchedToo := matched
  rw [← fullmatch_messageIdPattern] at matchedToo
  obtain ⟨tens, ones, boot, sequence, shape⟩ := fullmatch_messageIdPattern_iff.mp matchedToo
  have filled : sequence ≠ [] := fun empty => by simpa [empty] using shape.sequenceDigits.1
  have final := shape.sequenceDigits.2 _ (List.getLast_mem filled)
  have last : text.toList.getLast?.any unicodeSpace = false := by
    rw [shape.spelled]
    simp only [List.getLast?_append, List.getLast?_cons, List.getLast?_eq_some_getLast filled]
    simpa using unicodeSpace_of_isUpperHex final
  have length : text.toList.length = 27 := by
    rw [shape.spelled]
    simp [shape.bootDigits.1, shape.sequenceDigits.1]
  have first : text.toList.head?.any unicodeSpace = false := by
    rw [shape.spelled]
    have upper : unicodeSpace 'T' = false := by decide
    simpa using upper
  rw [packetIdComplaint, if_neg, if_neg, if_neg]
  · simp [matched]
  · rw [length]
    decide
  · rw [first, last]
    simp [← List.length_eq_zero_iff, length]

/-- A text that `QueueMessage` takes as packet identifier, with some job identifier. -/
def QueueAccepts (text : String) : Prop :=
  ∃ jobText message, QueueMessage.ofTexts jobText text.toList = .ok message

/-- The queue accepts what the operator's paths accept. -/
theorem queueAccepts_iff {text : String} :
    QueueAccepts text ↔ fullmatch messageIdPattern text.toList = true := by
  -- The constructor checks the expression last, after its checks of the job.
  rw [fullmatch_messageIdPattern]
  constructor
  · rintro ⟨jobText, message, accepted⟩
    have named : message.packetId = text := by
      unfold QueueMessage.ofTexts at accepted
      split at accepted
      · cases accepted
      · split at accepted
        · cases accepted
        · split at accepted
          · cases accepted
          · split at accepted
            · cases accepted
            · rw [String.ofList_toList, QueueMessage.new] at accepted
              split at accepted
              · cases accepted
              · cases accepted
                rfl
    rw [← named]
    exact matchesPacketId_of_wellFormed message.wellFormed
  · intro matched
    have job : UUID := 0
    refine ⟨job.toText, _, QueueMessage.ofTexts_eq_ok job (packetIdComplaint_eq_none matched)⟩

/-- A text that `format_packet_id` prints. -/
def IsVersionOne (text : String) : Prop :=
  ∃ payloadId bootId sequenceNumber, (0 ≤ payloadId ∧ payloadId ≤ 99) ∧
    (0 ≤ bootId ∧ bootId ≤ uint32Max) ∧ (0 ≤ sequenceNumber ∧ sequenceNumber ≤ uint32Max) ∧
    formatPacketId payloadId bootId sequenceNumber = .ok text

/-- An identifier's shape around a payload digit that is not an ASCII digit. -/
def ForeignPayload (text : String) : Prop :=
  ∃ tens ones boot sequence, IdentifierShape text.toList tens ones boot sequence ∧
    ¬(tens.isDigit ∧ ones.isDigit)

/-- ASCII digits spell decimal digits. -/
theorem isDigit_iff {char : Char} :
    char.isDigit ↔ ∃ digit, digit < 10 ∧ char = lowerHexDigit digit := by
  -- The digit is the distance from the code point of zero.
  constructor
  · intro ascii
    have range : 48 ≤ char.toNat ∧ char.toNat ≤ 57 := by
      simpa [Char.isDigit, UInt32.le_iff_toNat_le] using ascii
    have spelled : ∀ digit < 10, (lowerHexDigit digit).toNat = 48 + digit := by decide
    refine ⟨char.toNat - 48, by omega, ?_⟩
    apply Char.toNat_inj.mp
    rw [spelled _ (by omega)]
    omega
  · rintro ⟨digit, small, rfl⟩
    revert small digit
    decide

/-- Upper-case hexadecimal digits spell their values. -/
theorem isUpperHex_iff {char : Char} :
    isUpperHex char ↔ ∃ digit, digit < 16 ∧ char = upperHexDigit digit := by
  -- The digit is the distance from the code point of zero, or from that of the letters.
  constructor
  · intro upper
    have range := isUpperHex_range upper
    have spelled : ∀ digit < 16, (upperHexDigit digit).toNat =
        if digit < 10 then 48 + digit else 55 + digit := by decide
    refine ⟨if char.toNat < 65 then char.toNat - 48 else char.toNat - 55, ?_, ?_⟩
    · split <;> omega
    · apply Char.toNat_inj.mp
      rw [spelled _ (by split <;> omega)]
      split <;> split <;> omega
  · rintro ⟨digit, small, rfl⟩
    revert small digit
    decide

/-- Eight upper-case digits are printed for some unsigned 32-bit number. -/
theorem exists_formatUpperHex {digits : List Char}
    (upper : digits.length = 8 ∧ ∀ char ∈ digits, isUpperHex char) :
    ∃ value, (0 ≤ value ∧ value ≤ uint32Max) ∧ formatUpperHex 8 value = digits := by
  -- Eight digits spell a number of 32 bits, and formatting it spells them again.
  obtain ⟨value, bounded, spelled⟩ := Digits.exists_zeroPad_spell upperHexAlphabet upper.1
    fun char member => isUpperHex_iff.mp (upper.2 char member)
  refine ⟨value, by rw [uint32Max]; omega, ?_⟩
  rw [formatUpperHex, formatInt, if_neg (by omega), Int.natAbs_natCast, spelled]

/-- Two ASCII digits are printed for some number below a hundred. -/
theorem exists_formatDecimal {tens ones : Char} (ascii : tens.isDigit ∧ ones.isDigit) :
    ∃ value, (0 ≤ value ∧ value ≤ 99) ∧ formatDecimal 2 value = [tens, ones] := by
  -- The digits are values, so they spell a number.
  have digits : ∀ char ∈ [tens, ones], ∃ digit, digit < 10 ∧ char = lowerHexDigit digit := by
    intro char member
    rcases List.mem_pair.mp member with rfl | rfl
    · exact isDigit_iff.mp ascii.1
    · exact isDigit_iff.mp ascii.2
  have two : [tens, ones].length = 2 := rfl
  obtain ⟨value, bounded, spelled⟩ := Digits.exists_zeroPad_spell decimalAlphabet two digits
  refine ⟨value, by omega, ?_⟩
  rw [formatDecimal, formatInt, if_neg (by omega), Int.natAbs_natCast, spelled]

/-- Numbers in range have the identifier that their digits make up. -/
theorem isVersionOne_iff {text : String} : IsVersionOne text ↔
    ∃ payloadId bootId sequenceNumber, (0 ≤ payloadId ∧ payloadId ≤ 99) ∧
      (0 ≤ bootId ∧ bootId ≤ uint32Max) ∧ (0 ≤ sequenceNumber ∧ sequenceNumber ≤ uint32Max) ∧
      text.toList = "TLM-P".toList ++ (formatDecimal 2 payloadId ++ '-' :: 'B' ::
        (formatUpperHex 8 bootId ++ '-' :: 'S' :: formatUpperHex 8 sequenceNumber)) := by
  -- The formatter checks the three ranges and prints.
  unfold IsVersionOne
  refine exists_congr fun payloadId => exists_congr fun bootId => exists_congr fun sequence =>
    and_congr_right fun payload => and_congr_right fun boot => and_congr_right fun number => ?_
  rw [formatPacketId, require, if_pos payload, require, if_pos boot, require, if_pos number]
  show Except.ok (packetIdText payloadId bootId sequence) = Except.ok text ↔ _
  rw [Except.ok.injEq, packetIdText_eq, eq_comm, ← String.toList_inj, String.toList_ofList]

/-- A text of the shape is printed for some numbers exactly when its payload digits are ASCII. -/
theorem IdentifierShape.isVersionOne_iff {text : String} {tens ones : Char}
    {boot sequence : List Char} (shape : IdentifierShape text.toList tens ones boot sequence) :
    IsVersionOne text ↔ tens.isDigit ∧ ones.isDigit := by
  -- The fields have fixed widths, so the digits of the payload are the printed ones; the other
  -- fields are printed for some number anyway.
  rw [Cislunar.isVersionOne_iff]
  constructor
  · rintro ⟨payloadId, bootId, sequenceNumber, payload, -, -, spelled⟩
    rw [shape.spelled] at spelled
    have printed : formatDecimal 2 payloadId = Digits.zeroPad 2
        (Digits.spell 10 lowerHexDigit payloadId.natAbs) := by
      rw [formatDecimal, formatInt, if_neg (by omega)]
    have width : (formatDecimal 2 payloadId).length = 2 := by
      rw [printed]
      exact Digits.zeroPad_spell_length decimalAlphabet (by omega)
    have fields : [tens, ones] ++ '-' :: 'B' :: (boot ++ '-' :: 'S' :: sequence) =
        formatDecimal 2 payloadId ++ _ := List.append_cancel_left spelled
    have pair : [tens, ones] = formatDecimal 2 payloadId :=
      (List.append_inj fields width.symm).1
    have ascii : ∀ char ∈ [tens, ones], char.isDigit := by
      intro char member
      rw [pair, printed] at member
      exact isDigit_iff.mpr (Digits.mem_zeroPad_spell decimalAlphabet member)
    exact ⟨ascii tens (by simp), ascii ones (by simp)⟩
  · intro ascii
    obtain ⟨payloadId, payload, payloadText⟩ := exists_formatDecimal ascii
    obtain ⟨bootId, bootRange, bootText⟩ := exists_formatUpperHex shape.bootDigits
    obtain ⟨sequenceNumber, range, sequenceText⟩ := exists_formatUpperHex shape.sequenceDigits
    refine ⟨payloadId, bootId, sequenceNumber, payload, bootRange, range, ?_⟩
    rw [payloadText, bootText, sequenceText, shape.spelled]
    rfl

/--
The expressions accept nothing but version 1 identifiers, except around foreign digits.

A text is accepted by the queue or by the operator's paths although no packet has it as identifier
exactly when it has the shape of one and a payload digit of another script.
-/
theorem accepted_isVersionOne_iff (text : String) :
    (QueueAccepts text ∨ fullmatch messageIdPattern text.toList = true → IsVersionOne text) ↔
      ¬ForeignPayload text := by
  -- Both expressions accept the shape, and the shape is printed for ASCII digits.
  rw [queueAccepts_iff, or_self, fullmatch_messageIdPattern_iff]
  constructor
  · rintro printed ⟨tens, ones, boot, sequence, shape, foreign⟩
    exact foreign (shape.isVersionOne_iff.mp (printed ⟨tens, ones, boot, sequence, shape⟩))
  · rintro ascii ⟨tens, ones, boot, sequence, shape⟩
    by_contra other
    exact ascii ⟨tens, ones, boot, sequence, shape, fun digits =>
      other (shape.isVersionOne_iff.mpr digits)⟩

/-- Arabic-Indic payload digits are accepted in both places and printed by no packet. -/
theorem arabic_identifier_accepted :
    QueueAccepts "TLM-P٠١-B00000001-S00000000" ∧
      fullmatch messageIdPattern "TLM-P٠١-B00000001-S00000000".toList = true ∧
      ¬IsVersionOne "TLM-P٠١-B00000001-S00000000" := by
  -- The text has the shape, and its payload digits are not ASCII.
  have matched : fullmatch messageIdPattern "TLM-P٠١-B00000001-S00000000".toList = true := by
    decide
  have shape : IdentifierShape "TLM-P٠١-B00000001-S00000000".toList '٠' '١' "00000001".toList
      "00000000".toList := by
    refine ⟨by decide, by decide, by decide, ⟨by decide, ?_⟩, by decide, ?_⟩
    · exact List.all_eq_true.mp (by decide)
    · exact List.all_eq_true.mp (by decide)
  refine ⟨queueAccepts_iff.mpr matched, matched, fun printed => ?_⟩
  have ascii := shape.isVersionOne_iff.mp printed
  exact absurd ascii (by decide)

end Cislunar
