import Cislunar.Telemetry.Queue
import Cislunar.Telemetry.Records

/-! Packet identifiers determine the source key of their packet, and the queue takes all of them. -/

namespace Cislunar

open Foundation

/-- The fields of an identifier stand between its hyphens. -/
theorem packetIdText_eq (payloadId bootId sequenceNumber : Int) :
    packetIdText payloadId bootId sequenceNumber =
      String.ofList ("TLM-P".toList ++ (formatDecimal 2 payloadId ++ '-' :: 'B' ::
        (formatUpperHex 8 bootId ++ '-' :: 'S' :: formatUpperHex 8 sequenceNumber))) := by
  -- The pieces of the text are regrouped to the right.
  unfold packetIdText
  have shape : ∀ payload boot sequence : List Char,
      "TLM-P".toList ++ payload ++ "-B".toList ++ boot ++ "-S".toList ++ sequence =
        "TLM-P".toList ++ (payload ++ '-' :: 'B' :: (boot ++ '-' :: 'S' :: sequence)) := by
    intro payload boot sequence
    rw [show "-B".toList = ['-', 'B'] by decide, show "-S".toList = ['-', 'S'] by decide]
    simp only [List.append_assoc, List.cons_append, List.nil_append]
  exact congrArg String.ofList (shape _ _ _)

/-- The text of an identifier determines its three numbers. -/
theorem packetIdText_injective {payload boot sequence payload' boot' sequence' : Int}
    (naturals : 0 ≤ payload ∧ 0 ≤ boot ∧ 0 ≤ sequence)
    (naturals' : 0 ≤ payload' ∧ 0 ≤ boot' ∧ 0 ≤ sequence')
    (same : packetIdText payload boot sequence = packetIdText payload' boot' sequence') :
    payload = payload' ∧ boot = boot' ∧ sequence = sequence' := by
  -- No field contains a hyphen, so the hyphens cut both texts at the same places.
  simp only [packetIdText_eq] at same
  have labelled := List.append_cancel_left (String.ofList_inj.mp same)
  obtain ⟨payloads, rest⟩ := Digits.append_separator_inj
    (hyphen_not_mem_formatDecimal naturals.1) (hyphen_not_mem_formatDecimal naturals'.1) labelled
  obtain ⟨boots, rest⟩ := Digits.append_separator_inj
    (hyphen_not_mem_formatUpperHex naturals.2.1) (hyphen_not_mem_formatUpperHex naturals'.2.1)
    (List.cons.inj rest).2
  exact ⟨formatDecimal_injective naturals.1 naturals'.1 payloads,
    formatUpperHex_injective naturals.2.1 naturals'.2.1 boots,
    formatUpperHex_injective naturals.2.2 naturals'.2.2 (List.cons.inj rest).2⟩

/-- Values with one identifier have one source key. -/
theorem sourceKey_of_packetId {first second : DecodedTelemetryValues}
    (left : 0 < first.payloadId ∧ 0 < first.bootId ∧ 0 ≤ first.sequenceNumber)
    (right : 0 < second.payloadId ∧ 0 < second.bootId ∧ 0 ≤ second.sequenceNumber)
    (same : first.packetId = second.packetId) : first.sourceKey = second.sourceKey := by
  -- The text of the identifier determines its three numbers.
  obtain ⟨payload, boot, sequence⟩ := packetIdText_injective
    ⟨left.1.le, left.2.1.le, left.2.2⟩ ⟨right.1.le, right.2.1.le, right.2.2⟩ same
  simp only [DecodedTelemetryValues.sourceKey, payload, boot, sequence]

/-- A 32-bit number fills eight digits. -/
theorem formatUpperHex_digits {value : Int} (range : 0 ≤ value ∧ value ≤ uint32Max) :
    (formatUpperHex 8 value).length = 8 ∧ ∀ char ∈ formatUpperHex 8 value,
      (('0' ≤ char ∧ char ≤ '9') ∨ ('A' ≤ char ∧ char ≤ 'F')) ∧ unicodeSpace char = false := by
  -- Padding fills up to eight digits, and the bound leaves no ninth one.
  rw [uint32Max] at range
  rw [formatUpperHex, formatInt, if_neg (by omega)]
  refine ⟨Digits.zeroPad_spell_length upperHexAlphabet (by omega), fun char member => ?_⟩
  obtain ⟨digit, small, rfl⟩ := Digits.mem_zeroPad_spell upperHexAlphabet member
  clear member
  revert small digit
  decide

/-- Eight upper-case digits at the front of a text are taken off it. -/
theorem dropUpperHex8_formatUpperHex {value : Int} (range : 0 ≤ value ∧ value ≤ uint32Max)
    (rest : List Char) : dropUpperHex8 (formatUpperHex 8 value ++ rest) = some rest := by
  -- A number of 32 bits is formatted with exactly eight upper case digits.
  obtain ⟨length, digits⟩ := formatUpperHex_digits range
  rw [dropUpperHex8, List.take_left' length, List.drop_left' length]
  exact if_pos ⟨length, List.all_eq_true.mpr fun char member =>
    decide_eq_true (digits char member).1⟩

/-- A number below a hundred fills two digits. -/
theorem formatDecimal_digits {value : Int} (range : 0 ≤ value ∧ value ≤ 99) :
    ∃ tens ones, formatDecimal 2 value = [tens, ones] ∧ (unicodeDecimal tens).isSome ∧
      (unicodeDecimal ones).isSome := by
  -- Padding fills up to two digits, and the bound leaves no third one.
  have length : (formatDecimal 2 value).length = 2 := by
    rw [formatDecimal, formatInt, if_neg (by omega)]
    exact Digits.zeroPad_spell_length decimalAlphabet (by omega)
  have digits : ∀ char ∈ formatDecimal 2 value, (unicodeDecimal char).isSome := by
    rw [formatDecimal, formatInt, if_neg (by omega)]
    intro char member
    obtain ⟨digit, small, rfl⟩ := Digits.mem_zeroPad_spell decimalAlphabet member
    clear member
    revert small digit
    decide
  obtain ⟨tens, ones, pair⟩ := List.length_eq_two.mp length
  rw [pair] at digits ⊢
  exact ⟨tens, ones, rfl, digits tens (by simp), digits ones (by simp)⟩

section
variable {payloadId bootId sequenceNumber : Int} (payload : 0 ≤ payloadId ∧ payloadId ≤ 99)
  (boot : 0 ≤ bootId ∧ bootId ≤ uint32Max)
  (sequence : 0 ≤ sequenceNumber ∧ sequenceNumber ≤ uint32Max)
include payload

/-- The characters of the identifier of a packet of a two-digit payload. -/
theorem packetIdText_toList :
    ∃ tens ones, (unicodeDecimal tens).isSome ∧ (unicodeDecimal ones).isSome ∧
      (packetIdText payloadId bootId sequenceNumber).toList =
        'T' :: 'L' :: 'M' :: '-' :: 'P' :: tens :: ones :: '-' :: 'B' ::
          (formatUpperHex 8 bootId ++ '-' :: 'S' :: formatUpperHex 8 sequenceNumber) := by
  -- Only the two digits of the payload are named; the rest keeps its form.
  obtain ⟨tens, ones, spelled, tensDigit, onesDigit⟩ := formatDecimal_digits payload
  refine ⟨tens, ones, tensDigit, onesDigit, ?_⟩
  rw [packetIdText_eq, String.toList_ofList, spelled]
  rfl

include boot sequence

/-- The identifier of a packet has twenty-seven characters. -/
theorem packetIdText_length :
    (packetIdText payloadId bootId sequenceNumber).toList.length = 27 := by
  -- Two digits of the payload and twice eight of the numbers, with their letters and hyphens.
  obtain ⟨tens, ones, -, -, text⟩ := packetIdText_toList payload
  rw [text]
  simp [(formatUpperHex_digits boot).1, (formatUpperHex_digits sequence).1]

/-- The identifier of a packet of a two-digit payload can be queued. -/
theorem packetIdComplaint_packetIdText :
    packetIdComplaint (packetIdText payloadId bootId sequenceNumber) = none := by
  obtain ⟨tens, ones, tensDigit, onesDigit, text⟩ := packetIdText_toList payload
  have matched : matchesPacketId (packetIdText payloadId bootId sequenceNumber) = true := by
    rw [matchesPacketId, text]
    have last := dropUpperHex8_formatUpperHex sequence []
    rw [List.append_nil] at last
    simp only [dropUpperHex8_formatUpperHex boot, last, tensDigit, onesDigit]
    decide
  obtain ⟨width, digits⟩ := formatUpperHex_digits sequence
  -- The last character is the last digit of the sequence number.
  have last : ((packetIdText payloadId bootId sequenceNumber).toList.getLast?).any
      unicodeSpace = false := by
    have ends : formatUpperHex 8 sequenceNumber ≠ [] := fun empty => by simp [empty] at width
    have final := List.getLast_mem ends
    rw [text]
    simp only [List.getLast?_cons, List.getLast?_append, List.getLast?_eq_some_getLast ends]
    simpa using (digits _ final).2
  rw [packetIdComplaint, if_neg, if_neg, if_neg]
  · simp [matched]
  · rw [packetIdText_length payload boot sequence]
    decide
  · rw [last, text]
    have upper : unicodeSpace 'T' = false := by decide
    simp [upper]

end

end Cislunar
