import Cislunar.Foundation.Crc
import Cislunar.Proofs.Telemetry.Codec

/-! A frame that was corrupted in up to four consecutive bytes is never decoded. -/

namespace Cislunar

open Foundation

/-- Two byte strings agree everywhere outside a window. -/
def AgreeOutside (first width : Nat) (raw changed : Bytes) : Prop :=
  ∀ index, index < first ∨ first + width ≤ index → changed[index]? = raw[index]?

/-- The generator of CRC-32/ISO-HDLC, reflected. -/
def crc32Polynomial : Nat := 0xEDB88320

/-- The generator fills a register of 32 bits. -/
theorem crc32Polynomial_fills : Crc.Fills crc32Polynomial 32 := by
  -- The polynomial has its highest bit set and none above it.
  refine ⟨31, rfl, ?_⟩
  decide

/-- The checksum is the register after all bytes, complemented. -/
theorem zlibCrc32_eq (data : Bytes) :
    zlibCrc32 data = data.foldl (Crc.feed crc32Polynomial) 0xFFFFFFFF ^^^ 0xFFFFFFFF := rfl

/-- The checksum of a frame is the whole register. -/
theorem crc32IsoHdlc_zlibCrc32 (data : Bytes) :
    crc32IsoHdlc zlibCrc32 data = data.foldl (Crc.feed crc32Polynomial) 0xFFFFFFFF ^^^ 0xFFFFFFFF := by
  -- The register stays below 2 ^ 32, so the final mask changes nothing.
  have started : 0xFFFFFFFF < 2 ^ 32 := by decide
  have bounded := Crc.foldl_feed_lt crc32Polynomial_fills (by decide) data started
  rw [crc32IsoHdlc, zlibCrc32_eq, Nat.and_two_pow_sub_one_eq_mod]
  exact Nat.mod_eq_of_lt (Nat.xor_lt_two_pow bounded (by decide))

/-- Byte strings that agree outside a window are the same before and behind it. -/
theorem AgreeOutside.split {first width : Nat} {raw changed : Bytes}
    (agree : AgreeOutside first width raw changed) :
    changed.take first = raw.take first ∧ changed.drop (first + width) = raw.drop (first + width) := by
  -- Position by position, on either side of the window.
  constructor
  · apply List.ext_getElem?
    intro index
    rw [List.getElem?_take, List.getElem?_take]
    split
    · exact agree index (.inl ‹_›)
    · rfl
  · apply List.ext_getElem?
    intro index
    rw [List.getElem?_drop, List.getElem?_drop]
    exact agree _ (.inr (Nat.le_add_right _ _))

/-- A byte string is what stands before a window, in it and behind it. -/
theorem take_window_drop (first width : Nat) (raw : Bytes) :
    raw.take first ++ (raw.drop first).take width ++ raw.drop (first + width) = raw := by
  -- What comes before the window, the window and what comes after it.
  rw [List.append_assoc, ← List.drop_drop, List.take_append_drop, List.take_append_drop]

/-- A change inside four consecutive bytes changes the checksum. -/
theorem checksum_changes {first : Nat} {raw changed : Bytes} (sized : changed.length = raw.length)
    (agree : AgreeOutside first 4 raw changed)
    (same : crc32IsoHdlc zlibCrc32 changed = crc32IsoHdlc zlibCrc32 raw) : changed = raw := by
  -- What is before and behind the window drops out, and the checksum tells apart all bursts of its
  -- own width.
  obtain ⟨before, behind⟩ := agree.split
  rw [crc32IsoHdlc_zlibCrc32, crc32IsoHdlc_zlibCrc32, Nat.xor_left_inj,
    ← take_window_drop first 4 changed, ← take_window_drop first 4 raw, before, behind] at same
  have widths : ((changed.drop first).take 4).length = ((raw.drop first).take 4).length := by
    simp [sized]
  have short : 8 * ((changed.drop first).take 4).length ≤ 32 := by
    simp only [List.length_take]
    omega
  have window := Crc.burst_changes crc32Polynomial_fills (by decide) _ _ widths short (by decide) same
  rw [← take_window_drop first 4 changed, before, behind, window, take_window_drop]

/-- What an accepted frame looks like on the wire. -/
theorem checksum_of_decoded {raw : Bytes} {receivedAt : Datetime} {frame : TelemetryFrame OperatingMode}
    (decoded : decodeTelemetry zlibCrc32 raw receivedAt = .ok frame) :
    raw[0]? = some 1 ∧ raw.length = 28 ∧
      wireField raw 24 4 = crc32IsoHdlc zlibCrc32 (raw.take 24) := by
  -- The version, the length and the checksum are the first three checks of the decoder.
  cases raw with
  | nil => simp [decodeTelemetry] at decoded
  | cons version rest =>
    simp only [decodeTelemetry, check_bind_eq_ok, require_eq_ok] at decoded
    obtain ⟨versioned, length, sized⟩ := decoded
    obtain ⟨detail, compared⟩ := decodeSizedFrame_eq zlibCrc32 receivedAt length
    rw [compared, check_bind_eq_ok, require_eq_ok] at sized
    refine ⟨?_, length, Int.ofNat.inj sized.1⟩
    exact congrArg some (UInt8.toNat_inj.mp (Int.ofNat.inj versioned))

/-- The bytes of a wire field that reaches the end of the frame are read back from its number. -/
theorem drop_of_wireField {raw changed : Bytes} (sized : changed.length = raw.length)
    (length : raw.length = 28) (same : wireField changed 24 4 = wireField raw 24 4) :
    changed.drop 24 = raw.drop 24 := by
  -- Four bytes are determined by the number that they spell.
  have whole : ∀ bytes : Bytes, bytes.length = 28 → (bytes.drop 24).take 4 = bytes.drop 24 := by
    intro bytes sized
    apply List.take_of_length_le
    rw [List.length_drop, sized]
  unfold wireField at same
  rw [whole raw length, whole changed (sized.trans length)] at same
  rw [← Struct.beBytes_beNat (changed.drop 24), ← Struct.beBytes_beNat (raw.drop 24), same]
  simp only [List.length_drop, sized]

/--
Corruption of up to four consecutive bytes of an accepted frame is always detected.

The window lies in the body or is the checksum; a changed first byte is an unsupported version, and
every other change is a checksum mismatch.
-/
theorem corrupted_frame_rejected {raw changed : Bytes} {receivedAt laterAt : Datetime}
    {frame : TelemetryFrame OperatingMode}
    (accepted : decodeTelemetry zlibCrc32 raw receivedAt = .ok frame)
    (sized : changed.length = 28) (different : changed ≠ raw)
    (burst : ∃ first, (first + 4 ≤ 24 ∨ first = 24) ∧ AgreeOutside first 4 raw changed) :
    Reports (decodeTelemetry zlibCrc32 changed laterAt)
      (some (if changed[0]? = raw[0]? then .crcMismatch else .unsupportedProtocolVersion)) := by
  obtain ⟨versioned, length, matching⟩ := checksum_of_decoded accepted
  obtain ⟨first, within, agree⟩ := burst
  rw [versioned]
  cases changed with
  | nil => simp at sized
  | cons version rest =>
    simp only [List.getElem?_cons_zero, Option.some.injEq]
    by_cases same : version = 1
    · -- The version still passes, so the checksum decides.
      subst same
      have supported : ((1 : UInt8).toNat : Int) = protocolVersion := by decide
      have framed : (1 :: rest).length = telemetryV1FrameSize := sized
      rw [if_pos rfl, decodeTelemetry, require_bind, if_pos supported, require_bind, if_pos framed]
      obtain ⟨detail, compared⟩ := decodeSizedFrame_eq zlibCrc32 laterAt sized
      rw [compared, require_bind, if_neg]
      · exact .raised _ _
      · intro summed
        apply different
        have summed := Int.ofNat.inj summed
        obtain ⟨before, behind⟩ := agree.split
        cases within with
        | inl body =>
          -- The checksum bytes are untouched, so the changed body would have the old checksum.
          have trailing : ((1 :: rest).drop 24) = raw.drop 24 := by
            have shifted := congrArg (List.drop (24 - (first + 4))) behind
            rwa [List.drop_drop, List.drop_drop, Nat.add_sub_cancel' body] at shifted
          have field : wireField (1 :: rest) 24 4 = wireField raw 24 4 := by
            rw [wireField, wireField, trailing]
          rw [field, matching] at summed
          have bodies : AgreeOutside first 4 (raw.take 24) ((1 :: rest).take 24) := by
            intro index outside
            rw [List.getElem?_take, List.getElem?_take, agree index outside]
          have lengths : ((1 :: rest).take 24).length = (raw.take 24).length := by
            rw [List.length_take, List.length_take, sized, length]
          have unchanged := checksum_changes lengths bodies summed.symm
          rw [← List.take_append_drop 24 (1 :: rest), unchanged, trailing, List.take_append_drop]
        | inr checksum =>
          -- The body is untouched, so the changed checksum would be the old one.
          subst checksum
          rw [before, ← matching] at summed
          have trailing := drop_of_wireField (sized.trans length.symm) length summed
          rw [← List.take_append_drop 24 (1 :: rest), before, trailing, List.take_append_drop]
    · have refused : ¬(version.toNat : Int) = protocolVersion := by
        intro equal
        exact same (UInt8.toNat_inj.mp (Int.ofNat.inj equal))
      rw [if_neg same, decodeTelemetry, require_bind, if_neg refused]
      exact .raised _ _

/-- The golden vector with two changed bytes of its sequence number fails its checksum. -/
theorem corrupted_golden_rejected :
    Reports (decodeTelemetry zlibCrc32 ((goldenFrame.set 8 7).set 9 9) goldenReceiptTime)
      (some .crcMismatch) := by
  -- The golden vector is accepted, and the change lies inside four consecutive bytes of it.
  have decoded : ∃ frame, decodeTelemetry zlibCrc32 goldenFrame goldenReceiptTime = .ok frame := by
    have reported : (decodeTelemetry zlibCrc32 goldenFrame goldenReceiptTime).toOption.isSome := by
      decide +kernel
    cases outcome : decodeTelemetry zlibCrc32 goldenFrame goldenReceiptTime with
    | ok frame => exact ⟨frame, rfl⟩
    | error error =>
      rw [outcome] at reported
      cases reported
  obtain ⟨frame, accepted⟩ := decoded
  have agree : AgreeOutside 6 4 goldenFrame ((goldenFrame.set 8 7).set 9 9) := by
    intro index outside
    rw [List.getElem?_set_ne (by omega), List.getElem?_set_ne (by omega)]
  exact corrupted_frame_rejected accepted (by decide) (by decide) ⟨6, .inl (by decide), agree⟩

end Cislunar
