import Cislunar.Proofs.Telemetry.Corruption
import Cislunar.Services.VendorForwarder

/-!
What the gateway decodes the frames of the vendor to.

A frame that was not damaged decodes to itself unless its sample lies too far ahead of the receipt; a
damaged one is never decoded, and the reason is the one that its failure mode was made for.
-/

namespace Cislunar

open Foundation

/-- The rule that the bytes of a failure mode break. -/
def FailureMode.breaks : FailureMode → Option TelemetryRejectionReason
  | .corruptCrc => some .crcMismatch
  | .unsupportedVersion => some .unsupportedProtocolVersion
  | .none | .skipSequence | .duplicateLast => Option.none

section Frames
variable {frame : TelemetryFrame OperatingMode} {raw changed : Bytes}

/-- At its own sample time a frame can be decoded. -/
theorem decodeTelemetry_own (encoded : encodeTelemetry zlibCrc32 frame = .ok raw) :
    decodeTelemetry zlibCrc32 raw (.utc frame.timestampUs) = .ok frame := by
  -- Received at its own time stamp, a frame is never in the future.
  refine decodeTelemetry_of_encodeTelemetry encoded rfl ?_
  have skew : (0 : Int) ≤ maxFutureSkewUs := by decide
  show frame.timestampUs ≤ frame.timestampUs - 0 + maxFutureSkewUs
  omega

/-- Valid fields are refused only for the time of their sample. -/
theorem validateFields_late {frame : TelemetryFrame Int} (valid : ValidFields frame)
    {receivedAt : Option Datetime} {error : CodecError}
    (late : requireReceivable frame.timestampUs receivedAt = .error error) :
    validateFields frame receivedAt = .error error := by
  -- The checks before the one of the receive time pass, and that one is the first to fail.
  rw [validateFields, require_bind, if_pos valid.version, require_bind, if_pos valid.payload,
    require_bind, if_pos valid.boot, require_bind, if_pos valid.sequence, require_bind,
    if_pos valid.width, require_bind, if_pos valid.epoch, late]
  rfl

/-- An encoded frame decodes to itself, or its sample lies too far ahead of the receipt. -/
theorem decodeTelemetry_encoded (encoded : encodeTelemetry zlibCrc32 frame = .ok raw)
    (receivedAt : Time) :
    decodeTelemetry zlibCrc32 raw (.utc receivedAt) = .ok frame ∨
      receivedAt + maxFutureSkewUs < frame.timestampUs ∧ ∃ detail,
        decodeTelemetry zlibCrc32 raw (.utc receivedAt) =
          .error (.validation .timestampTooFarInFuture detail) := by
  by_cases early : frame.timestampUs ≤ receivedAt - 0 + maxFutureSkewUs
  · exact Or.inl (decodeTelemetry_of_encodeTelemetry encoded rfl early)
  · refine Or.inr ⟨by rwa [not_le, sub_zero] at early, ?_⟩
    -- At its own time the frame passes every check, and only one check looks at the time.
    have decoded := decodeTelemetry_own encoded
    cases raw with
    | nil => simp [decodeTelemetry] at decoded
    | cons version rest =>
      simp only [decodeTelemetry, check_bind_eq_ok, require_eq_ok] at decoded
      obtain ⟨versioned, length, sized⟩ := decoded
      obtain ⟨detail, compared⟩ := decodeSizedFrame_eq zlibCrc32 (.utc frame.timestampUs) length
      rw [compared, check_bind_eq_ok, require_eq_ok, check_bind_eq_ok] at sized
      obtain ⟨summed, valid, named⟩ := sized
      obtain ⟨mode, -, same⟩ := checkedFrame_eq_ok.mp named
      have sample : (wireFrame (version :: rest)).timestampUs = frame.timestampUs := by rw [same]
      obtain ⟨detail, compared⟩ := decodeSizedFrame_eq zlibCrc32 (.utc receivedAt) length
      have late : requireReceivable (wireFrame (version :: rest)).timestampUs
          (some (.utc receivedAt)) = .error (.validation .timestampTooFarInFuture
            "sample timestamp is more than five minutes after ground receipt") := by
        rw [sample, requireReceivable_eq_require rfl]
        exact if_neg early
      refine ⟨"sample timestamp is more than five minutes after ground receipt", ?_⟩
      rw [decodeTelemetry, require_bind, if_pos versioned, require_bind, if_pos length, compared,
        require_bind, if_pos summed, validateFields_late (validateFields_eq_ok.mp valid).1 late]
      rfl

/-- A frame of which nothing but the checksum was changed is a checksum mismatch. -/
theorem decodeTelemetry_checksum_changed (encoded : encodeTelemetry zlibCrc32 frame = .ok raw)
    (sized : changed.length = raw.length) (front : changed.take 24 = raw.take 24)
    (different : changed ≠ raw) (receivedAt : Datetime) :
    ∃ detail, decodeTelemetry zlibCrc32 changed receivedAt =
      .error (.validation .crcMismatch detail) := by
  obtain ⟨versioned, length, matching⟩ := checksum_of_decoded (decodeTelemetry_own encoded)
  have first : changed[0]? = some 1 := by
    rw [← versioned, ← List.getElem?_take_of_lt (show 0 < 24 by decide), front,
      List.getElem?_take_of_lt (by decide)]
  cases changed with
  | nil => cases first
  | cons version rest =>
    obtain rfl : version = 1 := Option.some.inj first
    have supported : ((1 : UInt8).toNat : Int) = protocolVersion := by decide
    have framed : (1 :: rest).length = telemetryV1FrameSize := sized.trans length
    obtain ⟨detail, compared⟩ := decodeSizedFrame_eq zlibCrc32 receivedAt framed
    rw [decodeTelemetry, require_bind, if_pos supported, require_bind, if_pos framed, compared,
      require_bind, if_neg]
    · exact ⟨_, rfl⟩
    -- The checksum of the same body would have to be the same four bytes.
    · intro summed
      have same : wireField (1 :: rest) 24 4 = wireField raw 24 4 := by
        rw [Int.ofNat.inj summed, front, matching]
      have behind := drop_of_wireField sized length same
      apply different
      rw [← List.take_append_drop 24 (1 :: rest), front, behind, List.take_append_drop]

/-- A byte whose lowest bit is flipped is another one. -/
theorem flipped_ne (byte : UInt8) : byte ^^^ 0x01 ≠ byte := by
  -- Cancelling the byte would leave the flipped bit equal to zero.
  intro same
  have flipped := congrArg (byte ^^^ ·) same
  simp only [← UInt8.xor_assoc, UInt8.xor_self, UInt8.zero_xor] at flipped
  cases flipped

/-- A damaged frame is rejected at any time, for the rule that its failure mode breaks. -/
theorem applyWireFailure_rejected (encoded : encodeTelemetry zlibCrc32 frame = .ok raw)
    {mode : FailureMode} {reason : TelemetryRejectionReason} (breaks : mode.breaks = some reason)
    (receivedAt : Datetime) :
    ∃ detail, decodeTelemetry zlibCrc32 (applyWireFailure raw mode) receivedAt =
      .error (.validation reason detail) := by
  obtain ⟨versioned, length, -⟩ := checksum_of_decoded (decodeTelemetry_own encoded)
  cases mode with
  | none | skipSequence | duplicateLast => cases breaks
  | corruptCrc =>
    cases breaks
    refine decodeTelemetry_checksum_changed encoded (by simp [applyWireFailure]) ?_ ?_ receivedAt
    · rw [applyWireFailure, length]
      apply List.ext_getElem?
      intro index
      rw [List.getElem?_take, List.getElem?_take]
      split
      next within =>
        have elsewhere : 28 - 1 ≠ index := by omega
        simp [elsewhere]
      next => rfl
    -- The last byte is not what it was.
    · intro same
      have last := congrArg (·[27]?) same
      rw [applyWireFailure, length] at last
      simp only [List.getElem?_modify] at last
      rw [List.getElem?_eq_getElem (show 27 < raw.length by omega)] at last
      exact flipped_ne _ (Option.some.inj last)
  | unsupportedVersion =>
    cases breaks
    cases raw with
    | nil => cases versioned
    | cons version rest => exact ⟨_, rfl⟩

/-- Damage does not change the length of a frame. -/
theorem applyWireFailure_length (encoded : encodeTelemetry zlibCrc32 frame = .ok raw)
    (mode : FailureMode) : (applyWireFailure raw mode).length = 28 := by
  -- One case per failure mode; the one that appends a checksum has cut the old one off.
  obtain ⟨-, length, -⟩ := checksum_of_decoded (decodeTelemetry_own encoded)
  cases mode with
  | none | skipSequence | duplicateLast => exact length
  | corruptCrc => rw [applyWireFailure, List.length_modify, length]
  | unsupportedVersion =>
    rw [applyWireFailure, List.length_append, List.length_take, List.length_set, length,
      Struct.beBytes_length]
    rfl

/-- The bytes of a frame are handed on as they are where the failure mode breaks no rule. -/
theorem applyWireFailure_intact {mode : FailureMode} (intact : mode.breaks = none) (raw : Bytes) :
    applyWireFailure raw mode = raw := by
  -- Two of the modes change bytes on the wire.
  cases mode with
  | corruptCrc | unsupportedVersion => cases intact
  | none | skipSequence | duplicateLast => rfl

end Frames

end Cislunar
