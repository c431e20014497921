import Cislunar.Foundation.Fallible
import Cislunar.Runtime.Hash
import Cislunar.Telemetry.InterfaceRules

/-! Encoding and decoding are inverse, and decoding answers with the first interface rule broken. -/

namespace Cislunar

open Foundation

/-- A required rule is met exactly when the check succeeds. -/
@[simp] theorem require_eq_ok {rule : Prop} [Decidable rule] {error : CodecError} {done : Unit} :
    require rule error = .ok done ↔ rule := by
  unfold require
  split <;> simp_all

/-- A required rule either lets the rest run or ends it with its own error. -/
theorem require_bind {α : Type} (rule : Prop) [Decidable rule] (error : CodecError)
    (next : Unit → Except CodecError α) :
    (require rule error >>= next) = if rule then next () else .error error := by
  -- By whether the rule is met.
  unfold require
  split <;> rfl

/-- An aware value is its wall clock moved by its offset, however the difference is normalized. -/
theorem timestampUs_aware {value : Datetime} {offset : Int}
    (aware : value.utcoffset = some offset) :
    timestampUs value = .ok (value.wallUs - offset) := by
  -- The offset is subtracted from the wall clock.
  simp only [timestampUs, aware, Except.ok.injEq]
  omega

/-- The version 1 field rules other than the comparison with the receipt time. -/
structure ValidFields {Mode : Type} [ModeField Mode] (frame : TelemetryFrame Mode) : Prop where
  version : frame.protocolVersion = protocolVersion
  payload : frame.payloadId = supportedPayloadId
  boot : 1 ≤ frame.bootId ∧ frame.bootId ≤ uint32Max
  sequence : 0 ≤ frame.sequenceNumber ∧ frame.sequenceNumber ≤ uint32Max
  width : 0 ≤ frame.timestampUs ∧ frame.timestampUs < uint64Limit
  epoch : projectEpochUs ≤ frame.timestampUs
  temperature : minTemperatureCentiC ≤ frame.temperatureCentiC ∧
    frame.temperatureCentiC ≤ maxTemperatureCentiC
  voltage : minVoltageMv ≤ frame.voltageMv ∧ frame.voltageMv ≤ maxVoltageMv
  mode : (OperatingMode.ofInt? (ModeField.toInt frame.operatingMode)).isSome
  faults : 0 ≤ frame.faultFlags ∧ frame.faultFlags ≤ 0xFF
  reserved : Int.land frame.faultFlags reservedFaultMask = 0

/-- Validation succeeds exactly on valid fields whose sample time the receipt allows. -/
theorem validateFields_eq_ok {Mode : Type} [ModeField Mode] {frame : TelemetryFrame Mode}
    {at_ : Option Datetime} :
    validateFields frame at_ = .ok () ↔
      ValidFields frame ∧ requireReceivable frame.timestampUs at_ = .ok () := by
  -- Each rule is one conjunct, in the order the checks are made.
  simp only [validateFields, check_bind_eq_ok, require_eq_ok]
  constructor
  · rintro ⟨version, payload, boot, sequence, width, epoch, receivable, temperature, voltage, mode,
      faults, reserved⟩
    exact ⟨⟨version, payload, boot, sequence, width, epoch, temperature, voltage, mode, faults,
      reserved⟩, receivable⟩
  · rintro ⟨valid, receivable⟩
    exact ⟨valid.version, valid.payload, valid.boot, valid.sequence, valid.width, valid.epoch,
      receivable, valid.temperature, valid.voltage, valid.mode, valid.faults, valid.reserved⟩

/-- A sample is receivable at an aware time exactly when it is at most five minutes ahead. -/
theorem requireReceivable_aware {sampleUs : Int} {value : Datetime} {offset : Int}
    (aware : value.utcoffset = some offset) :
    requireReceivable sampleUs (some value) = .ok () ↔
      sampleUs ≤ value.wallUs - offset + maxFutureSkewUs := by
  -- The time can be read, so only the comparison is left.
  simp [requireReceivable, timestampUs_aware aware, bind, Except.bind]

/-- A library result surfaces as success exactly when it is one. -/
@[simp] theorem liftStruct_eq_ok {α : Type} {result : Except Struct.Error α} {value : α} :
    liftStruct result = .ok value ↔ result = .ok value := by
  cases result <;> simp [liftStruct]

/-- Members are recovered from their wire values. -/
@[simp] theorem OperatingMode.ofInt?_toInt (mode : OperatingMode) :
    OperatingMode.ofInt? mode.toInt = some mode := by
  -- Each mode is named by its own number.
  cases mode <;> rfl

/-- Only its own wire value names a member. -/
theorem OperatingMode.toInt_of_ofInt? {value : Int} {mode : OperatingMode}
    (named : OperatingMode.ofInt? value = some mode) : mode.toInt = value := by
  -- Each number that names a mode is the number of it.
  unfold OperatingMode.ofInt? at named
  split_ifs at named <;> simp_all [OperatingMode.toInt] <;> subst mode <;> simp_all

/-- Replacing a member by its integer keeps every field rule, and the other way round. -/
theorem ValidFields.changeMode {frame : TelemetryFrame Int} {mode : OperatingMode}
    (named : OperatingMode.ofInt? frame.operatingMode = some mode) :
    ValidFields frame ↔ ValidFields { frame with operatingMode := mode } := by
  -- The rule of the mode is the only one that reads it.
  have value := OperatingMode.toInt_of_ofInt? named
  constructor
  · intro valid
    exact ⟨valid.version, valid.payload, valid.boot, valid.sequence, valid.width, valid.epoch,
      valid.temperature, valid.voltage, by simp [ModeField.toInt], valid.faults, valid.reserved⟩
  · intro valid
    exact ⟨valid.version, valid.payload, valid.boot, valid.sequence, valid.width, valid.epoch,
      valid.temperature, valid.voltage, by simp [ModeField.toInt, named], valid.faults,
      valid.reserved⟩

section
variable {zlibCrc32 : Bytes → Nat}

/-- What a successful encoding consists of. -/
theorem encodeTelemetry_eq_ok {Mode : Type} [ModeField Mode] {frame : TelemetryFrame Mode}
    {bytes : Bytes} :
    encodeTelemetry zlibCrc32 frame = .ok bytes ↔ ValidFields frame ∧ ∃ body checksum,
      Struct.pack telemetryV1Body [frame.protocolVersion, frame.payloadId, frame.bootId,
        frame.sequenceNumber, frame.timestampUs, frame.temperatureCentiC, frame.voltageMv,
        ModeField.toInt frame.operatingMode, frame.faultFlags] = .ok body ∧
      Struct.pack crc32BigEndian [(crc32IsoHdlc zlibCrc32 body : Int)] = .ok checksum ∧
      bytes = body ++ checksum := by
  -- Without a receipt time the check of the sample time passes, and every other step is a link of
  -- the chain.
  simp only [encodeTelemetry, check_bind_eq_ok, validateFields_eq_ok, requireReceivable, and_true]
  simp only [bind_eq_ok, liftStruct_eq_ok, pure, Except.pure, Except.ok.injEq]
  constructor
  · rintro ⟨valid, body, packed, checksum, summed, rfl⟩
    exact ⟨valid, body, checksum, packed, summed, rfl⟩
  · rintro ⟨valid, body, checksum, packed, summed, rfl⟩
    exact ⟨valid, body, packed, checksum, summed, rfl⟩

/-- One byte read as an unsigned field is its own value. -/
theorem read_uint8_singleton (byte : UInt8) : Struct.Code.uint8.read [byte] = byte.toNat := by
  -- An unsigned byte is below its limit, so nothing is subtracted.
  have small := byte.toNat_lt
  simp only [Struct.Code.read, Struct.beNat, Struct.Code.limit, Struct.Code.least,
    Struct.Code.size, List.length_nil, Nat.pow_zero, Nat.mul_one, Nat.add_zero]
  rw [if_pos (by omega)]

/-- A nine-field row is the frame it unpacks to. -/
theorem unpackedFrame_eq_ok {values : List Int} {frame : TelemetryFrame Int} :
    unpackedFrame values = .ok frame ↔ values = [frame.protocolVersion, frame.payloadId,
      frame.bootId, frame.sequenceNumber, frame.timestampUs, frame.temperatureCentiC,
      frame.voltageMv, frame.operatingMode, frame.faultFlags] := by
  constructor
  · intro unpacked
    unfold unpackedFrame at unpacked
    -- A row of any other length raises.
    split at unpacked
    · simp only [Except.ok.injEq] at unpacked
      simp [← unpacked]
    · simp at unpacked
  · rintro rfl
    rfl

/-- The checked frame is the unpacked one with its mode named. -/
theorem checkedFrame_eq_ok {frame : TelemetryFrame Int} {checked : TelemetryFrame OperatingMode} :
    checkedFrame frame = .ok checked ↔ ∃ mode, OperatingMode.ofInt? frame.operatingMode = some mode ∧
      checked = { frame with operatingMode := mode } := by
  -- By whether the number names a mode.
  unfold checkedFrame
  cases named : OperatingMode.ofInt? frame.operatingMode with
  | none => simp
  | some mode => simp [eq_comm]

/--
A frame is decoded exactly from the bytes it packs to, when its fields are valid at the receipt.

Both directions of the round trip are readings of this one equivalence.
-/
theorem decodeTelemetry_eq_ok {raw : Bytes} {receivedAt : Datetime}
    {frame : TelemetryFrame OperatingMode} :
    decodeTelemetry zlibCrc32 raw receivedAt = .ok frame ↔
      (ValidFields frame ∧ requireReceivable frame.timestampUs (some receivedAt) = .ok ()) ∧
      ∃ body checksum,
        Struct.pack telemetryV1Body [frame.protocolVersion, frame.payloadId, frame.bootId,
          frame.sequenceNumber, frame.timestampUs, frame.temperatureCentiC, frame.voltageMv,
          ModeField.toInt frame.operatingMode, frame.faultFlags] = .ok body ∧
        Struct.pack crc32BigEndian [(crc32IsoHdlc zlibCrc32 body : Int)] = .ok checksum ∧
        raw = body ++ checksum := by
  constructor
  -- A decoded frame was cut into a body and a word, and packing what was unpacked gives these back.
  · intro decoded
    cases raw with
    | nil => simp [decodeTelemetry] at decoded
    | cons first rest =>
      simp only [decodeTelemetry, check_bind_eq_ok, require_eq_ok] at decoded
      obtain ⟨_, length, decoded⟩ := decoded
      simp only [decodeSizedFrame, bind_eq_ok, liftStruct_eq_ok, require_eq_ok] at decoded
      obtain ⟨expected, summed, _, matching, values, unpacked, unchecked, rebuilt, _, valid,
        named⟩ := decoded
      obtain ⟨mode, member, rfl⟩ := checkedFrame_eq_ok.mp named
      obtain ⟨valid, receivable⟩ := validateFields_eq_ok.mp valid
      refine ⟨⟨(ValidFields.changeMode member).mp valid, receivable⟩,
        (first :: rest).take telemetryV1BodySize, (first :: rest).drop telemetryV1BodySize,
        ?_, ?_, (List.take_append_drop _ _).symm⟩
      · -- The nine unpacked integers are the fields of the returned frame.
        rw [unpackedFrame_eq_ok.mp rebuilt] at unpacked
        have packed := Struct.pack_unpack unpacked
        rwa [← OperatingMode.toInt_of_ofInt? member] at packed
      · -- The trailing word is the only field of its record.
        have single := Struct.unpack_single summed
        rw [single, matching] at summed
        exact Struct.pack_unpack summed
  · rintro ⟨⟨valid, receivable⟩, body, checksum, packed, summed, rfl⟩
    obtain ⟨bodyLength, bodyFields⟩ := Struct.pack_spec packed
    obtain ⟨sumLength, _⟩ := Struct.pack_spec summed
    -- The leading byte is the version field, which the rules fix to one.
    cases body with
    | nil => simp [Struct.size, telemetryV1Body, Struct.Code.size] at bodyLength
    | cons first rest =>
      have version : (first.toNat : Int) = protocolVersion := by
        simp only [telemetryV1Body, Struct.fields, List.cons.injEq, Struct.Code.size,
          List.take_succ_cons, List.take_zero, read_uint8_singleton] at bodyFields
        rw [bodyFields.1, valid.version]
      have front : (first :: rest ++ checksum).take telemetryV1BodySize = first :: rest := by
        rw [telemetryV1BodySize, ← bodyLength, List.take_left']
        rfl
      have back : (first :: rest ++ checksum).drop telemetryV1BodySize = checksum := by
        rw [telemetryV1BodySize, ← bodyLength, List.drop_left']
        rfl
      simp only [List.cons_append] at front back
      have length : (first :: (rest ++ checksum)).length = telemetryV1FrameSize := by
        rw [← List.cons_append, List.length_append, bodyLength, sumLength]
        rfl
      simp only [List.cons_append, decodeTelemetry, check_bind_eq_ok, require_eq_ok]
      refine ⟨version, length, ?_⟩
      simp only [decodeSizedFrame, front, back, bind_eq_ok, liftStruct_eq_ok, require_eq_ok]
      -- The records unpack to what was packed, so the checks see the fields of the frame again.
      refine ⟨_, Struct.unpack_pack summed, (), rfl, _, Struct.unpack_pack packed,
        { frame with operatingMode := ModeField.toInt frame.operatingMode },
        unpackedFrame_eq_ok.mpr rfl, (), ?_, ?_⟩
      · exact validateFields_eq_ok.mpr
          ⟨(ValidFields.changeMode (OperatingMode.ofInt?_toInt frame.operatingMode)).mpr valid,
            receivable⟩
      · exact checkedFrame_eq_ok.mpr ⟨frame.operatingMode, OperatingMode.ofInt?_toInt _, rfl⟩

/-- Decoded bytes are the encoding of their frame. -/
theorem encodeTelemetry_of_decodeTelemetry {raw : Bytes} {receivedAt : Datetime}
    {frame : TelemetryFrame OperatingMode}
    (decoded : decodeTelemetry zlibCrc32 raw receivedAt = .ok frame) :
    encodeTelemetry zlibCrc32 frame = .ok raw := by
  -- A decoded frame is valid, and its bytes are the packed ones.
  obtain ⟨⟨valid, _⟩, packed⟩ := decodeTelemetry_eq_ok.mp decoded
  exact encodeTelemetry_eq_ok.mpr ⟨valid, packed⟩

/-- An encoded frame decodes to itself at every receipt time that allows its sample time. -/
theorem decodeTelemetry_of_encodeTelemetry {frame : TelemetryFrame OperatingMode} {bytes : Bytes}
    {receivedAt : Datetime} {offset : Int} (encoded : encodeTelemetry zlibCrc32 frame = .ok bytes)
    (aware : receivedAt.utcoffset = some offset)
    (early : frame.timestampUs ≤ receivedAt.wallUs - offset + maxFutureSkewUs) :
    decodeTelemetry zlibCrc32 bytes receivedAt = .ok frame := by
  -- An encoded frame is valid, and it was not received too early.
  obtain ⟨valid, packed⟩ := encodeTelemetry_eq_ok.mp encoded
  exact decodeTelemetry_eq_ok.mpr ⟨⟨valid, (requireReceivable_aware aware).mpr early⟩, packed⟩

/-- Frames with one encoding are equal. -/
theorem encodeTelemetry_injective {first second : TelemetryFrame OperatingMode} {bytes : Bytes}
    (left : encodeTelemetry zlibCrc32 first = .ok bytes)
    (right : encodeTelemetry zlibCrc32 second = .ok bytes) : first = second := by
  -- At the later of the two sample times both frames are decoded.
  have skew : (0 : Int) ≤ maxFutureSkewUs := by decide
  have decoded : decodeTelemetry zlibCrc32 bytes
      (.utc (max first.timestampUs second.timestampUs)) = .ok first := by
    refine decodeTelemetry_of_encodeTelemetry left rfl ?_
    show first.timestampUs ≤ max first.timestampUs second.timestampUs - 0 + maxFutureSkewUs
    omega
  have decoded' : decodeTelemetry zlibCrc32 bytes
      (.utc (max first.timestampUs second.timestampUs)) = .ok second := by
    refine decodeTelemetry_of_encodeTelemetry right rfl ?_
    show second.timestampUs ≤ max first.timestampUs second.timestampUs - 0 + maxFutureSkewUs
    omega
  exact Except.ok.inj (decoded.symm.trans decoded')

/--
Encoding and decoding version 1 telemetry are mutually inverse.

An encoded frame is 28 bytes and decodes to itself at every receipt time that allows its sample
time; every decoded byte string is the encoding of its frame, so frames never share a byte string.
-/
theorem encodeTelemetry_decodeTelemetry_inverse (zlibCrc32 : Bytes → Nat) :
    (∀ (frame : TelemetryFrame OperatingMode) (bytes : Bytes) (receivedAt : Datetime) (offset : Int),
      encodeTelemetry zlibCrc32 frame = .ok bytes → receivedAt.utcoffset = some offset →
      frame.timestampUs ≤ receivedAt.wallUs - offset + maxFutureSkewUs →
      bytes.length = 28 ∧ decodeTelemetry zlibCrc32 bytes receivedAt = .ok frame) ∧
    (∀ (raw : Bytes) (receivedAt : Datetime) (frame : TelemetryFrame OperatingMode),
      decodeTelemetry zlibCrc32 raw receivedAt = .ok frame →
      encodeTelemetry zlibCrc32 frame = .ok raw) ∧
    (∀ (raw raw' : Bytes) (receivedAt receivedAt' : Datetime) (frame : TelemetryFrame OperatingMode),
      decodeTelemetry zlibCrc32 raw receivedAt = .ok frame →
      decodeTelemetry zlibCrc32 raw' receivedAt' = .ok frame → raw = raw') := by
  refine ⟨?_, fun raw receivedAt frame => encodeTelemetry_of_decodeTelemetry, ?_⟩
  · intro frame bytes receivedAt offset produced aware early
    obtain ⟨valid, body, checksum, packed, summed, rfl⟩ := encodeTelemetry_eq_ok.mp produced
    -- The sizes of the two records add up to 28.
    constructor
    · rw [List.length_append, (Struct.pack_spec packed).1, (Struct.pack_spec summed).1]
      rfl
    · exact decodeTelemetry_of_encodeTelemetry produced aware early
  · -- Two byte strings with one frame are both its encoding.
    intro raw raw' receivedAt receivedAt' frame decoded decoded'
    have first := encodeTelemetry_of_decodeTelemetry decoded
    rw [encodeTelemetry_of_decodeTelemetry decoded'] at first
    simpa using first.symm

/-- A signed sixteen-bit field reads as the two's complement of the number its bytes spell. -/
theorem read_int16 (bytes : Bytes) :
    Struct.Code.int16.read bytes = if Struct.beNat bytes < 2 ^ 15 then (Struct.beNat bytes : Int)
      else Struct.beNat bytes - 2 ^ 16 := by
  -- Two bytes from 2 ^ 15 on stand for a negative number.
  simp only [Struct.Code.read, Struct.Code.limit, Struct.Code.least, Struct.Code.size]
  split_ifs <;> omega

/-- The nine fields of a body stand at their documented offsets. -/
theorem fields_telemetryV1Body (raw : Bytes) :
    Struct.fields telemetryV1Body (raw.take telemetryV1BodySize) =
      [(wireField raw 0 1 : Int), wireField raw 1 1, wireField raw 2 4, wireField raw 6 4,
        wireField raw 10 8, wireTemperature raw, wireField raw 20 2, wireField raw 22 1,
        wireField raw 23 1] := by
  have size : telemetryV1BodySize = 24 := rfl
  -- Every field starts where the ones before it end, and none reaches past the body.
  simp only [telemetryV1Body, Struct.fields, size, Struct.Code.size, List.drop_take, List.drop_drop,
    List.take_take, Nat.reduceAdd, Nat.reduceSub, Nat.min_def, Nat.reduceLeDiff, if_true]
  -- Only the temperature is signed; the other fields are read as their bytes spell them.
  simp only [read_int16, wireTemperature, wireField]
  rw [Struct.Code.read_unsigned rfl, Struct.Code.read_unsigned rfl, Struct.Code.read_unsigned rfl,
    Struct.Code.read_unsigned rfl, Struct.Code.read_unsigned rfl, Struct.Code.read_unsigned rfl,
    Struct.Code.read_unsigned rfl, Struct.Code.read_unsigned rfl]
  all_goals first | rfl | simp [Struct.Code.size]

/-- A field is below the power of 256 its width allows. -/
theorem wireField_lt (raw : Bytes) (offset width : Nat) : wireField raw offset width < 256 ^ width := by
  -- A field of a width has at most as many bytes.
  refine lt_of_lt_of_le (Struct.beNat_lt _) (Nat.pow_le_pow_right (by decide) ?_)
  simp

/-- The reserved mask is the two bits the document reserves. -/
theorem land_reservedFaultMask {faults : Nat} (byte : faults < 256) :
    Int.land (faults : Int) reservedFaultMask = 0 ↔
      faults.testBit 6 = false ∧ faults.testBit 7 = false := by
  -- All 256 values of the byte are tried; the mask has the two highest bits.
  revert faults
  decide +kernel

/-- The defined modes are the integers zero to three. -/
theorem ofInt?_isSome {value : Nat} :
    (OperatingMode.ofInt? (value : Int)).isSome ↔ value ∈ [0, 1, 2, 3] := by
  -- Four numbers name a mode.
  unfold OperatingMode.ofInt?
  split_ifs <;> simp <;> omega

/-- The frame whose fields stand at the documented offsets. -/
def wireFrame (raw : Bytes) : TelemetryFrame Int :=
  { protocolVersion := wireField raw 0 1, payloadId := wireField raw 1 1,
    bootId := wireField raw 2 4, sequenceNumber := wireField raw 6 4,
    timestampUs := wireField raw 10 8, temperatureCentiC := wireTemperature raw,
    voltageMv := wireField raw 20 2, operatingMode := (wireField raw 22 1 : Int),
    faultFlags := wireField raw 23 1 }

/-- An outcome names the broken rule: success for none, and a validation error for one. -/
inductive Reports {α : Type} : Except CodecError α → Option TelemetryRejectionReason → Prop where
  /-- A result is returned when no rule is broken. -/
  | returned (value : α) : Reports (.ok value) none
  /-- A broken rule is raised under its own reason. -/
  | raised (reason : TelemetryRejectionReason) (detail : String) :
      Reports (.error (.validation reason detail)) (some reason)

/-- A required interface rule reports itself, or leaves the report to the rules after it. -/
theorem reports_require {α : Type} {rule : Prop} {_ : Decidable rule} {holds : Bool}
    {reason : TelemetryRejectionReason} {detail : String} {next : Unit → Except CodecError α}
    {rules : List InterfaceRule} (same : rule ↔ holds = true)
    (rest : rule → Reports (next ()) (firstBroken rules)) :
    Reports (require rule (.validation reason detail) >>= next)
      (firstBroken (⟨holds, reason⟩ :: rules)) := by
  rw [require_bind]
  -- A rule that holds is skipped in the list; a broken one is the first.
  by_cases met : rule
  · rw [if_pos met]
    have skipped : firstBroken (⟨holds, reason⟩ :: rules) = firstBroken rules := by
      simp [firstBroken, same.mp met]
    rw [skipped]
    exact rest met
  · rw [if_neg met]
    have broken : holds = false := by
      rw [← Bool.not_eq_true]
      exact fun held => met (same.mpr held)
    have first : firstBroken (⟨holds, reason⟩ :: rules) = some reason := by
      simp [firstBroken, broken]
    rw [first]
    exact .raised reason detail

/-- A guard that always holds leaves the report unchanged. -/
theorem reports_guard {α : Type} {rule : Prop} {_ : Decidable rule} {error : CodecError}
    {next : Unit → Except CodecError α} {broken : Option TelemetryRejectionReason} (met : rule)
    (rest : Reports (next ()) broken) : Reports (require rule error >>= next) broken := by
  -- A rule that is met reports nothing.
  rwa [require_bind, if_pos met]

/-- A step that cannot fail after a success leaves the report unchanged. -/
theorem reports_bind {α β : Type} {outcome : Except CodecError α} {next : α → Except CodecError β}
    {broken : Option TelemetryRejectionReason} (reported : Reports outcome broken)
    (total : ∀ value, outcome = .ok value → ∃ result, next value = .ok result) :
    Reports (outcome >>= next) broken := by
  -- Only a success is followed by another step, which does not fail.
  cases reported with
  | returned value =>
    obtain ⟨result, finished⟩ := total value rfl
    simp only [bind, Except.bind, finished]
    exact .returned result
  | raised reason detail => exact .raised reason detail

/-- The comparison with an aware receipt time is one more required rule. -/
theorem requireReceivable_eq_require {sampleUs : Int} {receivedAt : Datetime} {offset : Int}
    (aware : receivedAt.utcoffset = some offset) :
    requireReceivable sampleUs (some receivedAt) =
      require (sampleUs ≤ receivedAt.wallUs - offset + maxFutureSkewUs)
        (.validation .timestampTooFarInFuture
          "sample timestamp is more than five minutes after ground receipt") := by
  -- The time can be read, so only the comparison is left.
  rw [requireReceivable, timestampUs_aware aware]
  rfl

/-- The field rules of an unpacked frame fail in document order, and never generically. -/
theorem validateFields_reports {raw : Bytes} {receivedAt : Datetime} {offset : Int}
    (aware : receivedAt.utcoffset = some offset) (version : wireField raw 0 1 = 1) :
    Reports (validateFields (wireFrame raw) (some receivedAt))
      (firstBroken (fieldRules raw (receivedAt.wallUs - offset))) := by
  -- Unpacked integers are within the width of their fields, which settles the generic guards.
  have boot := wireField_lt raw 2 4
  have sequence := wireField_lt raw 6 4
  have timestamp := wireField_lt raw 10 8
  have faults := wireField_lt raw 23 1
  rw [validateFields, requireReceivable_eq_require aware]
  unfold fieldRules
  -- The checks are made in the order of the rules, with the generic guards between them.
  refine reports_guard ?_ (reports_require ?_ fun _ => reports_require ?_ fun _ =>
    reports_guard ?_ (reports_guard ?_ (reports_require ?_ fun _ => reports_require ?_ fun _ =>
    reports_require ?_ fun _ => reports_require ?_ fun _ => reports_require ?_ fun _ =>
    reports_guard ?_ ?_)))
  · simp [wireFrame, version, protocolVersion]
  · simp only [wireFrame, supportedPayloadId, decide_eq_true_eq]
    omega
  · simp only [wireFrame, uint32Max, decide_eq_true_eq]
    omega
  · simp only [wireFrame, uint32Max]
    omega
  · simp only [wireFrame, uint64Limit]
    omega
  · simp only [wireFrame, projectEpochUs, secondsUs, decide_eq_true_eq]
    omega
  · simp only [wireFrame, maxFutureSkewUs, secondsUs, decide_eq_true_eq]
    omega
  · simp [wireFrame, minTemperatureCentiC, maxTemperatureCentiC]
  · simp only [wireFrame, minVoltageMv, maxVoltageMv, decide_eq_true_eq]
    omega
  · simp only [wireFrame, ModeField.toInt, ofInt?_isSome, decide_eq_true_eq]
  · exact ⟨Int.natCast_nonneg _, by
      show (wireField raw 23 1 : Int) ≤ 255
      omega⟩
  · -- The last rule has no computation after it.
    rw [← bind_pure (require _ _)]
    refine reports_require ?_ fun _ => .returned ()
    simp only [wireFrame, land_reservedFaultMask (by omega), Bool.and_eq_true, Bool.not_eq_true']

/-- At the right length, decoding compares the checksum and then checks the wire fields. -/
theorem decodeSizedFrame_eq (zlibCrc32 : Bytes → Nat) {raw : Bytes} (receivedAt : Datetime)
    (length : raw.length = 28) :
    ∃ detail, decodeSizedFrame zlibCrc32 raw receivedAt =
      (require ((wireField raw 24 4 : Int) = crc32IsoHdlc zlibCrc32 (raw.take 24))
        (.validation .crcMismatch detail) >>= fun _ =>
      validateFields (wireFrame raw) (some receivedAt) >>= fun _ =>
      checkedFrame (wireFrame raw)) := by
  -- The trailing word and the body both have exactly the size their records need.
  have trailing : (raw.drop 24).length = 4 := by rw [List.length_drop, length]
  have word : Struct.fields crc32BigEndian (raw.drop 24) = [(wireField raw 24 4 : Int)] := by
    simp only [crc32BigEndian, Struct.fields, wireField, Struct.Code.size]
    rw [Struct.Code.read_unsigned rfl (by simp [Struct.Code.size])]
  have checksum : Struct.unpack crc32BigEndian (raw.drop telemetryV1BodySize) =
      .ok [(wireField raw 24 4 : Int)] :=
    (if_pos trailing).trans (congrArg Except.ok word)
  have body : Struct.unpack telemetryV1Body (raw.take telemetryV1BodySize) =
      .ok (Struct.fields telemetryV1Body (raw.take telemetryV1BodySize)) := by
    refine if_pos ?_
    rw [List.length_take, length]
    rfl
  rw [decodeSizedFrame]
  simp only [checksum, body, fields_telemetryV1Body]
  exact ⟨_, rfl⟩

/--
Decoding answers with the first broken rule of the interface document, in its order.

A frame is returned exactly when every rule holds; otherwise the error is a validation error under
the reason of that rule, never a length, index or plain value error.
-/
theorem decodeTelemetry_reports_first_broken_rule (zlibCrc32 : Bytes → Nat) (raw : Bytes)
    (receivedAt : Datetime) (offset : Int) (aware : receivedAt.utcoffset = some offset) :
    Reports (decodeTelemetry zlibCrc32 raw receivedAt)
      (firstBrokenRule (crc32IsoHdlc zlibCrc32) raw (receivedAt.wallUs - offset)) := by
  unfold firstBrokenRule frameRules
  cases raw with
  | nil => exact .raised _ _
  | cons first rest =>
    -- The frame is not empty, so its first byte is there.
    have present : ∀ rules, firstBroken (⟨!(first :: rest).isEmpty, .emptyBody⟩ :: rules) =
        firstBroken rules := fun _ => rfl
    have leading : wireField (first :: rest) 0 1 = first.toNat := by
      simp [wireField, Struct.beNat]
    simp only [List.cons_append, present, decodeTelemetry]
    refine reports_require ?_ fun version => reports_require ?_ fun length => ?_
    · simp only [leading, protocolVersion, decide_eq_true_eq]
      omega
    · rw [decide_eq_true_eq]
      rfl
    · -- From here on the frame has its full length, so every field exists.
      obtain ⟨detail, sized⟩ := decodeSizedFrame_eq zlibCrc32 receivedAt length
      rw [sized]
      refine reports_require ?_ fun _ => reports_bind
        (validateFields_reports aware (by rw [leading]; exact Int.ofNat.inj version)) ?_
      · simp only [decide_eq_true_eq]
        exact Nat.cast_inj
      -- Validation has made sure that the mode has a name.
      · intro _ valid
        obtain ⟨mode, named⟩ := Option.isSome_iff_exists.mp (validateFields_eq_ok.mp valid).1.mode
        exact ⟨_, checkedFrame_eq_ok.mpr ⟨mode, named, rfl⟩⟩

end

/-- The golden vector of the interface document. -/
def goldenFrame : Bytes :=
  [0x01, 0x01, 0x00, 0x00, 0x00, 0x2a, 0x00, 0x00, 0x00, 0x01, 0x00, 0x06, 0x56, 0xb9,
    0x2d, 0xf1, 0x70, 0x00, 0x0b, 0x18, 0x6d, 0xc4, 0x02, 0x00, 0xcc, 0x6d, 0x02, 0x05]

/-- One second after the sample time of the golden vector. -/
def goldenReceiptTime : Datetime := .utc 1784203201000000

/-- The golden vector breaks no rule, so it decodes, and with a changed version it reports that. -/
theorem decodeTelemetry_golden_reports :
    Reports (decodeTelemetry zlibCrc32 goldenFrame goldenReceiptTime) none ∧
      Reports (decodeTelemetry zlibCrc32 (goldenFrame.set 0 2) goldenReceiptTime)
        (some .unsupportedProtocolVersion) := by
  -- The first broken rule of either frame is evaluated.
  have accepted := decodeTelemetry_reports_first_broken_rule zlibCrc32 goldenFrame
    goldenReceiptTime 0 rfl
  have refused := decodeTelemetry_reports_first_broken_rule zlibCrc32 (goldenFrame.set 0 2)
    goldenReceiptTime 0 rfl
  have whole : firstBrokenRule (crc32IsoHdlc zlibCrc32) goldenFrame
      (goldenReceiptTime.wallUs - 0) = none := by decide +kernel
  have changed : firstBrokenRule (crc32IsoHdlc zlibCrc32) (goldenFrame.set 0 2)
      (goldenReceiptTime.wallUs - 0) = some .unsupportedProtocolVersion := by decide +kernel
  rw [whole] at accepted
  rw [changed] at refused
  exact ⟨accepted, refused⟩

end Cislunar
