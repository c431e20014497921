import Cislunar.Common.Health
import Cislunar.Proofs.Common.Packet
import Mathlib.Tactic.Linarith
import Mathlib.Tactic.FieldSimp

/-!
Health samples survive the link up to its resolution, and what has been read from it exactly.
-/

namespace Cislunar

open Foundation SpaceLink

/-- What a value may be off on the link, in units of its field: half of one and what floats lose. -/
def resolution : Rat := 1 / 2 + 1 / 10 ^ 9

/-- The product of a float and a small integer is almost exact. -/
theorem product_near (value : Rat) {factor : Int} (small : 1 ≤ factor ∧ factor ≤ 1000) :
    |Binary64.round (Binary64.round value * factor) - value * factor| ≤
      |value * factor| / 2 ^ 51 + 1 / 2 ^ 60 := by
  -- The value is rounded first, which the factor enlarges, and the product after it.
  obtain ⟨low, high⟩ : (1 : Rat) ≤ factor ∧ (factor : Rat) ≤ 1000 := by exact_mod_cast small
  have tiny : (2 : Rat) ^ (-1075 : Int) ≤ 2 ^ (-80 : Int) :=
    zpow_le_zpow_right₀ (by norm_num) (by norm_num)
  have bits : (2 : Rat) ^ (-80 : Int) = 1 / 2 ^ 80 := by norm_num
  rw [bits] at tiny
  have stored := Binary64.round_near value
  have rounded := Binary64.round_near (Binary64.round value * factor)
  have enlarged : |Binary64.round value * factor - value * factor| ≤
      |value * factor| / 2 ^ 53 + 1000 / 2 ^ 80 := by
    rw [← sub_mul, abs_mul, abs_mul, abs_of_pos (by linarith : (0 : Rat) < factor)]
    calc |Binary64.round value - value| * factor
        ≤ (|value| / 2 ^ 53 + 1 / 2 ^ 80) * factor :=
          mul_le_mul_of_nonneg_right (by linarith) (by linarith)
      _ ≤ |value| * factor / 2 ^ 53 + 1000 / 2 ^ 80 := by linarith
  have size := abs_sub_abs_le_abs_sub (Binary64.round value * factor) (value * factor)
  have total := abs_sub_le (Binary64.round (Binary64.round value * factor))
    (Binary64.round value * factor) (value * factor)
  have nonneg := abs_nonneg (value * factor)
  linarith

/-- What is sent of a value is off by half a unit and what floats lose. -/
theorem roundedProduct_near {value : Rat} {factor : Int} (small : 1 ≤ factor ∧ factor ≤ 1000)
    (sent : |roundedProduct value factor| ≤ 2 ^ 16) :
    |(roundedProduct value factor : Rat) - value * factor| ≤ resolution := by
  have product := product_near value small
  have moved := roundHalfEven_near (Binary64.round (Binary64.round value * factor))
  rw [← roundedProduct] at moved
  have bounded : |(roundedProduct value factor : Rat)| ≤ 2 ^ 16 := by exact_mod_cast sent
  -- The product is not larger than its field, so little of it is lost.
  have total := abs_sub_le (roundedProduct value factor : Rat)
    (Binary64.round (Binary64.round value * factor)) (value * factor)
  have size := abs_sub_abs_le_abs_sub (value * factor) (roundedProduct value factor)
  rw [abs_sub_comm (value * factor)] at size
  rw [resolution]
  linarith

/-- A value of whole units is sent as it is. -/
theorem roundedProduct_units {units factor : Int} (small : 1 ≤ factor ∧ factor ≤ 1000)
    (bounded : |units| ≤ 2 ^ 16) : roundedProduct (units / factor : Rat) factor = units := by
  -- What floats lose is less than half a unit.
  have product := product_near (units / factor : Rat) small
  have nonzero : (factor : Rat) ≠ 0 := by
    have : factor ≠ 0 := by omega
    exact_mod_cast this
  rw [div_mul_cancel₀ _ nonzero] at product
  have size : |(units : Rat)| ≤ 2 ^ 16 := by exact_mod_cast bounded
  exact roundHalfEven_of_near (by linarith)

/-- What is at least a whole limit is sent as at least that. -/
theorem le_roundedProduct {limit factor : Int} {value : Rat} (positive : 0 < factor)
    (exact : |limit| ≤ 2 ^ 52 ∧ |limit * factor| ≤ 2 ^ 52) (above : limit ≤ value) :
    limit * factor ≤ roundedProduct value factor := by
  -- Neither of the two floats passes the limit, and the integer does not either.
  have parts : (0 : Rat) ≤ factor := by exact_mod_cast positive.le
  have stored := Binary64.le_round (by exact_mod_cast exact.1) above
  have enlarged : ((limit * factor : Int) : Rat) ≤ Binary64.round value * factor := by
    push_cast
    exact mul_le_mul_of_nonneg_right stored parts
  exact le_roundHalfEven (Binary64.le_round (by exact_mod_cast exact.2) enlarged)

/-- What is at most a whole limit is sent as at most that. -/
theorem roundedProduct_le {limit factor : Int} {value : Rat} (positive : 0 < factor)
    (exact : |limit| ≤ 2 ^ 52 ∧ |limit * factor| ≤ 2 ^ 52) (below : value ≤ limit) :
    roundedProduct value factor ≤ limit * factor := by
  -- As from the other side.
  have parts : (0 : Rat) ≤ factor := by exact_mod_cast positive.le
  have stored := Binary64.round_le (by exact_mod_cast exact.1) below
  have enlarged : Binary64.round value * factor ≤ ((limit * factor : Int) : Rat) := by
    push_cast
    exact mul_le_mul_of_nonneg_right stored parts
  exact roundHalfEven_le (Binary64.round_le (by exact_mod_cast exact.2) enlarged)

/-- What was encoded decodes to what it was encoded from. -/
theorem decodeSpacePacket_of_encoded {apid sequenceCount packetType : Int} {payload raw : Bytes}
    (encoded : encodeSpacePacket apid sequenceCount payload packetType = .ok raw) :
    decodeSpacePacket raw = .ok ⟨apid, sequenceCount, payload, packetType⟩ := by
  -- The packet is framed, and both of its words are read back.
  obtain ⟨encodable, header, trailer, framed⟩ := encodeSpacePacket_eq_ok.mp encoded
  obtain ⟨version, fields⟩ := unpackedPacket_words encodable payload
  exact decodeSpacePacket_eq_ok.mpr ⟨_, _, payload, header, trailer, framed, version, fields.symm⟩

/-- A datagram of an acknowledgement carries that one and no other. -/
theorem decodeAck_of_encoded {sequenceCount : Int} {ack found : CommandAck} {raw : Bytes}
    {packet : SpacePacket} (encoded : encodeAck sequenceCount ack = .ok raw)
    (decoded : decodeSpacePacket raw = .ok packet) (read : decodeAck packet = .ok found) :
    found = ack := by
  -- The frame is undone by the packet lemma, the payload by the round trip of its format.
  rw [encodeAck, bind_eq_ok] at encoded
  obtain ⟨payload, packed, framed⟩ := encoded
  rw [decodeSpacePacket_of_encoded framed] at decoded
  cases decoded
  rw [decodeAck, check_bind_eq_ok, check_bind_eq_ok, bind_eq_ok] at read
  obtain ⟨-, -, values, unpacked, same⟩ := read
  rw [liftStruct_eq_ok, Struct.unpack_pack (liftStruct_eq_ok.mp packed)] at unpacked
  cases unpacked
  exact (Except.ok.inj same).symm

/-- A health sample is no acknowledgement. -/
theorem decodeAck_of_health {sequenceCount : Int} {sample : HealthTelemetry} {raw : Bytes}
    {packet : SpacePacket} {found : CommandAck}
    (encoded : encodeHealth sequenceCount sample = .ok raw)
    (decoded : decodeSpacePacket raw = .ok packet) : decodeAck packet ≠ .ok found := by
  -- The decoder of acknowledgements starts with the APID, and the two APIDs differ.
  intro read
  rw [encodeHealth, bind_eq_ok] at encoded
  obtain ⟨payload, -, framed⟩ := encoded
  rw [decodeSpacePacket_of_encoded framed] at decoded
  cases decoded
  rw [decodeAck, check_bind_eq_ok] at read
  have other : apidHealth = apidCommandAck := check_eq_ok.mp read.1
  exact absurd other (by decide)

/-- A health sample whose fields fit is encoded. -/
theorem encodeHealth_total {sequenceCount : Int} {sample : HealthTelemetry}
    (count : 0 ≤ sequenceCount ∧ sequenceCount ≤ maxSequence)
    (fits : List.Forall₂ Struct.Code.Holds healthPayload
      [sample.timestampNs, roundedProduct sample.busVoltageV 1000,
        roundedProduct sample.batteryTempC 100, sample.wheelRpm, sample.mode,
        sample.faultFlags]) :
    ∃ raw, encodeHealth sequenceCount sample = .ok raw := by
  obtain ⟨payload, packed⟩ := Struct.pack_total fits
  -- The payload has a fixed size, which a space packet can carry.
  have size : payload.length = 18 := (Struct.pack_spec packed).1
  have encodable : Encodable apidHealth sequenceCount 0 := ⟨by decide, .inl rfl, count⟩
  have filled : payload ≠ [] := fun empty => by simp [empty] at size
  obtain ⟨raw, encoded, -⟩ := decodeSpacePacket_encodeSpacePacket encodable filled (by omega)
  refine ⟨raw, ?_⟩
  rw [encodeHealth, bind_eq_ok]
  exact ⟨payload, liftStruct_eq_ok.mpr packed, encoded⟩

/-- A sample is read where its fields are packed. -/
theorem decodeHealth_eq_ok {packet : SpacePacket} {sample : HealthTelemetry} :
    decodeHealth packet = .ok sample ↔ packet.apid = apidHealth ∧
      ∃ timestampNs millivolts centidegrees wheelRpm mode faultFlags : Int,
        Struct.pack healthPayload
            [timestampNs, millivolts, centidegrees, wheelRpm, mode, faultFlags] =
          .ok packet.payload ∧
        sample = ⟨timestampNs, millivolts / 1000, centidegrees / 100, wheelRpm, mode, faultFlags⟩ := by
  -- The fields that were unpacked are packed to the same payload, and the other way round.
  rw [decodeHealth, check_bind_eq_ok, check_bind_eq_ok, bind_eq_ok, check_eq_ok, check_eq_ok]
  simp only [liftStruct_eq_ok]
  constructor
  · rintro ⟨kind, _, values, unpacked, read⟩
    refine ⟨kind, ?_⟩
    unfold unpackedHealth at read
    split at read
    next timestampNs millivolts centidegrees wheelRpm mode faultFlags =>
      exact ⟨_, _, _, _, _, _, Struct.pack_unpack unpacked, (Except.ok.inj read).symm⟩
    next => cases read
  · rintro ⟨kind, _, _, _, _, _, _, packed, rfl⟩
    exact ⟨kind, (Struct.pack_spec packed).1, _, Struct.unpack_pack packed, rfl⟩

/-- The fields of a sample that is encoded fit. -/
theorem encodeHealth_fits {sequenceCount : Int} {sample : HealthTelemetry} {raw : Bytes}
    (encoded : encodeHealth sequenceCount sample = .ok raw) :
    List.Forall₂ Struct.Code.Holds healthPayload
      [sample.timestampNs, roundedProduct sample.busVoltageV 1000,
        roundedProduct sample.batteryTempC 100, sample.wheelRpm, sample.mode,
        sample.faultFlags] := by
  -- The payload was packed.
  rw [encodeHealth, bind_eq_ok] at encoded
  obtain ⟨payload, packed, -⟩ := encoded
  exact Struct.pack_holds (liftStruct_eq_ok.mp packed)

/-- A sample as the link carries it. -/
def HealthTelemetry.carried (sample : HealthTelemetry) : HealthTelemetry :=
  { sample with
    busVoltageV := roundedProduct sample.busVoltageV 1000 / 1000
    batteryTempC := roundedProduct sample.batteryTempC 100 / 100 }

/-- A health datagram decodes to its sample as the link carries it. -/
theorem decodeHealth_of_encoded {sequenceCount : Int} {sample : HealthTelemetry} {raw : Bytes}
    (encoded : encodeHealth sequenceCount sample = .ok raw) :
    ∃ packet, decodeSpacePacket raw = .ok packet ∧ packet.apid = apidHealth ∧
      packet.sequenceCount = sequenceCount ∧ decodeHealth packet = .ok sample.carried := by
  -- The frame keeps the payload, and the payload keeps its integers.
  rw [encodeHealth, bind_eq_ok] at encoded
  obtain ⟨payload, packed, framed⟩ := encoded
  exact ⟨_, decodeSpacePacket_of_encoded framed, rfl, rfl, decodeHealth_eq_ok.mpr
    ⟨rfl, _, _, _, _, _, _, liftStruct_eq_ok.mp packed, rfl⟩⟩

/-- Samples that are sent as one datagram are one sample to the ground. -/
theorem carried_unique {sequenceCount : Int} {first second : HealthTelemetry} {raw : Bytes}
    (left : encodeHealth sequenceCount first = .ok raw)
    (right : encodeHealth sequenceCount second = .ok raw) : first.carried = second.carried := by
  -- The datagram decodes to one sample.
  obtain ⟨packet, decoded, -, -, read⟩ := decodeHealth_of_encoded left
  obtain ⟨packet', decoded', -, -, read'⟩ := decodeHealth_of_encoded right
  rw [decoded] at decoded'
  cases decoded'
  rw [read] at read'
  exact Except.ok.inj read'

/-- The link moves the voltage and the temperature by its resolution at most. -/
theorem HealthTelemetry.carried_near {sequenceCount : Int} {sample : HealthTelemetry} {raw : Bytes}
    (encoded : encodeHealth sequenceCount sample = .ok raw) :
    |sample.carried.busVoltageV - sample.busVoltageV| ≤ resolution / 1000 ∧
      |sample.carried.batteryTempC - sample.batteryTempC| ≤ resolution / 100 := by
  -- Both fields have sixteen bits.
  have fits := encodeHealth_fits encoded
  simp only [healthPayload, List.forall₂_cons, Struct.Code.Holds, Struct.Code.limit,
    Struct.Code.least, Struct.Code.size] at fits
  have sentVoltage : |roundedProduct sample.busVoltageV 1000| ≤ 2 ^ 16 := abs_le.mpr (by omega)
  have sentTemperature : |roundedProduct sample.batteryTempC 100| ≤ 2 ^ 16 :=
    abs_le.mpr (by omega)
  have voltage := abs_le.mp (roundedProduct_near (by omega) sentVoltage)
  have temperature := abs_le.mp (roundedProduct_near (by omega) sentTemperature)
  push_cast at voltage temperature
  dsimp only [carried]
  rw [abs_le, abs_le]
  refine ⟨⟨?_, ?_⟩, ?_, ?_⟩ <;> linarith

/--
Health samples survive the link up to its resolution.

A sample that is encoded is decoded under its sequence count with every field as it was but the
voltage and the temperature, and these are off by half a unit of the wire and a billionth of one at
most. A sample that was decoded is encoded to the payload that it was read from.
-/
theorem health_roundTrips :
    (∀ (sequenceCount : Int) (sample : HealthTelemetry) (raw : Bytes),
      encodeHealth sequenceCount sample = .ok raw →
        ∃ packet found, decodeSpacePacket raw = .ok packet ∧ decodeHealth packet = .ok found ∧
          packet.sequenceCount = sequenceCount ∧
          |found.busVoltageV - sample.busVoltageV| ≤ resolution / 1000 ∧
          |found.batteryTempC - sample.batteryTempC| ≤ resolution / 100 ∧
          found = { sample with
            busVoltageV := found.busVoltageV, batteryTempC := found.batteryTempC }) ∧
      ∀ (packet : SpacePacket) (sample : HealthTelemetry) (sequenceCount : Int),
        decodeHealth packet = .ok sample →
          encodeHealth sequenceCount sample =
            encodeSpacePacket apidHealth sequenceCount packet.payload := by
  constructor
  · intro sequenceCount sample raw encoded
    obtain ⟨voltage, temperature⟩ := HealthTelemetry.carried_near encoded
    obtain ⟨packet, decoded, -, counted, read⟩ := decodeHealth_of_encoded encoded
    exact ⟨packet, sample.carried, decoded, read, counted, voltage, temperature, rfl⟩
  · intro packet sample sequenceCount decoded
    obtain ⟨-, timestampNs, millivolts, centidegrees, wheelRpm, mode, faultFlags, packed, rfl⟩ :=
      decodeHealth_eq_ok.mp decoded
    -- Both fields have sixteen bits, in which whole units are sent as they are.
    have fits := Struct.pack_holds packed
    simp only [healthPayload, List.forall₂_cons, Struct.Code.Holds, Struct.Code.limit,
      Struct.Code.least, Struct.Code.size] at fits
    have voltage : roundedProduct (millivolts / (1000 : Int)) 1000 = millivolts :=
      roundedProduct_units (by omega) (abs_le.mpr (by omega))
    have temperature : roundedProduct (centidegrees / (100 : Int)) 100 = centidegrees :=
      roundedProduct_units (by omega) (abs_le.mpr (by omega))
    push_cast at voltage temperature
    rw [encodeHealth]
    dsimp only
    rw [voltage, temperature, packed]
    rfl

end Cislunar
