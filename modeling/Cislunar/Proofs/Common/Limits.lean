import Cislunar.Proofs.Common.Health

/-!
What the rounding of the link does to the limits.

The limits of the voltage and the temperature are whole volts and degrees, so a sample as the link
carries it breaks none that the sample itself keeps, and it misses none that is broken by more than
the resolution of the link.
-/

namespace Cislunar

open Foundation SpaceLink

/-- A value is below a limit of whole units where what is sent of it is. -/
theorem lt_of_sent_lt (limit factor : Int) {value : Rat} (positive : 0 < factor)
    (exact : |limit| ≤ 2 ^ 52 ∧ |limit * factor| ≤ 2 ^ 52)
    (low : (roundedProduct value factor : Rat) / factor < limit) : value < limit := by
  -- A value at the limit or above it would be sent as the limit or as more.
  have parts : (0 : Rat) < factor := by exact_mod_cast positive
  by_contra above
  have whole : (limit : Rat) * factor ≤ roundedProduct value factor := by
    exact_mod_cast le_roundedProduct positive exact (not_lt.mp above)
  exact absurd ((le_div_iff₀ parts).mpr whole) (not_le.mpr low)

/-- A value is above a limit of whole units where what is sent of it is. -/
theorem lt_of_lt_sent (limit factor : Int) {value : Rat} (positive : 0 < factor)
    (exact : |limit| ≤ 2 ^ 52 ∧ |limit * factor| ≤ 2 ^ 52)
    (high : (limit : Rat) < (roundedProduct value factor : Rat) / factor) : limit < value := by
  -- As from the other side.
  have parts : (0 : Rat) < factor := by exact_mod_cast positive
  by_contra below
  have whole : (roundedProduct value factor : Rat) ≤ limit * factor := by
    exact_mod_cast roundedProduct_le positive exact (not_lt.mp below)
  exact absurd ((div_le_iff₀ parts).mpr whole) (not_le.mpr high)

namespace HealthTelemetry

/-- Every limit that the first sample breaks is broken by the second. -/
structure BreaksLess (first second : HealthTelemetry) : Prop where
  voltage : ∀ limit ∈ [(24 : Rat), 26], first.busVoltageV < limit → second.busVoltageV < limit
  temperature : ∀ limit ∈ [(55 : Rat), 65], limit < first.batteryTempC → limit < second.batteryTempC
  wheel : first.wheelRpm = second.wheelRpm
  faults : first.faultFlags = second.faultFlags

/-- A sample alarms for a parameter at least as badly as a violation says. -/
def Alarms (sample : HealthTelemetry) (parameter : String) (severity : Severity) : Prop :=
  ∃ violation ∈ evaluateHealth sample, violation.parameter = parameter ∧
    (severity = .critical → violation.severity = .critical)

variable {first second : HealthTelemetry}

/-- Where more is broken, everything is reported that was, and at least as badly. -/
theorem BreaksLess.alarms (less : first.BreaksLess second) {violation : LimitViolation}
    (reported : violation ∈ evaluateHealth first) :
    second.Alarms violation.parameter violation.severity := by
  have low := less.voltage 24 (by simp)
  have reduced := less.voltage 26 (by simp)
  have warm := less.temperature 55 (by simp)
  have hot := less.temperature 65 (by simp)
  have wheel := less.wheel
  have faults := less.faults
  -- The violation comes from one of the four checks.
  simp only [evaluateHealth, List.mem_append] at reported
  rcases reported with ((voltage | temperature) | speed) | flags
  · split_ifs at voltage with critical warning
    · obtain rfl := List.mem_singleton.mp voltage
      exact ⟨⟨"bus_voltage_v", second.busVoltageV, .critical, "Bus voltage below 24.0 V"⟩,
        by simp [evaluateHealth, low critical], rfl, fun _ => rfl⟩
    · obtain rfl := List.mem_singleton.mp voltage
      -- The second sample may be critical where the first one is not.
      by_cases worse : second.busVoltageV < 24
      · exact ⟨⟨"bus_voltage_v", second.busVoltageV, .critical, "Bus voltage below 24.0 V"⟩,
          by simp [evaluateHealth, worse], rfl, fun _ => rfl⟩
      · exact ⟨⟨"bus_voltage_v", second.busVoltageV, .warning, "Bus voltage below 26.0 V"⟩,
          by simp [evaluateHealth, worse, reduced warning], rfl, id⟩
    · cases voltage
  · split_ifs at temperature with critical warning
    · obtain rfl := List.mem_singleton.mp temperature
      exact ⟨⟨"battery_temp_c", second.batteryTempC, .critical, "Battery temperature above 65 C"⟩,
        by simp [evaluateHealth, hot critical], rfl, fun _ => rfl⟩
    · obtain rfl := List.mem_singleton.mp temperature
      by_cases worse : 65 < second.batteryTempC
      · exact ⟨⟨"battery_temp_c", second.batteryTempC, .critical,
          "Battery temperature above 65 C"⟩, by simp [evaluateHealth, worse], rfl, fun _ => rfl⟩
      · exact ⟨⟨"battery_temp_c", second.batteryTempC, .warning,
          "Battery temperature above 55 C"⟩, by simp [evaluateHealth, worse, warm warning], rfl, id⟩
    · cases temperature
  · split_ifs at speed with fast
    · obtain rfl := List.mem_singleton.mp speed
      exact ⟨⟨"wheel_rpm", second.wheelRpm, .critical, "Reaction wheel speed exceeds 5500 RPM"⟩,
        by simp [evaluateHealth, ← wheel, fast], rfl, fun _ => rfl⟩
    · cases speed
  · split_ifs at flags with set
    · obtain rfl := List.mem_singleton.mp flags
      exact ⟨⟨"fault_flags", second.faultFlags, .critical, "Spacecraft fault flag is set"⟩,
        by simp [evaluateHealth, ← faults, set], rfl, fun _ => rfl⟩
    · cases flags

/-- A sample with the resolution of the link given away. -/
def eased (sample : HealthTelemetry) : HealthTelemetry :=
  { sample with
    busVoltageV := sample.busVoltageV + resolution / 1000
    batteryTempC := sample.batteryTempC - resolution / 100 }

/-- Rounding breaks no limit. -/
theorem carried_breaksLess (sample : HealthTelemetry) : sample.carried.BreaksLess sample where
  voltage limit listed low := by
    -- Both limits are whole millivolts, so a value that is sent below one was below it.
    simp only [List.mem_cons, List.not_mem_nil, or_false] at listed
    rcases listed with rfl | rfl
    · exact_mod_cast lt_of_sent_lt 24 1000 (by decide) (by decide) (by push_cast; exact low)
    · exact_mod_cast lt_of_sent_lt 26 1000 (by decide) (by decide) (by push_cast; exact low)
  temperature limit listed high := by
    simp only [List.mem_cons, List.not_mem_nil, or_false] at listed
    rcases listed with rfl | rfl
    · exact_mod_cast lt_of_lt_sent 55 100 (by decide) (by decide) (by push_cast; exact high)
    · exact_mod_cast lt_of_lt_sent 65 100 (by decide) (by decide) (by push_cast; exact high)
  wheel := rfl
  faults := rfl

/-- A limit that is broken by more than the resolution of the link is broken after rounding. -/
theorem eased_breaksLess {sequenceCount : Int} {sample : HealthTelemetry} {raw : Bytes}
    (encoded : encodeHealth sequenceCount sample = .ok raw) :
    sample.eased.BreaksLess sample.carried where
  voltage limit _ low := by
    -- What is carried lies within half a unit of the sample on either side.
    have near := (abs_le.mp (carried_near encoded).1).2
    dsimp only [eased] at low
    linarith
  temperature limit _ high := by
    have near := (abs_le.mp (carried_near encoded).2).1
    dsimp only [eased] at high
    linarith
  wheel := rfl
  faults := rfl

end HealthTelemetry

/-- An acknowledgement is no health sample. -/
theorem apid_of_ack {sequenceCount : Int} {ack : CommandAck} {raw : Bytes} {packet : SpacePacket}
    (encoded : encodeAck sequenceCount ack = .ok raw)
    (decoded : decodeSpacePacket raw = .ok packet) : packet.apid ≠ apidHealth := by
  -- The APID of a frame is what it was encoded with.
  rw [encodeAck, bind_eq_ok] at encoded
  obtain ⟨payload, -, framed⟩ := encoded
  rw [decodeSpacePacket_of_encoded framed] at decoded
  cases decoded
  show apidCommandAck ≠ apidHealth
  decide

end Cislunar
