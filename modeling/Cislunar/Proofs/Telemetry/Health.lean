import Cislunar.Proofs.Telemetry.Codec
import Cislunar.Services.PayloadWorker

/-!
What the time of receipt decides: whether bytes decode, and how old their sample is.

Everything else about a frame and its assessment depends on the bytes alone.
-/

namespace Cislunar

open Foundation

/-- The worse of two classifications ranks as the higher one. -/
theorem severityRank_worse (first second : HealthClassification) :
    (first.worse second).severityRank = max first.severityRank second.severityRank := by
  -- Every pair of classifications is compared.
  cases first <;> cases second <;> rfl

/-- Freshness at an aware time compares the age of the sample with a day. -/
theorem classifyStaleness_utc (sampleTimestampUs : Int) (receivedAt : Time) :
    classifyStaleness sampleTimestampUs (.utc receivedAt) =
      .ok (if receivedAt - sampleTimestampUs > staleAfterUs then .stale else .current) := by
  -- A time in UTC is read as it is, so only the comparison is left.
  have reading : timestampUs (.utc receivedAt) = .ok receivedAt := by
    rw [timestampUs_aware (show (Datetime.utc receivedAt).utcoffset = some 0 from rfl)]
    exact congrArg _ (Int.sub_zero receivedAt)
  rw [classifyStaleness, reading]
  rfl

/-- The engineering values of a frame, in words that do not depend on how they are computed. -/
structure Reproduces (frame : TelemetryFrame OperatingMode) (receivedAt : Time)
    (values : ProcessingResultValues) : Prop where
  temperature : values.temperatureC = frame.temperatureCentiC / 100
  voltage : values.voltageV = frame.voltageMv / 1000
  mode : values.operatingMode = frame.operatingMode.name
  /-- The names stand in the order of the flags. -/
  faultOrder : values.faultNames.Sublist (FaultFlag.members.map (·.2))
  faults : ∀ flag name, (flag, name) ∈ FaultFlag.members →
    (name ∈ values.faultNames ↔ Int.land frame.faultFlags flag ≠ 0)
  /-- The most severe of the three component decisions wins. -/
  classification : ∃ faults, classifyFaults frame.faultFlags = .ok faults ∧
    values.classification.severityRank =
      max (max (classifyTemperature frame.temperatureCentiC).severityRank
        (classifyVoltage frame.voltageMv).severityRank) faults.severityRank
  staleness : values.isStale = true ↔ receivedAt - frame.timestampUs > staleAfterUs
  processor : values.processorVersion = "telemetry-v1"

/-- A fault is named exactly when its bit is set. -/
theorem mem_faultNames {flags flag : FaultFlag} {name : String}
    (member : (flag, name) ∈ FaultFlag.members) :
    name ∈ faultNames flags ↔ Int.land flags flag ≠ 0 := by
  -- No two flags share a name, so the name leads back to the flag.
  have unique : ∀ first ∈ FaultFlag.members, ∀ second ∈ FaultFlag.members,
      first.2 = second.2 → first = second := by decide
  simp only [faultNames, List.mem_map, List.mem_filter, decide_eq_true_eq]
  constructor
  · rintro ⟨other, ⟨among, set⟩, same⟩
    obtain rfl : other = (flag, name) := unique other among _ member same
    exact set
  · intro set
    exact ⟨(flag, name), ⟨member, set⟩, rfl⟩

/-- A successful assessment, component by component. -/
theorem assessHealth_utc {frame : TelemetryFrame OperatingMode} {receivedAt : Time}
    {assessment : HealthAssessment} (assessed : assessHealth frame (.utc receivedAt) = .ok assessment) :
    ∃ faults, classifyFaults frame.faultFlags = .ok faults ∧
      assessment.classification = ((classifyTemperature frame.temperatureCentiC).worse
        (classifyVoltage frame.voltageMv)).worse faults ∧
      assessment.freshness =
        if receivedAt - frame.timestampUs > staleAfterUs then .stale else .current := by
  -- The flags may fail to be classified; the age of a time in UTC never does.
  rw [assessHealth, classifyStaleness_utc] at assessed
  obtain ⟨faults, classified, rest⟩ := bind_eq_ok.mp assessed
  obtain ⟨freshness, same, rest⟩ := bind_eq_ok.mp rest
  cases same
  cases rest
  exact ⟨faults, classified, rfl, rfl⟩

/-- What a worker computes is what the bytes say at their time of receipt. -/
theorem computeResult_eq_ok {rawBody : Bytes} {receivedAt : Time} {values : DecodedTelemetryValues}
    {result : ProcessingResultValues}
    (computed : computeResult rawBody receivedAt values = .ok result) :
    ∃ frame, decodeTelemetry zlibCrc32 rawBody (.utc receivedAt) = .ok frame ∧
      storedValues frame = values ∧ Reproduces frame receivedAt result := by
  -- The worker decodes again, compares with what was stored, and assesses.
  unfold computeResult at computed
  split at computed
  next => cases computed
  next frame decodes =>
    split_ifs at computed with different
    split at computed
    next => cases computed
    next assessment assessed =>
      cases computed
      obtain ⟨faults, classified, combined, freshness⟩ := assessHealth_utc assessed
      refine ⟨frame, decodes, not_not.mp different, rfl, rfl, rfl, ?_, fun flag name => mem_faultNames,
        ⟨faults, classified, ?_⟩, ?_, rfl⟩
      · exact List.filter_sublist.map _
      · show assessment.classification.severityRank = _
        rw [combined, severityRank_worse, severityRank_worse]
      · show assessment.isStale = true ↔ _
        rw [HealthAssessment.isStale, freshness]
        split_ifs with old <;> simp [old]

/-- The two fault masks leave no bit between them. -/
theorem land_undefined {faults : Nat} (byte : faults < 256)
    (reserved : Int.land (faults : Int) reservedFaultMask = 0) :
    Int.land (faults : Int) (Int.lnot definedFaultMask) = 0 := by
  -- All 256 values of the byte are tried.
  revert faults
  decide +kernel

/-- Faults that the decoder lets pass can be classified. -/
theorem classifyFaults_of_valid {frame : TelemetryFrame OperatingMode} (valid : ValidFields frame) :
    ∃ faults, classifyFaults frame.faultFlags = .ok faults := by
  -- The decoder checks the width of the flags and their reserved bits, as the classification does.
  obtain ⟨least, most⟩ := valid.faults
  obtain ⟨bits, same⟩ := Int.eq_ofNat_of_zero_le least
  have defined : Int.land frame.faultFlags (Int.lnot definedFaultMask) = 0 := by
    have reserved := valid.reserved
    rw [same] at most reserved ⊢
    have byte : (bits : Int) ≤ 255 := most
    exact land_undefined (by omega) reserved
  unfold classifyFaults
  rw [if_neg (by simp [least, most, defined])]
  split_ifs <;> exact ⟨_, rfl⟩

/-- Bytes that decode at one time decode alike at every time that allows their sample. -/
theorem decodeTelemetry_at {rawBody : Bytes} {first second : Time}
    {frame : TelemetryFrame OperatingMode}
    (decodes : decodeTelemetry zlibCrc32 rawBody (.utc first) = .ok frame) :
    decodeTelemetry zlibCrc32 rawBody (.utc second) = .ok frame ↔
      frame.timestampUs ≤ second + maxFutureSkewUs := by
  obtain ⟨⟨valid, _⟩, packed⟩ := decodeTelemetry_eq_ok.mp decodes
  -- Only the comparison with the receipt time refers to the time.
  have receivable : requireReceivable frame.timestampUs (some (.utc second)) = .ok () ↔
      frame.timestampUs ≤ second + maxFutureSkewUs := by
    rw [requireReceivable_aware (show (Datetime.utc second).utcoffset = some 0 from rfl)]
    show frame.timestampUs ≤ second - 0 + _ ↔ _
    rw [Int.sub_zero]
  rw [decodeTelemetry_eq_ok, ← receivable]
  exact ⟨fun both => both.1.2, fun allowed => ⟨⟨valid, allowed⟩, packed⟩⟩

/-- A decoded frame can be assessed. -/
theorem assessHealth_of_decoded {rawBody : Bytes} {decodedAt receivedAt : Time}
    {frame : TelemetryFrame OperatingMode}
    (decodes : decodeTelemetry zlibCrc32 rawBody (.utc decodedAt) = .ok frame) :
    ∃ assessment, assessHealth frame (.utc receivedAt) = .ok assessment := by
  -- A decoded frame has valid fault flags, and a receive time in UTC can be read.
  obtain ⟨⟨valid, _⟩, _⟩ := decodeTelemetry_eq_ok.mp decodes
  obtain ⟨faults, classified⟩ := classifyFaults_of_valid valid
  rw [assessHealth, classified, classifyStaleness_utc]
  exact ⟨_, rfl⟩

end Cislunar
