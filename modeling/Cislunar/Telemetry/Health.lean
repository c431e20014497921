import Cislunar.Telemetry.Codec

/-! Deterministic telemetry health and staleness classification rules. -/

namespace Cislunar

/-- `timedelta(hours=24)` in microseconds. -/
def staleAfterUs : Int := secondsUs (24 * 60 * 60)

/-- Ordered names used in processed telemetry results. -/
inductive HealthClassification where
  | nominal
  | warning
  | critical
  deriving DecidableEq, Repr

namespace HealthClassification

/-- `_SEVERITY_RANK`. -/
def severityRank : HealthClassification → Nat
  | nominal => 0
  | warning => 1
  | critical => 2

/-- The persisted text of a classification. -/
def value : HealthClassification → String
  | nominal => "NOMINAL"
  | warning => "WARNING"
  | critical => "CRITICAL"

/-- `max` by severity of two, the first winning a tie as in Python. -/
def worse (first second : HealthClassification) : HealthClassification :=
  if first.severityRank < second.severityRank then second else first

end HealthClassification

/-- Whether a valid sample is more than 24 hours old at receipt. -/
inductive Freshness where
  | current
  | stale
  deriving DecidableEq, Repr

/-- The component decisions and their most severe combined result. -/
structure HealthAssessment where
  classification : HealthClassification
  freshness : Freshness
  temperature : HealthClassification
  voltage : HealthClassification
  faults : HealthClassification
  deriving DecidableEq, Repr

/-- `HealthAssessment.is_stale`. -/
def HealthAssessment.isStale (assessment : HealthAssessment) : Bool :=
  assessment.freshness = .stale

/-- `classify_temperature`. -/
def classifyTemperature (temperatureCentiC : Int) : HealthClassification :=
  if temperatureCentiC < -4000 ∨ temperatureCentiC ≥ 8500 then .critical
  else if temperatureCentiC < -2000 ∨ temperatureCentiC ≥ 6200 then .warning
  else .nominal

/-- `classify_voltage`. -/
def classifyVoltage (voltageMv : Int) : HealthClassification :=
  if voltageMv < 22000 ∨ voltageMv > 34000 then .critical
  else if voltageMv < 26000 ∨ voltageMv > 30000 then .warning
  else .nominal

/-- The fault bits that require a critical classification. -/
def criticalFaults : FaultFlag :=
  Int.lor (Int.lor FaultFlag.temperatureSensorFault FaultFlag.voltageSensorFault)
    FaultFlag.internalPayloadFault

/-- The fault bits that require at least a warning. -/
def warningFaults : FaultFlag :=
  Int.lor (Int.lor FaultFlag.overTemperature FaultFlag.underVoltage) FaultFlag.overVoltage

/-- `classify_faults`. -/
def classifyFaults (faultFlags : FaultFlag) : Except CodecError HealthClassification :=
  if ¬ (0 ≤ faultFlags ∧ faultFlags ≤ 0xFF) ∨
      Int.land faultFlags (Int.lnot definedFaultMask) ≠ 0 then
    .error (.valueError "fault_flags contains a bit not defined by telemetry version 1")
  else if Int.land faultFlags criticalFaults ≠ 0 then .ok .critical
  else if Int.land faultFlags warningFaults ≠ 0 then .ok .warning
  else .ok .nominal

/-- `classify_staleness`. -/
def classifyStaleness (sampleTimestampUs : Int) (groundReceivedAt : Datetime) :
    Except CodecError Freshness := do
  let receivedUs ← timestampUs groundReceivedAt
  return if receivedUs - sampleTimestampUs > staleAfterUs then .stale else .current

/-- `assess_health`: the most severe of temperature, voltage and faults wins. -/
def assessHealth (frame : TelemetryFrame OperatingMode) (groundReceivedAt : Datetime) :
    Except CodecError HealthAssessment := do
  let temperature := classifyTemperature frame.temperatureCentiC
  let voltage := classifyVoltage frame.voltageMv
  let faults ← classifyFaults frame.faultFlags
  let freshness ← classifyStaleness frame.timestampUs groundReceivedAt
  return { classification := (temperature.worse voltage).worse faults, freshness := freshness,
           temperature := temperature, voltage := voltage, faults := faults }

end Cislunar
