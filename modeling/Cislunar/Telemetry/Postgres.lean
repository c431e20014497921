import Cislunar.Foundation.Refusal
import Cislunar.Telemetry.Repository

/-!
The column widths of the telemetry tables, as PostgreSQL enforces them.

A statement with a text that is too long for its column fails with a `DataError`, which is a
`SQLAlchemyError` and no `IntegrityError`. Numbers are not checked here: the ranges of their columns
are stated, and what is decoded and counted stays within them.
-/

namespace Cislunar

open Foundation

/-- A text fits into a `VARCHAR` column of a width. -/
def fitsWidth (width : Nat) (text : String) : Bool :=
  text.toList.length ≤ width

/-- A nullable text fits into a `VARCHAR` column of a width. -/
def fitsNullable (width : Nat) (text : Option String) : Bool :=
  text.all (fitsWidth width)

/-- A number fits into an `INTEGER` column. -/
def fitsInteger (value : Int) : Bool :=
  -2147483648 ≤ value ∧ value ≤ 2147483647

/-- A number fits into a `BIGINT` column. -/
def fitsBigInteger (value : Int) : Bool :=
  -9223372036854775808 ≤ value ∧ value ≤ 9223372036854775807

/-- The ranges of the decoded columns of `logical_telemetry_packets`. -/
def DecodedTelemetryValues.inRange (values : DecodedTelemetryValues) : Bool :=
  fitsInteger values.protocolVersion && fitsInteger values.payloadId &&
    fitsBigInteger values.bootId && fitsBigInteger values.sequenceNumber &&
    fitsBigInteger values.sampleTimestampUs && fitsInteger values.temperatureCentiC &&
    fitsInteger values.voltageMv && fitsInteger values.operatingMode &&
    fitsInteger values.faultFlags

/-- The ranges of `logical_telemetry_packets`. -/
def LogicalTelemetryPacket.inRange (row : LogicalTelemetryPacket) : Bool :=
  row.values.inRange && fitsBigInteger row.missingBefore

/-- The ranges of `telemetry_sequence_states`. -/
def TelemetrySequenceState.inRange (row : TelemetrySequenceState) : Bool :=
  fitsInteger row.payloadId && fitsBigInteger row.bootId &&
    fitsBigInteger row.highWaterSequence && fitsBigInteger row.acceptedPacketCount &&
    fitsBigInteger row.missingPacketCount

/-- The widths of `telemetry_delivery_receipts`. -/
def TelemetryDeliveryReceipt.fits (row : TelemetryDeliveryReceipt) : Bool :=
  fitsWidth 512 row.peerCertificateIdentity && fitsNullable 255 row.contentType &&
    fitsWidth 64 row.bodySha256 && fitsNullable 64 row.logicalPacketId

/-- The widths of `telemetry_request_identities`. -/
def TelemetryRequestIdentity.fits (row : TelemetryRequestIdentity) : Bool :=
  fitsWidth 64 row.bodySha256

/-- The widths of `logical_telemetry_packets`. -/
def LogicalTelemetryPacket.fits (row : LogicalTelemetryPacket) : Bool :=
  fitsWidth 64 row.packetId && fitsWidth 64 row.rawSha256

/-- The widths of `telemetry_sequence_states`. -/
def TelemetrySequenceState.fits (row : TelemetrySequenceState) : Bool :=
  fitsWidth 64 row.lastHighWaterPacketId

/-- The widths of `telemetry_processing_jobs`. -/
def TelemetryProcessingJob.fits (row : TelemetryProcessingJob) : Bool :=
  fitsWidth 64 row.packetId && fitsNullable 255 row.queueMessageId && fitsNullable 255 row.claimedBy

/-- The widths of `processed_telemetry`. -/
def ProcessedTelemetry.fits (row : ProcessedTelemetry) : Bool :=
  fitsWidth 64 row.packetId && fitsWidth 32 row.values.operatingMode &&
    fitsWidth 64 row.values.processorVersion

/-- The widths of `telemetry_audit_events`. -/
def TelemetryAuditEvent.fits (row : TelemetryAuditEvent) : Bool :=
  fitsWidth 64 row.serviceName && fitsWidth 128 row.eventName && fitsWidth 512 row.actorIdentity &&
    fitsWidth 64 row.outcome && fitsNullable 64 row.packetId

namespace Stmt

/-- Every text that a statement writes fits into its column. -/
def fits : Stmt → Bool
  | insertReceipt row | updateReceipt row => row.fits
  | insertIdentity row => row.fits
  | insertPacket row => row.fits
  | insertState row | updateState row => row.fits
  | insertJob row | updateJob row => row.fits
  | insertProcessed row => row.fits
  | insertAudit event => event.fits
  | _ => true

/-- The effect of a statement on a server that enforces the widths. -/
def execPostgres : (stmt : Stmt) → Database → Except StorageError stmt.Reply × Database :=
  refusing fits .database exec

end Stmt

/-- The effect of a call on a server that enforces the widths. -/
def RepoCall.execPostgres (env : Surroundings) (call : RepoCall) (db : Database) :
    Except StorageError call.Reply × Database :=
  serially Stmt.execPostgres (call.program env) db

/-- Databases that calls with any arguments, in any order, lead to on such a server. -/
inductive PostgresReachable : Database → Prop where
  | empty : PostgresReachable .empty
  | call {db : Database} (env : Surroundings) (call : RepoCall) (before : PostgresReachable db) :
      PostgresReachable (call.execPostgres env db).2

end Cislunar
