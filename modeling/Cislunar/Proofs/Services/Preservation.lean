import Cislunar.Foundation.Runs
import Cislunar.Proofs.Services.Gateway
import Cislunar.Proofs.Services.Identifiers
import Cislunar.Proofs.Telemetry.Columns
import Cislunar.Proofs.Telemetry.Postgres
import Cislunar.Proofs.Telemetry.Sequence

/-!
Which deliveries leave evidence while PostgreSQL is reachable.

Only one text of a request is bounded by a column and chosen by the vendor: the `Content-Type`. A
delivery with one that is too long is refused by the database unless it is the repetition of a request,
which adds no receipt. No number is refused: what is decoded and counted fits its column.
-/

namespace Cislunar

open Foundation Foundation.Prog

/-- What a frame decodes to fits the columns of its packet. -/
theorem telemetryValues_inRange {raw : Bytes} {receivedAt : Time}
    {frame : TelemetryFrame OperatingMode}
    (decoded : decodeTelemetry zlibCrc32 raw (.utc receivedAt) = .ok frame)
    (early : maxFutureSkewUs + receivedAt ≤ 9223372036854775807) :
    (telemetryValues frame).inRange = true := by
  -- The rules bound every field, and the sample time by that of the receipt.
  obtain ⟨⟨valid, receivable⟩, -⟩ := decodeTelemetry_eq_ok.mp decoded
  obtain ⟨version, payload, boot, sequence, width, -, temperature, voltage, -, faults, -⟩ := valid
  have flags : (0 : Int) ≤ frame.faultFlags ∧ (255 : Int) ≥ frame.faultFlags := faults
  have sampled : frame.timestampUs ≤ receivedAt - 0 + maxFutureSkewUs :=
    (requireReceivable_aware rfl).mp receivable
  have mode : -2147483648 ≤ frame.operatingMode.toInt ∧
      frame.operatingMode.toInt ≤ 2147483647 := by
    cases frame.operatingMode <;> decide
  simp only [protocolVersion, supportedPayloadId, uint32Max, minTemperatureCentiC,
    maxTemperatureCentiC, minVoltageMv, maxVoltageMv] at *
  simp only [DecodedTelemetryValues.inRange, telemetryValues, Bool.and_eq_true, fitsInteger_iff,
    fitsBigInteger_iff]
  omega

/-- In stores that agree, every number of the packets and states fits its column. -/
theorem CrossStore.inRange {ground : Ground} (cross : CrossStore ground)
    (early : maxFutureSkewUs + ground.clock ≤ 9223372036854775807) :
    (∀ packet ∈ ground.database.packets, packet.inRange = true) ∧
      ∀ state ∈ ground.database.states, state.inRange = true := by
  refine cross.reachable.inRange fun packet stored => ?_
  -- The values of a packet were decoded at a time that has passed.
  obtain ⟨_, -, time, frame, passed, decodes, same⟩ := cross.decoded packet stored
  rw [← same]
  exact telemetryValues_inRange decodes (le_trans (Int.add_le_add_left passed _) early)

section Calls
variable {env : Surroundings} {db : Database}

/-- A statement whose row fits is executed. -/
theorem execPostgres_of_fits {stmt : Stmt} (accepted : stmt.fits = true) :
    stmt.execPostgres db = stmt.exec db :=
  if_pos accepted

/-- The widths make no difference to a call of one transaction whose statements all fit. -/
theorem Fit.serially_eq {α : Type} {body : Txn α} (fit : Fit body) (fitting : db.Fits) :
    serially Stmt.execPostgres (transaction body) db =
      serially Stmt.exec (transaction body) db := by
  -- No statement of a fitting body is refused.
  rw [serially_transaction, serially_transaction, atomically_congr (fit.runAlone_eq fitting)]

/-- A delivery is the repetition of one that is stored. -/
def Delivery.Repeats (delivery : Delivery) (db : Database) : Prop :=
  ∃ owner ∈ db.identities, delivery.canonicalRequestId = some owner.requestId ∧
    ∃ original ∈ db.receipts, original.receiptId = owner.firstReceiptId ∧
      original.rawBody = delivery.rawBody

/-- What a request identifier that is owned leads to. -/
theorem Delivery.Repeats.found {delivery : Delivery} (repeats : delivery.Repeats db)
    (ledger : Ledger db) : ∃ owner original, delivery.canonicalRequestId = some owner.requestId ∧
      db.identities.get? owner.requestId = some owner ∧
      db.receipts.get? owner.firstReceiptId = some original ∧
      owner.bodySha256 = sha256Hex delivery.rawBody ∧ original.rawBody = delivery.rawBody := by
  obtain ⟨owner, owned, named, original, stored, link, same⟩ := repeats
  -- An owner has one receipt, so the ledger speaks of the receipt that the repetition names.
  obtain ⟨receipt, present, key, -, digest⟩ := ledger.identities owner owned
  obtain rfl : receipt = original := Table.eq_of_key present stored (key.trans link.symm)
  refine ⟨owner, receipt, named, Table.get?_eq_some.mpr ⟨owned, rfl⟩,
    Table.get?_eq_some.mpr ⟨stored, link⟩, ?_, same⟩
  -- The digest of the owner is that of its receipt, whose body is the delivered one.
  rw [← digest, (ledger.receipts receipt stored).digest, same]

section Record
variable {delivery : Delivery} (short : delivery.rawBody.length ≤ maxEvidenceBodyBytes)
  (identified : delivery.peerCertificateIdentity.isEmpty = false)
include short identified

/-- A valid delivery is recorded in up to two transactions. -/
theorem recordDelivery_program :
    (RepoCall.recordDelivery delivery none).program env =
      retryOnce StorageError.isIntegrity fun attempt =>
        transaction (recordDeliveryTransaction delivery (env.uuid4 attempt)) := by
  -- Both checks of the arguments pass.
  rw [RepoCall.program, recordDelivery, if_neg (Nat.not_lt.mpr short),
    if_neg (by simp [identified])]
  rfl

/-- A delivery whose texts fit is recorded as without widths. -/
theorem recordDelivery_fits (fitting : db.Fits)
    (peer : fitsWidth 512 delivery.peerCertificateIdentity = true)
    (header : fitsNullable 255 delivery.contentType = true) :
    (RepoCall.recordDelivery delivery none).execPostgres env db =
      (RepoCall.recordDelivery delivery none).exec env db := by
  -- Both executions retry one transaction, whose statements all fit in either attempt.
  rw [RepoCall.execPostgres, RepoCall.exec, recordDelivery_program short identified]
  exact serially_retryOnce_congr fun index => (recordDelivery_fit peer header _).runAlone_eq fitting

/-- A repetition is answered with the stored receipt, whatever its texts are. -/
theorem recordDelivery_repeated (ledger : Ledger db) (repeats : delivery.Repeats db) :
    ∃ result, (RepoCall.recordDelivery delivery none).execPostgres env db = (.ok result, db) := by
  -- A repetition makes two reads and no write, so no width is ever compared.
  obtain ⟨owner, original, named, owned, stored, digest, same⟩ := repeats.found ledger
  have run : ∀ receiptId, (recordDeliveryTransaction delivery receiptId).runAlone Stmt.execPostgres
      db = (.ok (deliveryResult original true false), db) := by
    intro receiptId
    rw [recordDeliveryTransaction, named]
    dsimp only
    rw [sql, runAlone_call_bind_ok Stmt.execPostgres
      (show (Stmt.selectIdentity owner.requestId).execPostgres db = (.ok (some owner), db) by
        rw [execPostgres_of_fits rfl, Stmt.exec, owned])]
    dsimp only
    rw [sql, runAlone_call_bind_ok Stmt.execPostgres
      (show (Stmt.selectReceipt owner.firstReceiptId false).execPostgres db =
          (.ok (some original), db) by
        rw [execPostgres_of_fits rfl, Stmt.exec, stored])]
    dsimp only
    rw [if_pos ⟨digest, same⟩]
    rfl
  refine ⟨deliveryResult original true false, ?_⟩
  -- The first attempt already succeeds.
  rw [RepoCall.execPostgres, recordDelivery_program short identified, serially_retryOnce,
    (atomically_eq_ok _).mpr (run _)]

/-- A new delivery with a header that is too long is refused. -/
theorem recordDelivery_tooLong (ledger : Ledger db)
    (long : fitsNullable 255 delivery.contentType = false) (new : ¬delivery.Repeats db) :
    (RepoCall.recordDelivery delivery none).execPostgres env db = (.error .database, db) := by
  -- Every path to a new receipt ends in the same insertion, which the width refuses.
  have refused : ∀ receiptId identity firstReceipt,
      (insertDelivery delivery receiptId identity firstReceipt).runAlone Stmt.execPostgres db =
        (.error .database, db) := by
    intro receiptId identity firstReceipt
    have row : (delivery.receipt receiptId firstReceipt).fits = false := by
      simp [TelemetryDeliveryReceipt.fits, Delivery.receipt, long]
    -- The receipt is the first row that is inserted, so the audit event is never reached.
    rw [insertDelivery, sql]
    exact runAlone_call_bind_error Stmt.execPostgres (if_neg (by simp [Stmt.fits, row]))
  have run : ∀ receiptId, (recordDeliveryTransaction delivery receiptId).runAlone Stmt.execPostgres
      db = (.error .database, db) := by
    intro receiptId
    rw [recordDeliveryTransaction]
    -- The reads decide only under which identity the receipt would stand.
    cases named : delivery.canonicalRequestId with
    | none => exact refused ..
    | some requestId =>
      dsimp only
      rw [sql, runAlone_call_bind_ok Stmt.execPostgres
        (show (Stmt.selectIdentity requestId).execPostgres db =
            (.ok (db.identities.get? requestId), db) from execPostgres_of_fits rfl)]
      cases owned : db.identities.get? requestId with
      | none => exact refused ..
      | some owner =>
        obtain ⟨among, rfl⟩ := Table.get?_eq_some.mp owned
        dsimp only
        rw [sql, runAlone_call_bind_ok Stmt.execPostgres
          (show (Stmt.selectReceipt owner.firstReceiptId false).execPostgres db =
              (.ok (db.receipts.get? owner.firstReceiptId), db) from execPostgres_of_fits rfl)]
        cases stored : db.receipts.get? owner.firstReceiptId with
        | none =>
          -- An owner always has its receipt.
          obtain ⟨receipt, present, key, -⟩ := ledger.identities owner among
          exact absurd key (Table.get?_eq_none.mp stored receipt present)
        | some first =>
          obtain ⟨present, key⟩ := Table.get?_eq_some.mp stored
          dsimp only
          -- The same body under the same identifier would be a repetition.
          rw [if_neg fun same => new ⟨owner, among, named, first, present, key, same.2⟩]
          exact refused ..
  -- An error of the server is not an integrity error, so there is no second attempt.
  rw [RepoCall.execPostgres, recordDelivery_program short identified, serially_retryOnce,
    (atomically_eq_error _).mpr ⟨congrArg Prod.fst (run _), rfl⟩]
  rfl

end Record

end Calls

/-- An identifier that neither a receipt nor a job has. -/
def Database.Unused (db : Database) (id : UUID) : Prop :=
  db.receipts.get? id = none ∧ db.jobs.get? id = none

/--
The effect of a request while PostgreSQL is reachable and enforces its widths; every call reads its
rows anew.
-/
def Ground.performPostgres (uuid4 : Nat → UUID) (fault : Fault) (ground : Ground) :
    (request : Request) → Except Failure request.Reply × Ground
  | .repository call _ =>
    let outcome := call.execPostgres ⟨uuid4, ground.clock⟩ ground.database
    (outcome.1.mapError .storage, { ground with database := outcome.2 })
  | .clock => ground.perform uuid4 fault .clock
  | .queue call => ground.perform uuid4 fault (.queue call)

/-- Other processes make any repository calls, and the queue and the clock change in any way. -/
def Ground.Meddles (before after : Ground) : Prop :=
  Relation.ReflTransGen (fun db next => ∃ env call, next = (RepoCall.execPostgres env call db).2)
    before.database after.database

/-- A request of a handler while PostgreSQL is reachable; others may have acted before it. -/
def Ground.PostgresServes (request : Request) (before : Ground)
    (reply : Except Failure request.Reply) (after : Ground) : Prop :=
  ∃ between uuid4 fault, Meddles before between ∧
    (∀ attempt, between.database.Unused (uuid4 attempt)) ∧
    between.performPostgres uuid4 fault request = (reply, after)

/-- The database has a receipt with a body. -/
def Database.HoldsBody (db : Database) (rawBody : Bytes) : Prop :=
  ∃ receipt ∈ db.receipts, receipt.rawBody = rawBody

/-- A reachable state with a receipt of a body. -/
structure Ground.Holding (rawBody : Bytes) (ground : Ground) : Prop where
  reachable : PostgresReachable ground.database
  stored : ground.database.HoldsBody rawBody

/-- Rows develop whatever a call does. -/
theorem execPostgres_extends (env : Surroundings) (call : RepoCall) (db : Database) :
    Extends db (call.execPostgres env db).2 := by
  -- PostgreSQL either performs the call or refuses it and changes nothing.
  rcases call.execPostgres_cases env db with same | same
  · rw [same]
    exact (call.exec_effect env db).extends
  · rw [same]
    exact .refl db

/-- A stored body stays. -/
theorem Extends.holdsBody {db after : Database} (grows : Extends db after) {rawBody : Bytes}
    (stored : db.HoldsBody rawBody) : after.HoldsBody rawBody := by
  -- The receipt of the body develops and keeps its bytes.
  obtain ⟨receipt, member, same⟩ := stored
  obtain ⟨later, among, develops⟩ := grows.receipts receipt member
  exact ⟨later, among, develops.rawBody.trans same⟩

/-- What others do leads to reachable databases in which the rows have developed. -/
theorem meddled_sound {db after : Database} (reachable : PostgresReachable db)
    (meddled : Relation.ReflTransGen
      (fun db next => ∃ env call, next = (RepoCall.execPostgres env call db).2) db after) :
    PostgresReachable after ∧ Extends db after := by
  -- By induction on the calls of the others.
  induction meddled with
  | refl => exact ⟨reachable, .refl _⟩
  | tail _ step ih =>
    obtain ⟨env, call, rfl⟩ := step
    exact ⟨.call env call ih.1, ih.2.trans (execPostgres_extends env call _)⟩

/-- A request of a handler leads to a reachable database in which the rows have developed. -/
theorem Ground.PostgresServes.sound {request : Request} {before after : Ground}
    {reply : Except Failure request.Reply} (served : PostgresServes request before reply after)
    (reachable : PostgresReachable before.database) :
    PostgresReachable after.database ∧ Extends before.database after.database := by
  obtain ⟨between, uuid4, fault, meddles, -, performed⟩ := served
  obtain ⟨still, grows⟩ := meddled_sound reachable meddles
  -- Only a repository call touches the database.
  cases request with
  | clock =>
    cases performed
    exact ⟨still, grows⟩
  | queue call =>
    replace performed : between.perform uuid4 fault (.queue call) = (reply, after) := performed
    rcases (perform_queue performed).1 with rfl | rfl
    · exact ⟨still, grows⟩
    · exact ⟨still, grows⟩
  | repository call held =>
    cases performed
    exact ⟨.call _ call still, grows.trans (execPostgres_extends _ call _)⟩

/-- The answer to a vendor when PostgreSQL cannot be reached. -/
def postgresUnavailable : Response :=
  ⟨503, [("status", .text "UNAVAILABLE"), ("reason", .text "POSTGRESQL_UNAVAILABLE")]⟩

/-- The numbers of a decoded frame. -/
structure DecodedTelemetryValues.Nameable (values : DecodedTelemetryValues) : Prop where
  numbers : PacketNumbers values.payloadId values.bootId values.sequenceNumber
  boot : 0 < values.bootId

/-- The requests that a handler makes of a delivery that is recorded. -/
def Request.AfterRecord : Request → Prop
  | .clock | .queue _ => True
  | .repository call _ =>
    match call with
    | .getDelivery _ | .getJobForPacket _ => True
    | .rejectDelivery _ _ _ actorIdentity => actorIdentity = "ground-api"
    | .acceptPacketAndCreateJob _ values maxAttempts actorIdentity =>
      values.Nameable ∧ 0 < maxAttempts ∧ actorIdentity = "ground-api"
    | .markJobQueued jobId queueMessageId actorIdentity =>
      queueMessageId = jobId.str ∧ actorIdentity = "ground-api"
    | _ => False

/-- The part of a handler that no failing PostgreSQL stops. -/
def recordedRole : Role Failure Request Request.Reply Unit where
  permits _ request := request.AfterRecord
  moves _ _ reply _ := ∀ failure, reply = .error failure → failure.isSqlAlchemy = false

/-- An outcome that does not tell of a failing PostgreSQL. -/
def Untroubled (outcome : Except Failure Response) : Prop :=
  (∀ failure, outcome = .error failure → failure.isSqlAlchemy = false) ∧
    ∀ response, outcome = .ok response → response ≠ postgresUnavailable

/-- An outcome that is no error of PostgreSQL. -/
abbrev NoSqlError {α : Type} (outcome : Except Failure α) : Prop :=
  ∀ failure, outcome = .error failure → failure.isSqlAlchemy = false

namespace NoSqlError

/-- A result is no error. -/
theorem ok {α : Type} {value : α} : NoSqlError (.ok value) := by
  intro failure same
  cases same

/-- An error of another kind. -/
theorem error {α : Type} {failure : Failure} (other : failure.isSqlAlchemy = false) :
    NoSqlError (.error failure : Except Failure α) := by
  intro _ same
  cases same
  exact other

end NoSqlError

/-- A part of a handler makes its requests and ends in no error of PostgreSQL. -/
abbrev PlaysPart {α : Type} (service : Service α) : Prop :=
  Plays recordedRole (fun outcome _ => NoSqlError outcome) service ()

/-- A handler makes its requests and ends untroubled. -/
abbrev PlaysRecorded (service : Service Response) : Prop :=
  Plays recordedRole (fun outcome _ => Untroubled outcome) service ()

namespace PlaysRecorded

/-- An answer with another status. -/
theorem done {response : Response} (status : response.statusCode ≠ 503) :
    PlaysRecorded (.done response) := by
  refine ⟨NoSqlError.ok, fun answer same unavailable => ?_⟩
  cases same
  exact status (congrArg Response.statusCode unavailable)

/-- An exception of another kind. -/
theorem raise {failure : Failure} (other : failure.isSqlAlchemy = false) :
    PlaysRecorded (.raise failure) := by
  refine ⟨NoSqlError.error other, fun answer same => ?_⟩
  cases same

/-- A part whose errors are not those of PostgreSQL, and what follows it. -/
theorem bind {α : Type} {service : Service α} {after : α → Service Response}
    (first : PlaysPart service)
    (second : ∀ value, PlaysRecorded (after value)) : PlaysRecorded (service >>= after) := by
  -- An error of the head ends the program; a value is handed to the rest.
  refine Plays.bind (first.weaken fun outcome _ fine => ?_)
  cases outcome with
  | ok value => exact second value
  | error failure => exact PlaysRecorded.raise (fine failure rfl)

end PlaysRecorded

/-- A request that a handler may make. -/
theorem plays_call {request : Request} (permitted : request.AfterRecord) :
    PlaysPart (Prog.call request) :=
  .call permitted fun _ _ moved => moved

/-- One part after another. -/
theorem PlaysPart.bind {α β : Type} {service : Service α} {after : α → Service β}
    (first : PlaysPart service) (second : ∀ value, PlaysPart (after value)) :
    PlaysPart (service >>= after) := by
  -- An error of the head ends the program; a value is handed to the rest.
  refine Plays.bind (first.weaken fun outcome _ fine => ?_)
  cases outcome with
  | ok value => exact second value
  | error failure => exact NoSqlError.error (fine failure rfl)

/-- Queueing a job tells of no failing PostgreSQL. -/
theorem queueOne_plays (jobId : UUID) (packetId : String) (held : Option TelemetryProcessingJob) :
    PlaysPart (queueOne jobId packetId held) := by
  -- Without a message it raises, and otherwise it enqueues and marks.
  rw [queueOne]
  split
  next => exact NoSqlError.error rfl
  next message _ =>
    have enqueues : (Request.queue (.enqueue message)).AfterRecord := trivial
    exact .bind (plays_call enqueues) fun _ => plays_call ⟨rfl, rfl⟩

/-- The answer to an acceptance tells of no failing PostgreSQL. -/
theorem answerAcceptance_plays (accepted : PacketAcceptanceResult) :
    PlaysRecorded (answerAcceptance accepted) := by
  -- Only a failure of the queue can be raised here.
  rw [answerAcceptance]
  dsimp only
  split_ifs
  · exact .done (by simp)
  · split
    · exact .bind (queueOne_plays ..) fun _ => .done (by simp)
    · exact .done (by simp)
  · split
    · exact .bind (queueOne_plays ..) fun _ => .done (by simp)
    · exact .raise rfl

/-- Validating a delivery tells of no failing PostgreSQL. -/
theorem validateDelivery_plays (settings : GroundSettings) (receiptId : UUID) (rawBody : Bytes)
    (receivedAt : Time) (existing : Option TelemetryDeliveryReceipt) :
    PlaysRecorded (validateDelivery settings receiptId rawBody receivedAt existing) := by
  rw [validateDelivery]
  split
  next => exact .bind (plays_call rfl) fun _ => .done (by simp)
  next => exact .raise rfl
  next frame decodes =>
    -- A decoded frame has its numbers in range, so its packet can be named.
    obtain ⟨⟨valid, -⟩, -⟩ := decodeTelemetry_eq_ok.mp decodes
    have numbers : (telemetryValues frame).Nameable := by
      refine ⟨⟨?_, ⟨by show 0 ≤ frame.bootId; linarith [valid.boot.1], valid.boot.2⟩,
        valid.sequence⟩, by show 0 < frame.bootId; linarith [valid.boot.1]⟩
      show 1 ≤ frame.payloadId ∧ frame.payloadId ≤ 99
      rw [valid.payload]
      decide
    exact .bind (plays_call ⟨numbers, settings.attemptLimit, rfl⟩) fun _ =>
      answerAcceptance_plays _

/-- The part of a handler after the record of a delivery tells of no failing PostgreSQL. -/
theorem checkDelivery_plays (settings : GroundSettings) (request : VendorRequest) (rawBody : Bytes)
    (receivedAt : Time) (receiptId : UUID) (existing : Option TelemetryDeliveryReceipt) :
    PlaysRecorded (checkDelivery settings request rawBody receivedAt receiptId existing) := by
  have header : ∀ reason, PlaysRecorded (rejectHeader receiptId reason existing) := fun reason =>
    .bind (plays_call rfl) fun _ => .done (by simp)
  unfold checkDelivery
  split_ifs
  · exact header _
  · exact header _
  · split
    -- The receipt was accepted before, so its job is queued again.
    · rw [requeueReceipt]
      have reads : ∀ packetId, (Request.repository (.getJobForPacket packetId) {}).AfterRecord :=
        fun _ => trivial
      refine .bind (plays_call (reads _)) fun found => ?_
      cases found with
      | none => exact .raise rfl
      | some job =>
        refine .bind (queueOne_plays ..) fun transitioned => .done ?_
        cases transitioned <;> simp
    · exact validateDelivery_plays ..

/-- The name of the gateway fits its column. -/
theorem fitsWidth_groundApi : fitsWidth 512 "ground-api" = true := by
  simp [fitsWidth]

/-- The text of an identifier fits its column. -/
theorem fitsWidth_str (id : UUID) : fitsWidth 255 id.str = true := by
  -- A uuid is written in 36 characters.
  rw [fitsWidth, UUID.str, String.toList_ofList, id.toText_length]
  rfl

/-- The identifier of a packet fits its column. -/
theorem DecodedTelemetryValues.Nameable.fits {values : DecodedTelemetryValues}
    (nameable : values.Nameable) : fitsWidth 64 values.packetId = true := by
  have numbers := nameable.numbers
  rw [fitsWidth, DecodedTelemetryValues.packetId,
    packetIdText_length ⟨numbers.naturals.1, numbers.payload.2⟩ numbers.boot numbers.sequence]
  rfl

/-- An acceptance of nameable values makes the same statements without widths. -/
theorem acceptPacket_postgres {env : Surroundings} {db : Database} (fitting : db.Fits)
    {values : DecodedTelemetryValues} (nameable : values.Nameable) {maxAttempts : Int}
    (attempts : 0 < maxAttempts) (receiptId : UUID) :
    (RepoCall.acceptPacketAndCreateJob receiptId values maxAttempts "ground-api").execPostgres env
        db =
      (RepoCall.acceptPacketAndCreateJob receiptId values maxAttempts "ground-api").exec env db := by
  -- The guards pass, and every statement of both attempts fits its columns.
  have range : 0 ≤ values.sequenceNumber ∧ values.sequenceNumber ≤ maxUint32 :=
    nameable.numbers.sequence
  have boot := nameable.boot
  rw [RepoCall.execPostgres, RepoCall.exec, RepoCall.program, acceptPacketAndCreateJob,
    if_neg (not_not.mpr range), if_neg (by omega), if_neg (by simpa using attempts)]
  exact serially_retryOnce_congr fun index =>
    (acceptPacket_fit nameable.fits fitsWidth_groundApi receiptId _).runAlone_eq fitting

/-- An acceptance of nameable values meets no constraint. -/
theorem AcceptOutcome.ne_integrity {db : Database} {receiptId jobId : UUID}
    {values : DecodedTelemetryValues} {options : AcceptanceOptions}
    {outcome : Except StorageError PacketAcceptanceResult × Database}
    (happened : AcceptOutcome db receiptId values jobId options outcome) (reachable : Reachable db)
    (nameable : values.Nameable) (attempts : 0 < options.maxAttempts)
    (fresh : db.jobs.get? jobId = none) {error : StorageError} (failed : outcome.1 = .error error) :
    error ≠ .integrity ∧ error ≠ .database := by
  cases happened with
  | missing | refused =>
    cases failed
    simp
  | replayed => cases failed
  | @settled receipt found status _ settles =>
    cases settles with
    | duplicated | conflicted | stateConflicted | accepted => cases failed
    | integrity unused tracked position refused =>
      -- The rows of a reachable database admit a new packet, so its insertion cannot be refused.
      obtain ⟨packet, state, job⟩ := reachable.ledger.admits_new reachable.accounting
        (Table.get?_eq_some.mp found).1 status
        ⟨by linarith [nameable.numbers.payload.1], nameable.boot⟩ nameable.numbers.sequence unused
        fresh attempts _ _
      exact absurd ⟨packet, fun first => state (tracked.trans first), job⟩ refused

/-- No call that a handler makes after the record fails because of PostgreSQL. -/
theorem afterRecord_error {env : Surroundings} {db : Database} {call : RepoCall}
    {held : Held} (permitted : (Request.repository call held).AfterRecord) (reachable : PostgresReachable db)
    (unused : ∀ attempt, db.Unused (env.uuid4 attempt)) {error : StorageError}
    (failed : (call.execPostgres env db).1 = .error error) :
    error ≠ .integrity ∧ error ≠ .database := by
  -- The widths change nothing for a call whose texts are the gateway's own, so its outcome is the
  -- one without them.
  obtain ⟨legal, fitting⟩ := reachable.sound
  -- A constraint is met by none of them; the requests that a handler never makes are not permitted.
  cases call with
  | getDelivery receiptId =>
    rw [RepoCall.execPostgres, RepoCall.program, getDelivery, (Fit.sql rfl).serially_eq fitting]
      at failed
    cases failed
  | getJobForPacket packetId =>
    rw [RepoCall.execPostgres, RepoCall.program, getJobForPacket, (Fit.sql rfl).serially_eq fitting]
      at failed
    cases failed
  | rejectDelivery receiptId reason parsedIdentifiers actorIdentity =>
    obtain rfl : actorIdentity = "ground-api" := permitted
    rw [RepoCall.execPostgres, RepoCall.program, rejectDelivery,
      (rejectDelivery_fit fitsWidth_groundApi ..).serially_eq fitting, serially_transaction] at failed
    have happened := rejectDelivery_outcome receiptId reason parsedIdentifiers "ground-api" db
    generalize atomically Stmt.exec _ db = outcome at happened failed
    cases happened with
    | missing | refused =>
      cases failed
      simp
    | repeated | rejected => cases failed
  | markJobQueued jobId queueMessageId actorIdentity =>
    obtain ⟨rfl, rfl⟩ : queueMessageId = jobId.str ∧ actorIdentity = "ground-api" := permitted
    rw [RepoCall.execPostgres, RepoCall.program, markJobQueued,
      (markJobQueued_fit (fitsWidth_str jobId) fitsWidth_groundApi jobId).serially_eq fitting,
      serially_transaction] at failed
    have happened := markJobQueued_outcome jobId jobId.str "ground-api" db
    generalize atomically Stmt.exec _ db = outcome at happened failed
    cases happened with
    | missing | renamed | refused =>
      cases failed
      simp
    | repeated | queued => cases failed
  | acceptPacketAndCreateJob receiptId values maxAttempts actorIdentity =>
    obtain ⟨nameable, attempts, rfl⟩ : values.Nameable ∧ 0 < maxAttempts ∧
      actorIdentity = "ground-api" := permitted
    rw [acceptPacket_postgres fitting nameable attempts] at failed
    obtain ⟨attempt, happened⟩ := acceptPacketAndCreateJob_outcome receiptId
      { maxAttempts := maxAttempts, actorIdentity := "ground-api", now := env.now } env.uuid4 db
      nameable.numbers.sequence nameable.boot attempts
    exact happened.ne_integrity legal nameable attempts (unused attempt).2 failed
  | recordDelivery | claimProcessingJob | completeProcessingJob | failProcessingAttempt
  | recordAuditEvent | pendingQueueJobs | recoverableQueueJobs | getPacket | getProcessed | getJob
  | listAuditEvents | processingQueueDepth => exact permitted.elim

/-- What a handler asks for after the record leads on, and no error is that of PostgreSQL. -/
theorem recorded_moves {rawBody : Bytes} {request : Request} {before after : Ground}
    {reply : Except Failure request.Reply} (holding : before.Holding rawBody)
    (permitted : request.AfterRecord) (served : Ground.PostgresServes request before reply after) :
    after.Holding rawBody ∧ ∃ later, recordedRole.moves () request reply later := by
  -- The invariant of the run is kept by any request, so only the errors are left to look at.
  obtain ⟨reachable, grows⟩ := served.sound holding.reachable
  refine ⟨⟨reachable, grows.holdsBody holding.stored⟩, (), ?_⟩
  intro failure same
  obtain ⟨between, uuid4, fault, meddles, unused, performed⟩ := served
  obtain ⟨still, -⟩ := meddled_sound holding.reachable meddles
  -- The clock cannot fail; Redis fails with errors of its own; the repository only with those that
  -- the calls after the record have.
  cases request with
  | clock =>
    cases performed
    cases same
  | queue call =>
    replace performed : between.perform uuid4 fault (.queue call) = (reply, after) := performed
    rcases (Ground.perform_queue performed).2 with unreachable | ⟨-, answered⟩
    · cases unreachable.symm.trans same
      rfl
    · obtain ⟨error, -, rfl⟩ := of_mapError_eq_error (answered.symm.trans same)
      rfl
  | repository call held =>
    cases performed
    obtain ⟨error, failed, rfl⟩ := of_mapError_eq_error same
    obtain ⟨constraint, server⟩ := afterRecord_error permitted still unused failed
    cases error with
    | integrity => exact absurd rfl constraint
    | database => exact absurd rfl server
    | valueError | deliveryNotFound | invalidDeliveryState | processingJobNotFound
    | processingResultConflict | storage => rfl

/-- A request is the repetition of one whose delivery is stored. -/
def VendorRequest.Repeats (request : VendorRequest) (db : Database) : Prop :=
  ∃ owner ∈ db.identities, canonicalUuid4 request.requestId = some owner.requestId ∧
    ∃ original ∈ db.receipts, original.receiptId = owner.firstReceiptId ∧
      original.rawBody = request.body

/-- The request brings no header that is too long, or adds no receipt. -/
def VendorRequest.Recordable (request : VendorRequest) (db : Database) : Prop :=
  fitsNullable 255 request.contentType = true ∨ request.Repeats db

/-- A request stays recordable. -/
theorem VendorRequest.Recordable.grow {request : VendorRequest} {db after : Database}
    (recordable : request.Recordable db) (grows : Extends db after) :
    request.Recordable after := by
  -- An identity that was recorded stays with its owner and its body.
  rcases recordable with header | ⟨owner, owned, named, original, stored, link, same⟩
  · exact Or.inl header
  · obtain ⟨later, among, develops⟩ := grows.receipts original stored
    exact Or.inr ⟨owner, grows.identities owner owned, named, later, among,
      develops.receiptId.trans link, develops.rawBody.trans same⟩

section Handler
variable {settings : GroundSettings} {request : VendorRequest}

/-- A recordable delivery is recorded. -/
theorem recordDelivery_postgres (env : Surroundings) {db : Database}
    (reachable : PostgresReachable db) (recordable : request.Recordable db)
    (unused : ∀ attempt, db.Unused (env.uuid4 attempt))
    (short : request.body.length ≤ maxEvidenceBodyBytes) (receivedAt : Time) :
    ∃ result after, (RepoCall.recordDelivery (request.delivery request.body receivedAt)
      none).execPostgres env db = (.ok result, after) ∧ after.HoldsBody request.body := by
  -- A header that fits makes the widths irrelevant; a repetition writes no row that they could
  -- refuse.
  obtain ⟨legal, fitting⟩ := reachable.sound
  have identified : vendorIdentity.isEmpty = false := by decide
  have peer : fitsWidth 512 vendorIdentity = true := by simp [fitsWidth, vendorIdentity]
  rcases recordable with header | repeats
  · rw [recordDelivery_fits short identified fitting peer header]
    obtain ⟨attempt, happened⟩ := recordDelivery_valid
      (request.delivery request.body receivedAt) none env.uuid4 db short identified
    change RecordOutcome db (request.delivery request.body receivedAt) (env.uuid4 attempt)
      ((RepoCall.recordDelivery (request.delivery request.body receivedAt) none).exec env db)
      at happened
    generalize (RepoCall.recordDelivery _ none).exec env db = outcome at happened
    -- Every outcome without an error leaves a receipt of the body; the others need a used
    -- identifier or an owner without its receipt.
    cases happened with
    | anonymous unnamed admitted =>
      exact ⟨_, _, rfl, _, (Table.mem_insert admitted.1).mpr (Or.inr rfl), rfl⟩
    | first named admitted unowned =>
      exact ⟨_, _, rfl, _, (Table.mem_insert admitted.1).mpr (Or.inr rfl), rfl⟩
    | replay named owned present link digest same => exact ⟨_, _, rfl, _, present, same⟩
    | reused named owned present link different admitted =>
      exact ⟨_, _, rfl, _, (Table.mem_insert admitted.1).mpr (Or.inr rfl), rfl⟩
    | integrity unmatched refused =>
      refine absurd ⟨(unused attempt).1, short, fun owner owned same => ?_⟩ refused
      obtain ⟨receipt, present, key, -⟩ := legal.ledger.identities owner owned
      exact Table.get?_eq_none.mp (unused attempt).1 receipt present (key.trans same)
    | dangling named owned absent message =>
      obtain ⟨receipt, present, key, -⟩ := legal.ledger.identities _ owned
      exact absurd key (Table.get?_eq_none.mp absent receipt present)
  · have known := repeats
    obtain ⟨owner, owned, named, original, stored, link, same⟩ := known
    have replayed : ∃ result, (RepoCall.recordDelivery (request.delivery request.body receivedAt)
        none).execPostgres env db = (.ok result, db) :=
      recordDelivery_repeated short identified legal.ledger repeats
    obtain ⟨result, answered⟩ := replayed
    exact ⟨result, db, answered, original, stored, same⟩

/-- Reading the receipt of a repeated delivery tells of no failing PostgreSQL. -/
theorem replayedReceipt_plays (delivery : DeliveryRecordResult) :
    PlaysPart (replayedReceipt delivery) := by
  -- A receipt that is missing raises no error of the database.
  rw [replayedReceipt]
  split
  · have reads : (Request.repository (.getDelivery delivery.receiptId) {}).AfterRecord := trivial
    refine .bind (plays_call reads) fun found => ?_
    cases found with
    | none => exact NoSqlError.error rfl
    | some receipt => exact NoSqlError.ok
  · exact NoSqlError.ok

/-- A recorded delivery is answered untroubled. -/
theorem deliver_untroubled {before after : Ground} {outcome : Except Failure Response}
    (reachable : PostgresReachable before.database)
    (recordable : request.Recordable before.database)
    (short : request.body.length ≤ maxEvidenceBodyBytes) {receivedAt : Time}
    (run : Runs Ground.PostgresServes (deliver settings request request.body receivedAt) before
      outcome after) : after.Holding request.body ∧ Untroubled outcome := by
  -- The record itself succeeds whatever the others have done before it.
  have recorded : ∀ middle reply, Ground.PostgresServes
      (.repository (.recordDelivery (request.delivery request.body receivedAt) none) {}) before reply
      middle → (∃ result, reply = .ok result) ∧ middle.Holding request.body := by
    rintro middle reply ⟨between, uuid4, fault, meddles, unused, performed⟩
    obtain ⟨still, grows⟩ := meddled_sound reachable meddles
    obtain ⟨result, later, answered, stored⟩ := recordDelivery_postgres
      ⟨uuid4, between.clock⟩ still (recordable.grow grows) unused short receivedAt
    have legal := PostgresReachable.call ⟨uuid4, between.clock⟩
      (.recordDelivery (request.delivery request.body receivedAt) none) still
    rw [Ground.performPostgres] at performed
    rw [answered] at performed legal
    cases performed
    exact ⟨⟨result, rfl⟩, legal, stored⟩
  rw [deliver] at run
  rcases run.of_bind with ⟨error, -, failed⟩ | ⟨result, middle, record, rest⟩
  · obtain ⟨⟨result, same⟩, -⟩ := recorded _ _ failed.of_call
    cases same
  obtain ⟨-, holding⟩ := recorded _ _ record.of_call
  -- What follows the record makes requests of its role alone.
  suffices plays : PlaysRecorded _ by
    obtain ⟨held, -, fine⟩ := Runs.of_plays (fun _ _ _ _ _ => recorded_moves) plays holding rest
    exact ⟨held, fine⟩
  -- A delivery is answered at once, answered from its stored receipt, or checked.
  split
  · exact .done (by simp)
  · refine .bind (replayedReceipt_plays result) fun existing => ?_
    split
    next response answered =>
      obtain ⟨receipt, -, same⟩ := Option.bind_eq_some_iff.mp answered
      rw [answerReplay] at same
      split_ifs at same
      · cases same
        exact .done (by simp)
      · cases same
        exact .done (by simp)
    next => exact checkDelivery_plays ..

section Authenticated
variable {token : String} {ground : Ground} (presented : request.vendorToken = some token)
  (authentic : compareDigest token settings.vendorToken = .ok true)
  (bounded : request.body.length ≤ settings.maxTelemetryBodyBytes)
  (declared : ∀ text, request.contentLength = some text →
    intBase10 text.toList = some (request.body.length : Int))
include presented authentic bounded declared

/-- An authenticated, bounded delivery is recorded and checked. -/
theorem receivePayloadData_eq :
    receivePayloadData settings request = utcNow >>= fun receivedAt =>
      (deliver settings request request.body receivedAt).tryCatch answerUnavailable := by
  -- The token is authentic and the body is within its bound, so both checks pass.
  rw [receivePayloadData, presented]
  dsimp only
  rw [authentic]
  dsimp only
  rw [receiveAuthenticated, boundedBody_eq bounded declared]

/-- A delivery that cannot be recorded is answered as if PostgreSQL were out of reach. -/
theorem unrecordable_answered (ledger : Ledger ground.database) {id : UUID}
    (unused : ground.database.Unused id) (unrecordable : ¬request.Recordable ground.database) :
    Runs Ground.PostgresServes (receivePayloadData settings request) ground
      (.ok postgresUnavailable) ground := by
  obtain ⟨long, new⟩ := not_or.mp unrecordable
  have identified : vendorIdentity.isEmpty = false := by decide
  -- Nobody else acts, and the receipt is refused.
  have clock : Ground.PostgresServes .clock ground (.ok ground.clock) ground :=
    ⟨ground, fun _ => id, .none, .refl, fun _ => unused, rfl⟩
  have refused : Ground.PostgresServes (.repository (.recordDelivery
      (request.delivery request.body ground.clock) none) {}) ground (.error (.storage .database))
      ground := by
    refine ⟨ground, fun _ => id, .none, .refl, fun _ => unused, ?_⟩
    have failed : (RepoCall.recordDelivery (request.delivery request.body ground.clock)
        none).execPostgres ⟨fun _ => id, ground.clock⟩ ground.database =
          (.error .database, ground.database) :=
      recordDelivery_tooLong (bounded.trans settings.bodyLimit.2) identified ledger
        (Bool.eq_false_iff.mpr long) new
    rw [Ground.performPostgres, failed]
    rfl
  rw [receivePayloadData_eq presented authentic bounded declared]
  exact .bind (.call clock) (.tryCatch_error (.bind_error _ (.call refused)) (.done _ ground))

/--
Which authenticated, bounded deliveries are preserved while PostgreSQL is reachable.

The handler runs among any calls of other processes, with any behaviour of Redis, from any reachable
database that has an identifier left. Every answer of it finds the body stored and does not tell of a
failing PostgreSQL, if and only if the `Content-Type` fits its column or the request is a repetition.
-/
theorem delivery_preserved_iff (reachable : PostgresReachable ground.database)
    (spare : ∃ id, ground.database.Unused id) :
    (∀ response after,
      Runs Ground.PostgresServes (receivePayloadData settings request) ground (.ok response) after →
        after.database.HoldsBody request.body ∧ response ≠ postgresUnavailable) ↔
      request.Recordable ground.database := by
  have short : request.body.length ≤ maxEvidenceBodyBytes := bounded.trans settings.bodyLimit.2
  constructor
  -- An unrecordable delivery has a run that is answered 503, with an identifier that is left over.
  · intro preserved
    refine Classical.byContradiction fun unrecordable => ?_
    obtain ⟨id, unused⟩ := spare
    have run := unrecordable_answered presented authentic bounded declared reachable.sound.1.ledger
      unused unrecordable
    exact (preserved _ _ run).2 rfl
  -- A recordable one is recorded, and what follows fails only in ways that are answered otherwise.
  · intro recordable response after run
    rw [receivePayloadData_eq presented authentic bounded declared] at run
    rcases run.of_bind with ⟨error, failed, -⟩ | ⟨receivedAt, middle, clock, run⟩
    · cases failed
    obtain ⟨still, grows⟩ := clock.of_call.sound reachable
    -- The handler answers an exception by itself, but not as an unreachable PostgreSQL.
    rcases run.of_tryCatch with ⟨value, same, run⟩ | ⟨error, last, run, answer⟩
    · cases same
      obtain ⟨holding, fine⟩ := deliver_untroubled still (recordable.grow grows) short run
      exact ⟨holding.stored, fine.2 _ rfl⟩
    · obtain ⟨holding, fine⟩ := deliver_untroubled still (recordable.grow grows) short run
      rw [answerUnavailable, fine.1 error rfl, if_neg Bool.false_ne_true] at answer
      split_ifs at answer
      · cases answer
        exact ⟨holding.stored, by simp [postgresUnavailable]⟩
      · cases answer

end Authenticated

end Handler

/-- The golden vector under its media type is preserved. -/
theorem golden_delivery_preserved :
    (sampleRequest goldenFrame).Recordable ({} : Ground).database ∧
      ∀ response after, Runs Ground.PostgresServes
        (receivePayloadData sampleSettings (sampleRequest goldenFrame)) {} (.ok response) after →
          after.database.HoldsBody (sampleRequest goldenFrame).body ∧
            response ≠ postgresUnavailable := by
  -- The media type is short enough for its column, and the tables are empty.
  have recordable : (sampleRequest goldenFrame).Recordable ({} : Ground).database :=
    Or.inl (by simp [sampleRequest, fitsNullable, fitsWidth])
  have presented : (sampleRequest goldenFrame).vendorToken = some "vendor" := rfl
  have spare : ∃ id, ({} : Ground).database.Unused id := ⟨0, rfl, rfl⟩
  refine ⟨recordable,
    (delivery_preserved_iff presented (by decide) (by decide) ?_ .empty spare).mpr recordable⟩
  intro text same
  cases same

/-- The golden vector under its media type with a long parameter. -/
def longHeaderRequest : VendorRequest :=
  { sampleRequest goldenFrame with
    contentType := some ("application/octet-stream; name=" ++
      String.ofList (List.replicate 255 'a')) }

/-- A delivery with a long `Content-Type` is answered 503, and nothing is stored. -/
theorem long_header_unpreserved :
    ∃ after, Runs Ground.PostgresServes (receivePayloadData sampleSettings longHeaderRequest) {}
      (.ok postgresUnavailable) after ∧ ¬after.database.HoldsBody longHeaderRequest.body := by
  have presented : longHeaderRequest.vendorToken = some "vendor" := rfl
  have unused : ({} : Ground).database.Unused 0 := ⟨rfl, rfl⟩
  have unrecordable : ¬longHeaderRequest.Recordable ({} : Ground).database := by
    rintro (fits | ⟨owner, owned, -⟩)
    -- The header has 255 letters after its prefix.
    · have long : fitsNullable 255 longHeaderRequest.contentType = false := by
        have tail : (String.ofList (List.replicate 255 'a')).toList.length = 255 := by
          rw [String.toList_ofList, List.length_replicate]
        rw [longHeaderRequest, fitsNullable_some, fitsWidth, String.toList_append,
          List.length_append, tail]
        decide
      rw [long] at fits
      cases fits
    · exact Table.not_mem_empty owner owned
  refine ⟨{}, unrecordable_answered presented (by decide) (by decide) ?_ Reachable.empty.ledger
    unused unrecordable, ?_⟩
  · intro text same
    cases same
  · rintro ⟨receipt, member, -⟩
    exact Table.not_mem_empty receipt member

end Cislunar
