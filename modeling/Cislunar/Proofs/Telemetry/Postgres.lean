import Cislunar.Proofs.Runtime.Hash
import Cislunar.Proofs.Telemetry.Effect
import Cislunar.Telemetry.Postgres

/-!
What the column widths do to the repository.

A call on a server that enforces them has the effect that it has without them, or fails as a whole.
Everything that is stored fits, so only what a call brings along can be too long.
-/

namespace Cislunar

open Foundation

/-- Every stored row fits its columns. -/
structure Database.Fits (db : Database) : Prop where
  receipts : ∀ row ∈ db.receipts, row.fits = true
  identities : ∀ row ∈ db.identities, row.fits = true
  packets : ∀ row ∈ db.packets, row.fits = true
  states : ∀ row ∈ db.states, row.fits = true
  jobs : ∀ row ∈ db.jobs, row.fits = true
  processed : ∀ row ∈ db.processed, row.fits = true

/-- An insertion leaves rows that fit where its row fits. -/
theorem insertWhen_fits {admitted : Prop} [Decidable admitted] {db next : Database}
    (fitting : db.Fits) (added : admitted → next.Fits) :
    (Stmt.insertWhen admitted db next).2.Fits := by
  -- Either the row was admitted, or nothing changed.
  rw [Stmt.insertWhen]
  split
  next holds => exact added holds
  next => exact fitting

/-- A statement that fits leaves rows that fit. -/
theorem Stmt.exec_fits {stmt : Stmt} {db : Database} (fitting : db.Fits)
    (accepted : stmt.fits = true) : (stmt.exec db).2.Fits := by
  -- Each statement writes at most one row, the one that was checked.
  cases stmt with
  | selectReceipt | selectIdentity | selectPacket | selectPacketBySource | selectState | selectJob
  | selectJobByPacket | selectProcessed | selectAcceptedReceipts | selectJobs | countJobs
  | selectAuditEvents => exact fitting
  | insertReceipt row =>
    exact insertWhen_fits fitting fun admitted =>
      { fitting with receipts := Table.forall_mem_insert admitted.1 accepted fitting.receipts }
  | insertIdentity row =>
    exact insertWhen_fits fitting fun admitted =>
      { fitting with identities := Table.forall_mem_insert admitted.1 accepted fitting.identities }
  | insertPacket row =>
    exact insertWhen_fits fitting fun admitted =>
      { fitting with packets := Table.forall_mem_insert admitted.1 accepted fitting.packets }
  | insertState row =>
    exact insertWhen_fits fitting fun admitted =>
      { fitting with states := Table.forall_mem_insert admitted.1 accepted fitting.states }
  | insertJob row =>
    exact insertWhen_fits fitting fun admitted =>
      { fitting with jobs := Table.forall_mem_insert admitted.1 accepted fitting.jobs }
  | insertProcessed row =>
    exact insertWhen_fits fitting fun admitted =>
      { fitting with processed := Table.forall_mem_insert admitted.1 accepted fitting.processed }
  | insertAudit event => exact { fitting with }
  | updateReceipt row =>
    exact { fitting with receipts := Table.forall_mem_set accepted fitting.receipts }
  | updateState row => exact { fitting with states := Table.forall_mem_set accepted fitting.states }
  | updateJob row => exact { fitting with jobs := Table.forall_mem_set accepted fitting.jobs }

/-- A server that enforces the widths keeps rows that fit. -/
theorem Stmt.execPostgres_fits {db : Database} (fitting : db.Fits) (stmt : Stmt) :
    (stmt.execPostgres db).2.Fits := by
  -- A statement PostgreSQL accepts writes fitting values, and a refused one writes nothing.
  rw [Stmt.execPostgres, refusing]
  split
  next accepted => exact Stmt.exec_fits fitting accepted
  next => exact fitting

/-- A call on such a server leaves rows that fit. -/
theorem RepoCall.execPostgres_fits {db : Database} (fitting : db.Fits) (env : Surroundings)
    (call : RepoCall) : (call.execPostgres env db).2.Fits := by
  -- The committed rows and those of the open transaction fit after every statement.
  have both : ∀ req : Sql Stmt, ∀ state : Database × Database, state.1.Fits ∧ state.2.Fits →
      (serialExec Stmt.execPostgres req state).2.1.Fits ∧
        (serialExec Stmt.execPostgres req state).2.2.Fits := by
    intro req state held
    cases req with
    | statement stmt => exact ⟨held.1, Stmt.execPostgres_fits held.2 stmt⟩
    | commit => exact ⟨held.2, held.2⟩
    | rollback => exact ⟨held.1, held.1⟩
  exact (Prog.runAlone_invariant both (call.program env) ⟨fitting, fitting⟩).1

section Forwards
open Prog

/-- Recording a delivery passes errors on. -/
theorem insertDelivery_forwards (delivery : Delivery) (receiptId : UUID)
    (identity : Option TelemetryRequestIdentity) (firstReceipt : Option TelemetryDeliveryReceipt) :
    (insertDelivery delivery receiptId identity firstReceipt).Forwards := by
  -- Every branch is a sequence of statements without a handler.
  rw [insertDelivery]
  refine .bind (.call _) fun _ => ?_
  split
  · exact .bind (.call _) fun _ => .bind (.call _) fun _ => trivial
  · exact .bind (.call _) fun _ => trivial

/-- `record_delivery` passes errors on. -/
theorem recordDelivery_forwards (delivery : Delivery) (receiptId : UUID) :
    (recordDeliveryTransaction delivery receiptId).Forwards := by
  -- The body catches nothing: each path is a chain of statements that ends in a result or an error.
  rw [recordDeliveryTransaction]
  split
  · exact insertDelivery_forwards ..
  · refine .bind (.call _) fun identity => ?_
    cases identity with
    | none => exact insertDelivery_forwards ..
    | some owner =>
      refine .bind (.call _) fun firstReceipt => ?_
      cases firstReceipt with
      | none => trivial
      | some first =>
        dsimp only
        split
        · trivial
        · exact insertDelivery_forwards ..

/-- `reject_delivery` passes errors on. -/
theorem rejectDelivery_forwards (receiptId : UUID) (reason : String)
    (parsedIdentifiers : Option JsonObject) (actorIdentity : String) :
    (rejectDeliveryTransaction receiptId reason parsedIdentifiers actorIdentity).Forwards := by
  rw [rejectDeliveryTransaction]
  refine .bind (.call _) fun found => ?_
  cases found with
  | none => trivial
  | some receipt =>
    dsimp only
    -- A missing, settled or already rejected receipt writes nothing.
    split_ifs
    · trivial
    · trivial
    · trivial
    · exact .bind (.call _) fun _ => .bind (.call _) fun _ => trivial

/-- Settling a receipt under a used source key passes errors on. -/
theorem settleExisting_forwards (receipt : TelemetryDeliveryReceipt)
    (values : DecodedTelemetryValues) (existing : LogicalTelemetryPacket) (actorIdentity : String) :
    (settleExisting receipt values existing actorIdentity).Forwards := by
  -- Both branches are sequences of statements without a handler.
  rw [settleExisting]
  refine .bind (.call _) fun origin => ?_
  split_ifs
  · exact .bind (.call _) fun _ => .bind (.call _) fun _ => .bind (.call _) fun _ => trivial
  · exact .bind (.call _) fun _ => .bind (.call _) fun _ => trivial

/-- Accepting a new packet passes errors on. -/
theorem acceptNew_forwards (receipt : TelemetryDeliveryReceipt) (values : DecodedTelemetryValues)
    (sequenceState : Option TelemetrySequenceState) (disposition : PacketDisposition)
    (missingBefore : Int) (jobId : UUID) (options : AcceptanceOptions) :
    (acceptNew receipt values sequenceState disposition missingBefore jobId options).Forwards := by
  -- The state is inserted or updated, and either way an error ends the transaction.
  rw [acceptNew]
  refine .bind (.call _) fun _ => ?_
  cases sequenceState with
  | none =>
    exact .bind (.call _) fun _ => .bind (.call _) fun _ => .bind (.call _) fun _ =>
      .bind (.call _) fun _ => trivial
  | some state =>
    exact .bind (.call _) fun _ => .bind (.call _) fun _ => .bind (.call _) fun _ =>
      .bind (.call _) fun _ => trivial

/-- `accept_packet_and_create_job` passes errors on. -/
theorem acceptPacket_forwards (receiptId : UUID) (values : DecodedTelemetryValues) (jobId : UUID)
    (options : AcceptanceOptions) :
    (acceptPacketTransaction receiptId values jobId options).Forwards := by
  rw [acceptPacketTransaction]
  refine .bind (.call _) fun found => ?_
  cases found with
  | none => trivial
  | some receipt =>
    dsimp only
    -- An answer that is replayed, a receipt that is not pending, and a pending one.
    split_ifs
    · rw [replayAcceptance]
      split
      · trivial
      · exact .bind (.call _) fun _ => .bind (.call _) fun _ => trivial
    · trivial
    · rw [settlePending]
      refine .bind (.call _) fun existingPacket => ?_
      cases existingPacket with
      | some existing => exact settleExisting_forwards ..
      | none =>
        refine .bind (.call _) fun sequenceState => ?_
        split
        · exact .bind (.call _) fun _ => .bind (.call _) fun _ => trivial
        · exact acceptNew_forwards ..

/-- Marking receipts passes errors on. -/
theorem updateQueued_forwards (receipts : List TelemetryDeliveryReceipt) :
    (updateQueued receipts).Forwards := by
  -- On the receipts.
  induction receipts with
  | nil => trivial
  | cons receipt rest ih => exact .bind (.call _) fun _ => ih

/-- `mark_job_queued` passes errors on. -/
theorem markJobQueued_forwards (jobId : UUID) (queueMessageId actorIdentity : String) :
    (markJobQueuedTransaction jobId queueMessageId actorIdentity).Forwards := by
  -- The branches that write nothing raise or return.
  rw [markJobQueuedTransaction]
  refine .bind (.call _) fun found => ?_
  cases found with
  | none => trivial
  | some job =>
    dsimp only
    split_ifs
    · trivial
    · trivial
    · trivial
    · exact .bind (.call _) fun _ => .bind (.call _) fun _ => .bind (updateQueued_forwards _)
        fun _ => .bind (.call _) fun _ => trivial

/-- `claim_processing_job` passes errors on. -/
theorem claimProcessingJob_forwards (jobId : UUID) (workerId : String) (leaseSeconds : Int)
    (now : Time) : (claimProcessingJobTransaction jobId workerId leaseSeconds now).Forwards := by
  rw [claimProcessingJobTransaction]
  refine .bind (.call _) fun found => ?_
  cases found with
  | none => trivial
  | some job =>
    refine .bind (.call _) fun foundProcessed => ?_
    -- A job with a result is closed; a claimable one without is taken.
    cases foundProcessed with
    | some processed =>
      dsimp only
      split_ifs
      · exact .bind (.call _) fun _ => trivial
      · trivial
    | none =>
      dsimp only
      split_ifs
      · rw [takeJob]
        refine .bind (.call _) fun foundPacket => ?_
        cases foundPacket with
        | none => trivial
        | some packet =>
          refine .bind (.call _) fun foundReceipt => ?_
          cases foundReceipt with
          | none => trivial
          | some receipt => exact .bind (.call _) fun _ => .bind (.call _) fun _ => trivial
      · trivial

/-- `complete_processing_job` passes errors on. -/
theorem completeProcessingJob_forwards (jobId : UUID) (result : ProcessingResultValues)
    (workerId : String) (completionTime : Time) :
    (completeProcessingJobTransaction jobId result workerId completionTime).Forwards := by
  rw [completeProcessingJobTransaction]
  refine .bind (.call _) fun found => ?_
  cases found with
  | none => trivial
  | some job =>
    refine .bind (.call _) fun foundProcessed => ?_
    -- A result that is there is compared; otherwise the first one is stored.
    cases foundProcessed with
    | some existing =>
      dsimp only
      split_ifs
      · trivial
      · exact .bind (.call _) fun _ => trivial
    | none =>
      dsimp only
      split_ifs
      · trivial
      · trivial
      · exact .bind (.call _) fun _ => .bind (.call _) fun _ => .bind (.call _) fun _ => trivial

/-- `fail_processing_attempt` passes errors on. -/
theorem failProcessingAttempt_forwards (jobId : UUID) (workerId reason : String) (temporary : Bool)
    (baseBackoffSeconds : Int) (failureTime : Time) :
    (failProcessingAttemptTransaction jobId workerId reason temporary baseBackoffSeconds
      failureTime).Forwards := by
  -- The branches that write nothing raise or return.
  rw [failProcessingAttemptTransaction]
  refine .bind (.call _) fun found => ?_
  cases found with
  | none => trivial
  | some job =>
    dsimp only
    split_ifs
    · trivial
    · trivial
    · trivial
    · exact .bind (.call _) fun _ => .bind (.call _) fun _ => trivial

end Forwards

/-- A single transaction has its effect, or fails as a whole. -/
theorem execPostgres_transaction {α : Type} {body : Txn α} (forwards : body.Forwards)
    (db : Database) :
    serially Stmt.execPostgres (transaction body) db = serially Stmt.exec (transaction body) db ∨
      serially Stmt.execPostgres (transaction body) db = (.error .database, db) := by
  -- A refused statement ends the transaction, which has no handler.
  rw [serially_transaction, serially_transaction]
  exact atomically_refusing _ _ _ forwards db

/-- A call has the effect that it has without the widths, or fails as a whole. -/
theorem RepoCall.execPostgres_cases (env : Surroundings) (call : RepoCall) (db : Database) :
    call.execPostgres env db = call.exec env db ∨
      call.execPostgres env db = (.error .database, db) := by
  -- A refused argument never reaches the server; every other call is one transaction or its retry.
  cases call with
  | recordDelivery delivery receiptId =>
    simp only [execPostgres, exec, program, Cislunar.recordDelivery]
    split_ifs
    · exact Or.inl rfl
    · exact Or.inl rfl
    · exact serially_refusing_retryOnce rfl (fun _ => recordDelivery_forwards ..) db
  | rejectDelivery receiptId reason parsedIdentifiers actorIdentity =>
    exact execPostgres_transaction (rejectDelivery_forwards ..) db
  | acceptPacketAndCreateJob receiptId values maxAttempts actorIdentity =>
    simp only [execPostgres, exec, program, Cislunar.acceptPacketAndCreateJob]
    split_ifs
    · exact Or.inl rfl
    · exact Or.inl rfl
    · exact serially_refusing_retryOnce rfl (fun _ => acceptPacket_forwards ..) db
    · exact Or.inl rfl
  | markJobQueued jobId queueMessageId actorIdentity =>
    exact execPostgres_transaction (markJobQueued_forwards ..) db
  | claimProcessingJob jobId workerId leaseSeconds =>
    simp only [execPostgres, exec, program, Cislunar.claimProcessingJob]
    split_ifs
    · exact Or.inl rfl
    · exact Or.inl rfl
    · exact execPostgres_transaction (claimProcessingJob_forwards ..) db
  | completeProcessingJob jobId result workerId processedAt =>
    exact execPostgres_transaction (completeProcessingJob_forwards ..) db
  | failProcessingAttempt jobId workerId reason temporary baseBackoffSeconds now =>
    simp only [execPostgres, exec, program, Cislunar.failProcessingAttempt]
    split_ifs
    · exact Or.inl rfl
    · exact execPostgres_transaction (failProcessingAttempt_forwards ..) db
  | recordAuditEvent event =>
    have forwards : (do audit event; return event : Txn TelemetryAuditEvent).Forwards :=
      .bind (.call _) fun _ => trivial
    exact execPostgres_transaction forwards db
  | pendingQueueJobs limit =>
    simp only [execPostgres, exec, program, Cislunar.pendingQueueJobs]
    split_ifs
    · exact execPostgres_transaction (.call _) db
    · exact Or.inl rfl
  | recoverableQueueJobs limit =>
    simp only [execPostgres, exec, program, Cislunar.recoverableQueueJobs]
    split_ifs
    · exact execPostgres_transaction (.call _) db
    · exact Or.inl rfl
  | listAuditEvents limit =>
    simp only [execPostgres, exec, program, Cislunar.listAuditEvents]
    split_ifs
    · exact execPostgres_transaction (.call _) db
    · exact Or.inl rfl
  | getDelivery | getPacket | getProcessed | getJob | getJobForPacket | processingQueueDepth =>
    exact execPostgres_transaction (.call _) db

/-- Enforcing the widths leads to no new databases, and all rows of these fit. -/
theorem PostgresReachable.sound {db : Database} (reachable : PostgresReachable db) :
    Reachable db ∧ db.Fits := by
  -- A call that a width refuses leaves the database as it was.
  induction reachable with
  | empty =>
    have none : ∀ {ρ κ : Type} [DecidableEq κ] {key : ρ → κ} {good : ρ → Prop},
        ∀ row ∈ (Table.empty : Table key), good row := fun row member =>
      absurd member (Table.not_mem_empty row)
    exact ⟨.empty, none, none, none, none, none, none⟩
  | call env call before ih =>
    refine ⟨?_, call.execPostgres_fits ih.2 env⟩
    rcases call.execPostgres_cases env _ with same | same
    · rw [same]
      exact .call env call ih.1
    · rw [same]
      exact ih.1

section Widths

/-- A missing text fits every width. -/
@[simp] theorem fitsNullable_none (width : Nat) : fitsNullable width none = true := rfl

/-- A text that is there has to fit. -/
@[simp] theorem fitsNullable_some (width : Nat) (text : String) :
    fitsNullable width (some text) = fitsWidth width text := rfl

/-- A digest fits its column. -/
theorem fitsWidth_sha256Hex (data : Bytes) : fitsWidth 64 (sha256Hex data) = true := by
  -- A digest is written in 64 characters.
  rw [fitsWidth, sha256Hex_length]
  rfl

/-- The rows that a statement returns fit their columns. -/
def Stmt.Fitting : (stmt : Stmt) → stmt.Reply → Prop
  | selectReceipt _ _ => fun found => ∀ row, found = some row → row.fits = true
  | selectPacketBySource _ => fun found => ∀ row, found = some row → row.fits = true
  | selectState _ => fun found => ∀ row, found = some row → row.fits = true
  | selectJob _ _ => fun found => ∀ row, found = some row → row.fits = true
  | selectAcceptedReceipts _ => fun found => ∀ row ∈ found, row.fits = true
  | _ => fun _ => True

/-- Where all rows fit, so do those that a statement returns. -/
theorem Stmt.fitting_of_exec {stmt : Stmt} {db : Database} (fitting : db.Fits)
    {value : stmt.Reply} (answered : (stmt.exec db).1 = .ok value) : stmt.Fitting value := by
  -- What is selected is a row, and rows fit.
  cases stmt with
  | selectReceipt receiptId forUpdate =>
    cases answered
    exact fun row found => fitting.receipts row (Table.get?_eq_some.mp found).1
  | selectPacketBySource source =>
    cases answered
    exact fun row found => fitting.packets row (of_packetBySource found).1
  | selectState session =>
    cases answered
    exact fun row found => fitting.states row (Table.get?_eq_some.mp found).1
  | selectJob jobId forUpdate =>
    cases answered
    exact fun row found => fitting.jobs row (Table.get?_eq_some.mp found).1
  | selectAcceptedReceipts packetId =>
    cases answered
    exact fun row found => fitting.receipts row (List.mem_of_mem_filter found)
  | selectIdentity | selectPacket | selectJobByPacket | selectProcessed | selectJobs | countJobs
  | selectAuditEvents | insertReceipt | insertIdentity | insertPacket | insertState | insertJob
  | insertProcessed | insertAudit | updateReceipt | updateState | updateJob => trivial

/-- Statements that fit, as long as the rows they read do. -/
def columnRole : Role StorageError Stmt Stmt.Reply Unit where
  permits _ stmt := stmt.fits = true
  moves _ stmt reply _ := ∀ value, reply = .ok value → stmt.Fitting value

/-- Every statement of a transaction fits. -/
abbrev Fit {α : Type} (body : Txn α) : Prop :=
  Plays columnRole (fun _ _ => True) body ()

/-- The widths make no difference to a transaction whose statements all fit. -/
theorem Fit.runAlone_eq {α : Type} {body : Txn α} (fit : Fit body) {db : Database}
    (fitting : db.Fits) : body.runAlone Stmt.execPostgres db = body.runAlone Stmt.exec db := by
  -- The invariant is that all rows fit; a statement that fits does the same under both semantics.
  have each : ∀ note stmt (state : Database), state.Fits → columnRole.permits note stmt →
      stmt.execPostgres state = stmt.exec state ∧ (stmt.exec state).2.Fits ∧
        ∃ later, columnRole.moves note stmt (stmt.exec state).1 later := by
    intro note stmt state held accepted
    exact ⟨if_pos accepted, Stmt.exec_fits held accepted, (),
      fun value => Stmt.fitting_of_exec held⟩
  exact runAlone_congr_of_plays each fit fitting

/-- A statement that fits stands alone. -/
theorem Fit.sql {stmt : Stmt} (accepted : stmt.fits = true) : Fit (sql stmt) :=
  .call accepted fun _ _ _ => trivial

/-- A statement that fits is followed by a transaction that fits whatever fitting rows it gets. -/
theorem Fit.sql_bind {α : Type} {stmt : Stmt} {after : stmt.Reply → Txn α}
    (accepted : stmt.fits = true) (rest : ∀ value, stmt.Fitting value → Fit (after value)) :
    Fit (Cislunar.sql stmt >>= after) := by
  -- A value that was read fits, and an error ends the transaction.
  refine .bind (.call accepted fun reply _ moved => ?_)
  cases reply with
  | ok value => exact rest value (moved value rfl)
  | error error => trivial

/-- The names that an audit event has from the code. -/
def TelemetryAuditEvent.namesFit (event : TelemetryAuditEvent) : Bool :=
  fitsWidth 64 event.serviceName && fitsWidth 128 event.eventName && fitsWidth 64 event.outcome

/-- An audit event fits where its actor and its packet do. -/
theorem auditEvent_fits {event : TelemetryAuditEvent} (names : event.namesFit = true)
    (actor : fitsWidth 512 event.actorIdentity = true)
    (packet : fitsNullable 64 event.packetId = true) : event.fits = true := by
  -- The names, the actor and the packet are all the columns with a width.
  simp only [TelemetryAuditEvent.namesFit, Bool.and_eq_true] at names
  simp only [TelemetryAuditEvent.fits, names, actor, packet, Bool.and_self]

/-- A receipt that has changed fits where its new packet does. -/
theorem TelemetryDeliveryReceipt.fits_changed {before after : TelemetryDeliveryReceipt}
    (fit : before.fits = true)
    (peer : after.peerCertificateIdentity = before.peerCertificateIdentity)
    (header : after.contentType = before.contentType)
    (digest : after.bodySha256 = before.bodySha256)
    (packet : fitsNullable 64 after.logicalPacketId = true) : after.fits = true := by
  -- The packet is the only bounded column that a verdict writes.
  simp only [fits, Bool.and_eq_true] at fit ⊢
  rw [peer, header, digest]
  exact ⟨fit.1, packet⟩

/-- A delivery whose texts fit is recorded by statements that fit. -/
theorem insertDelivery_fit {delivery : Delivery}
    (peer : fitsWidth 512 delivery.peerCertificateIdentity = true)
    (header : fitsNullable 255 delivery.contentType = true) (receiptId : UUID)
    (identity : Option TelemetryRequestIdentity) (firstReceipt : Option TelemetryDeliveryReceipt) :
    Fit (insertDelivery delivery receiptId identity firstReceipt) := by
  -- The three rows carry the texts of the delivery, a digest, and names from the code.
  have digest := fitsWidth_sha256Hex delivery.rawBody
  have row : (delivery.receipt receiptId firstReceipt).fits = true := by
    simp [TelemetryDeliveryReceipt.fits, Delivery.receipt, peer, header, digest]
  have event : (delivery.auditEvent (delivery.receipt receiptId firstReceipt)
      firstReceipt.isSome).fits = true := by
    apply auditEvent_fits
    · cases firstReceipt.isSome <;>
        simp [TelemetryAuditEvent.namesFit, Delivery.auditEvent, fitsWidth]
    · exact peer
    · rfl
  have owner : ∀ requestId, (Stmt.insertIdentity ⟨requestId, receiptId,
      (delivery.receipt receiptId firstReceipt).bodySha256⟩).fits = true := by
    intro requestId
    simp only [Stmt.fits, TelemetryRequestIdentity.fits, Delivery.receipt, digest]
  rw [insertDelivery]
  refine Fit.sql_bind row fun _ _ => ?_
  split
  · refine Fit.sql_bind (owner _) fun _ _ => ?_
    exact Fit.sql_bind event fun _ _ => trivial
  · exact Fit.sql_bind event fun _ _ => trivial

/-- `record_delivery` of a delivery whose texts fit. -/
theorem recordDelivery_fit {delivery : Delivery}
    (peer : fitsWidth 512 delivery.peerCertificateIdentity = true)
    (header : fitsNullable 255 delivery.contentType = true) (receiptId : UUID) :
    Fit (recordDeliveryTransaction delivery receiptId) := by
  -- Reads always fit, so only the insertion at the end of a path has to be looked at.
  rw [recordDeliveryTransaction]
  split
  · exact insertDelivery_fit peer header ..
  · refine Fit.sql_bind rfl fun identity _ => ?_
    cases identity with
    | none => exact insertDelivery_fit peer header ..
    | some owner =>
      refine Fit.sql_bind rfl fun firstReceipt _ => ?_
      cases firstReceipt with
      | none => trivial
      | some first =>
        dsimp only
        split
        · trivial
        · exact insertDelivery_fit peer header ..

/-- `reject_delivery` by an actor whose name fits. -/
theorem rejectDelivery_fit {actorIdentity : String} (actor : fitsWidth 512 actorIdentity = true)
    (receiptId : UUID) (reason : String) (parsedIdentifiers : Option JsonObject) :
    Fit (rejectDeliveryTransaction receiptId reason parsedIdentifiers actorIdentity) := by
  rw [rejectDeliveryTransaction]
  refine Fit.sql_bind rfl fun found fitting => ?_
  cases found with
  | none => trivial
  | some receipt =>
    -- The receipt was read, and a rejection changes no text that has a width.
    have row : receipt.fits = true := fitting receipt rfl
    dsimp only
    split_ifs
    · trivial
    · trivial
    · trivial
    · have event : (rejectedEvent receiptId reason parsedIdentifiers actorIdentity).fits = true :=
        auditEvent_fits (by simp [TelemetryAuditEvent.namesFit, rejectedEvent, fitsWidth]) actor rfl
      exact Fit.sql_bind row fun _ _ => Fit.sql_bind event fun _ _ => trivial

/-- Settling a receipt under a used source key fits. -/
theorem settleExisting_fit {actorIdentity : String} (actor : fitsWidth 512 actorIdentity = true)
    {receipt : TelemetryDeliveryReceipt} (row : receipt.fits = true)
    (values : DecodedTelemetryValues) {existing : LogicalTelemetryPacket}
    (stored : existing.fits = true) :
    Fit (settleExisting receipt values existing actorIdentity) := by
  have packet : fitsWidth 64 existing.packetId = true := (Bool.and_eq_true_iff.mp stored).1
  rw [settleExisting]
  refine Fit.sql_bind rfl fun origin _ => ?_
  have named : fitsNullable 64 (some existing.packetId) = true := packet
  -- The receipt takes the identifier of the packet that was read.
  split_ifs
  · have settled : (duplicateReceipt receipt values existing).fits = true :=
      TelemetryDeliveryReceipt.fits_changed row rfl rfl rfl named
    refine Fit.sql_bind settled fun _ _ => Fit.sql_bind rfl fun existingJob _ => ?_
    have event : (duplicateEvent receipt existing existingJob actorIdentity).fits = true :=
      auditEvent_fits (by simp [TelemetryAuditEvent.namesFit, duplicateEvent, fitsWidth]) actor
        named
    exact Fit.sql_bind event fun _ _ => trivial
  · have settled : (sequenceConflictReceipt receipt values existing).fits = true :=
      TelemetryDeliveryReceipt.fits_changed row rfl rfl rfl named
    have event : (sequenceConflictEvent receipt existing actorIdentity).fits = true :=
      auditEvent_fits (by simp [TelemetryAuditEvent.namesFit, sequenceConflictEvent, fitsWidth])
        actor named
    exact Fit.sql_bind settled fun _ _ => Fit.sql_bind event fun _ _ => trivial

/-- Accepting a new packet whose identifier fits. -/
theorem acceptNew_fit {receipt : TelemetryDeliveryReceipt} (row : receipt.fits = true)
    {values : DecodedTelemetryValues} (packet : fitsWidth 64 values.packetId = true)
    {sequenceState : Option TelemetrySequenceState}
    (tracked : ∀ state, sequenceState = some state → state.fits = true)
    (disposition : PacketDisposition) (missingBefore : Int) (jobId : UUID)
    {options : AcceptanceOptions} (actor : fitsWidth 512 options.actorIdentity = true) :
    Fit (acceptNew receipt values sequenceState disposition missingBefore jobId options) := by
  -- The rows of a new packet carry its identifier, the digest of its receipt, and names from the
  -- code.
  have digest : fitsWidth 64 receipt.bodySha256 = true := by
    simp only [TelemetryDeliveryReceipt.fits, Bool.and_eq_true] at row
    exact row.1.2
  have job : (newJob jobId values.packetId options.maxAttempts options.now).fits = true := by
    simp [TelemetryProcessingJob.fits, newJob, packet]
  have named : fitsNullable 64 (some values.packetId) = true := packet
  have settled : (acceptedReceipt receipt values).fits = true :=
    TelemetryDeliveryReceipt.fits_changed row rfl rfl rfl named
  have event : (acceptedEvent receipt values disposition missingBefore jobId
      options.actorIdentity).fits = true :=
    auditEvent_fits (by simp [TelemetryAuditEvent.namesFit, acceptedEvent, fitsWidth]) actor named
  -- The statements after the packet has been counted.
  have rest : Fit (do
      sql (.insertJob (newJob jobId values.packetId options.maxAttempts options.now))
      sql (.updateReceipt (acceptedReceipt receipt values))
      audit (acceptedEvent receipt values disposition missingBefore jobId options.actorIdentity)
      return acceptedResult receipt values jobId disposition missingBefore) := by
    exact Fit.sql_bind job fun _ _ => Fit.sql_bind settled fun _ _ => Fit.sql_bind event fun _ _ =>
      trivial
  have added : (newPacket receipt values disposition missingBefore).fits = true := by
    simp [LogicalTelemetryPacket.fits, newPacket, packet, digest]
  rw [acceptNew]
  refine Fit.sql_bind added fun _ _ => ?_
  -- The state keeps its latest packet, unless this one takes its place.
  cases sequenceState with
  | none =>
    have first : (firstState values missingBefore).fits = true := by
      rw [TelemetrySequenceState.fits, firstState, packet]
    exact Fit.sql_bind first fun _ _ => rest
  | some state =>
    have counted : (state.count values disposition missingBefore).fits = true := by
      rw [TelemetrySequenceState.fits, TelemetrySequenceState.count]
      dsimp only
      split
      · exact packet
      · exact tracked state rfl
    exact Fit.sql_bind counted fun _ _ => rest

/-- `accept_packet_and_create_job` of a packet whose identifier fits. -/
theorem acceptPacket_fit {values : DecodedTelemetryValues}
    (packet : fitsWidth 64 values.packetId = true) {options : AcceptanceOptions}
    (actor : fitsWidth 512 options.actorIdentity = true) (receiptId jobId : UUID) :
    Fit (acceptPacketTransaction receiptId values jobId options) := by
  rw [acceptPacketTransaction]
  refine Fit.sql_bind rfl fun found fitting => ?_
  cases found with
  | none => trivial
  | some receipt =>
    have row : receipt.fits = true := fitting receipt rfl
    dsimp only
    -- A replayed acceptance only reads.
    split_ifs
    · rw [replayAcceptance]
      split
      · trivial
      · exact Fit.sql_bind rfl fun _ _ => Fit.sql_bind rfl fun _ _ => trivial
    · trivial
    · rw [settlePending]
      refine Fit.sql_bind rfl fun existingPacket stored => ?_
      cases existingPacket with
      | some existing => exact settleExisting_fit actor row values (stored existing rfl)
      | none =>
        refine Fit.sql_bind rfl fun sequenceState tracked => ?_
        split
        · have event : (stateConflictEvent receipt options.actorIdentity).fits = true :=
            auditEvent_fits (by simp [TelemetryAuditEvent.namesFit, stateConflictEvent, fitsWidth])
              actor rfl
          exact Fit.sql_bind row fun _ _ => Fit.sql_bind event fun _ _ => trivial
        · exact acceptNew_fit row packet tracked _ _ jobId actor

/-- `mark_job_queued` with a message identifier that fits. -/
theorem markJobQueued_fit {queueMessageId actorIdentity : String}
    (message : fitsWidth 255 queueMessageId = true) (actor : fitsWidth 512 actorIdentity = true)
    (jobId : UUID) : Fit (markJobQueuedTransaction jobId queueMessageId actorIdentity) := by
  -- The receipts are rewritten one after another, and keep their texts.
  have update : ∀ receipts : List TelemetryDeliveryReceipt,
      (∀ receipt ∈ receipts, receipt.fits = true) → Fit (updateQueued receipts) := by
    intro receipts fitting
    induction receipts with
    | nil => trivial
    | cons receipt rest ih =>
      refine Fit.sql_bind (fitting receipt List.mem_cons_self) fun _ _ => ?_
      exact ih fun other member => fitting other (List.mem_cons_of_mem _ member)
  rw [markJobQueuedTransaction]
  refine Fit.sql_bind rfl fun found fitting => ?_
  cases found with
  | none => trivial
  | some job =>
    have row : job.fits = true := fitting job rfl
    simp only [TelemetryProcessingJob.fits, Bool.and_eq_true] at row
    dsimp only
    split_ifs
    · trivial
    · trivial
    · trivial
    · have moved : (queuedJob job queueMessageId).fits = true := by
        simp [TelemetryProcessingJob.fits, queuedJob, row, message]
      have event : (queuedEvent job queueMessageId actorIdentity).fits = true :=
        auditEvent_fits (by simp [TelemetryAuditEvent.namesFit, queuedEvent, fitsWidth]) actor
          row.1.1
      refine Fit.sql_bind moved fun _ _ => ?_
      refine Fit.sql_bind rfl fun receipts accepted => ?_
      refine .bind ((update receipts accepted).weaken fun outcome _ _ => ?_)
      cases outcome with
      | error error => trivial
      | ok value =>
        exact Fit.sql_bind event fun _ _ => trivial

end Widths

end Cislunar
