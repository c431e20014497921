import Cislunar.Proofs.Telemetry.Evidence
import Cislunar.Telemetry.HeldOutcome

/-!
Calls of a session that holds objects: where the objects are current they do what they do in a
session that holds none, and elsewhere the held object decides and its changes are written.
-/

namespace Cislunar

open Foundation Foundation.Prog

section
variable {α : Type} [DecidableEq α]

/-- An object that was just loaded writes what was set. -/
@[simp] theorem flushColumn_loaded (stored changed : α) :
    flushColumn stored stored changed = changed := by
  -- An unchanged column is not written, and its value is the stored one.
  unfold flushColumn
  split_ifs with same
  · exact same.symm
  · rfl

/-- A column that was not set keeps what is stored. -/
@[simp] theorem flushColumn_unchanged (stored loaded : α) :
    flushColumn stored loaded loaded = stored := if_pos rfl

/-- What is set to the stored value anyway is not changed. -/
@[simp] theorem flushColumn_stored (stored loaded : α) :
    flushColumn stored loaded stored = stored := by
  -- A column is written with the stored value or not at all.
  unfold flushColumn
  split_ifs <;> rfl

/-- A column that was set to another value is written. -/
theorem flushColumn_changed {stored loaded changed : α} (different : changed ≠ loaded) :
    flushColumn stored loaded changed = changed := if_neg different

end

/-- A receipt that was just loaded is written as it was changed. -/
theorem flush_loaded {row changed : TelemetryDeliveryReceipt}
    (same : changed.receiptId = row.receiptId) : row.flush row changed = changed := by
  -- Column by column: what was loaded is what is stored.
  cases changed
  simp [TelemetryDeliveryReceipt.flush, ← same]

/-- A receipt that was not changed is not written. -/
theorem flush_unchanged (row object : TelemetryDeliveryReceipt) : row.flush object row = row := by
  -- No column differs from the one that was loaded.
  simp [TelemetryDeliveryReceipt.flush]

/-- A job that was just loaded is written as it was changed. -/
theorem flushJob_loaded {row changed : TelemetryProcessingJob}
    (same : changed.jobId = row.jobId) : row.flush row changed = changed := by
  -- Column by column: what was loaded is what is stored.
  cases changed
  simp [TelemetryProcessingJob.flush, ← same]

/-- A change that leaves the evidence alone leaves that of the row alone. -/
theorem flush_evidence {row object changed : TelemetryDeliveryReceipt}
    (same : changed.evidence = object.evidence) :
    (row.flush object changed).evidence = row.evidence := by
  -- The columns of the evidence do not differ, so none of them is written.
  simp only [TelemetryDeliveryReceipt.evidence, TelemetryDeliveryReceipt.mk.injEq] at same
  simp [TelemetryDeliveryReceipt.evidence, TelemetryDeliveryReceipt.flush, same]

namespace Held
variable {held : Held} {db : Database}

/-- Who holds nothing sees the rows. -/
@[simp] theorem seeReceipt_none (job : Option TelemetryProcessingJob)
    (row : TelemetryDeliveryReceipt) : ({ job := job } : Held).seeReceipt row = row := rfl

/-- Who holds nothing sees the rows. -/
@[simp] theorem seeJob_none (receipt : Option TelemetryDeliveryReceipt)
    (row : TelemetryProcessingJob) : ({ receipt := receipt } : Held).seeJob row = row := rfl

/-- What is seen of a receipt has its key. -/
@[simp] theorem seeReceipt_receiptId (row : TelemetryDeliveryReceipt) :
    (held.seeReceipt row).receiptId = row.receiptId := by
  -- The object that is seen is the one held under the key of the row, or the row.
  unfold seeReceipt
  split
  next object _ => split_ifs with same <;> simp [*]
  next => rfl

/-- What is seen of a job has its key. -/
@[simp] theorem seeJob_jobId (row : TelemetryProcessingJob) :
    (held.seeJob row).jobId = row.jobId := by
  -- The object that is seen is the one held under the key of the row, or the row.
  unfold seeJob
  split
  next object _ => split_ifs with same <;> simp [*]
  next => rfl

/-- The current objects of a session are rows, and what they were loaded from. -/
theorem isCurrent_iff : held.isCurrent db = true ↔
    (∀ object, held.receipt = some object → db.receipts.get? object.receiptId = some object) ∧
      ∀ object, held.job = some object → db.jobs.get? object.jobId = some object := by
  -- By what is held.
  rcases held with ⟨_ | _, _ | _⟩ <;> simp [isCurrent]

/-- Who holds nothing holds nothing that could be out of date. -/
@[simp] theorem isCurrent_empty : ({} : Held).isCurrent db = true := rfl

/-- A session with current objects sees the receipts as they are. -/
theorem seeReceipt_current (current : held.isCurrent db = true) {row : TelemetryDeliveryReceipt}
    (member : row ∈ db.receipts) : held.seeReceipt row = row := by
  -- The held object is a row, and the only one with its identifier.
  unfold seeReceipt
  split
  next object loaded =>
    split_ifs with same
    · obtain ⟨present, -⟩ := Table.get?_eq_some.mp ((isCurrent_iff.mp current).1 object loaded)
      exact Table.eq_of_key present member same
    · rfl
  next => rfl

/-- A session with current objects sees the jobs as they are. -/
theorem seeJob_current (current : held.isCurrent db = true) {row : TelemetryProcessingJob}
    (member : row ∈ db.jobs) : held.seeJob row = row := by
  -- The held object is a row, and the only one with its identifier.
  unfold seeJob
  split
  next object loaded =>
    split_ifs with same
    · obtain ⟨present, -⟩ := Table.get?_eq_some.mp ((isCurrent_iff.mp current).2 object loaded)
      exact Table.eq_of_key present member same
    · rfl
  next => rfl

/-- A receipt that is written by a session with current objects is written as a whole. -/
theorem storeReceipt_current (current : held.isCurrent db = true)
    (changed : TelemetryDeliveryReceipt) :
    held.storeReceipt changed db = { db with receipts := db.receipts.set changed } := by
  -- What the session sees is the row, so every column is that of the change.
  unfold storeReceipt
  cases found : db.receipts.get? changed.receiptId with
  | none => simp [Table.set_of_unused found]
  | some row =>
    obtain ⟨member, same⟩ := Table.get?_eq_some.mp found
    simp only [seeReceipt_current current member, flush_loaded same.symm]

/-- A job that is written by a session with current objects is written as a whole. -/
theorem storeJob_current (current : held.isCurrent db = true) (changed : TelemetryProcessingJob) :
    held.storeJob changed db = { db with jobs := db.jobs.set changed } := by
  -- What the session sees is the row, so every column is that of the change.
  unfold storeJob
  cases found : db.jobs.get? changed.jobId with
  | none => simp [Table.set_of_unused found]
  | some row =>
    obtain ⟨member, same⟩ := Table.get?_eq_some.mp found
    simp only [seeJob_current current member, flushJob_loaded same.symm]

/-- The objects of a session stay current while rows are added beside them. -/
theorem isCurrent_of_kept {after : Database} (current : held.isCurrent db = true)
    (receipts : ∀ row ∈ db.receipts, row ∈ after.receipts)
    (jobs : ∀ row ∈ db.jobs, row ∈ after.jobs) : held.isCurrent after = true := by
  -- A row that is kept is still the one under its key.
  obtain ⟨receipt, job⟩ := isCurrent_iff.mp current
  exact isCurrent_iff.mpr ⟨fun object loaded => Table.get?_of_kept receipts (receipt object loaded),
    fun object loaded => Table.get?_of_kept jobs (job object loaded)⟩

/-- The objects of a session stay current through its own change of a receipt. -/
theorem isCurrent_changeReceipt (current : held.isCurrent db = true)
    (changed : TelemetryDeliveryReceipt) :
    (held.changeReceipt changed).isCurrent { db with receipts := db.receipts.set changed } = true := by
  -- The held receipt is the changed one or another, which the change leaves alone.
  obtain ⟨receipt, job⟩ := isCurrent_iff.mp current
  refine isCurrent_iff.mpr ⟨fun object loaded => ?_, job⟩
  obtain ⟨before, loadedBefore, rfl⟩ := Option.map_eq_some_iff.mp loaded
  have found := receipt before loadedBefore
  split_ifs with same
  · rw [Table.get?_set, if_pos rfl, ← same, found]
    rfl
  · rw [Table.get?_set, if_neg (Ne.symm same), found]

/-- The objects of a session stay current through its own change of a job. -/
theorem isCurrent_changeJob (current : held.isCurrent db = true) (changed : TelemetryProcessingJob) :
    (held.changeJob changed).isCurrent { db with jobs := db.jobs.set changed } = true := by
  -- The held job is the changed one or another, which the change leaves alone.
  obtain ⟨receipt, job⟩ := isCurrent_iff.mp current
  refine isCurrent_iff.mpr ⟨receipt, fun object loaded => ?_⟩
  obtain ⟨before, loadedBefore, rfl⟩ := Option.map_eq_some_iff.mp loaded
  have found := job before loadedBefore
  split_ifs with same
  · rw [Table.get?_set, if_pos rfl, ← same, found]
    rfl
  · rw [Table.get?_set, if_neg (Ne.symm same), found]

end Held

/-- What holds before an insertion and after one that is admitted holds after an attempt. -/
theorem insertWhen_keeps {admitted : Prop} [Decidable admitted] {db next : Database}
    (kept : Database → Prop) (before : kept db) (after : admitted → kept next) :
    kept (Stmt.insertWhen admitted db next).2 := by
  -- An insertion that is refused leaves the tables as they are.
  unfold Stmt.insertWhen
  split_ifs with holds
  · exact after holds
  · exact before

/-- A statement of a session with current objects does what it does in any session. -/
theorem Stmt.execHolding_current (stmt : Stmt) (held : Held) (db : Database)
    (current : held.isCurrent db = true) :
    ∃ later : Held, stmt.execHolding (held, db) = ((stmt.exec db).1, later, (stmt.exec db).2) ∧
      later.isCurrent (stmt.exec db).2 = true := by
  -- One case per statement: reads see rows, updates write rows and objects alike, and insertions
  -- touch neither.
  cases stmt with
  | selectReceipt receiptId forUpdate =>
    refine ⟨held, ?_, current⟩
    rw [execHolding, exec]
    cases found : db.receipts.get? receiptId with
    | none => rfl
    | some row =>
      rw [Option.map_some, held.seeReceipt_current current (Table.get?_eq_some.mp found).1]
  | selectJob jobId forUpdate =>
    refine ⟨held, ?_, current⟩
    rw [execHolding, exec]
    cases found : db.jobs.get? jobId with
    | none => rfl
    | some row => rw [Option.map_some, held.seeJob_current current (Table.get?_eq_some.mp found).1]
  | selectJobByPacket packetId =>
    refine ⟨held, ?_, current⟩
    rw [execHolding, exec]
    cases found : db.jobByPacket packetId with
    | none => rfl
    | some row => rw [Option.map_some, held.seeJob_current current (of_jobByPacket found).1]
  | selectAcceptedReceipts packetId =>
    refine ⟨held, ?_, current⟩
    rw [execHolding, exec]
    have seen : (db.acceptedReceipts packetId).map held.seeReceipt = db.acceptedReceipts packetId := by
      conv_rhs => rw [← List.map_id (db.acceptedReceipts packetId)]
      exact List.map_congr_left fun row member =>
        held.seeReceipt_current current (List.mem_filter.mp member).1
    rw [seen]
  | updateReceipt changed =>
    exact ⟨held.changeReceipt changed, by rw [execHolding, held.storeReceipt_current current]; rfl,
      held.isCurrent_changeReceipt current changed⟩
  | updateJob changed =>
    exact ⟨held.changeJob changed, by rw [execHolding, held.storeJob_current current]; rfl,
      held.isCurrent_changeJob current changed⟩
  | insertReceipt row =>
    exact ⟨held, rfl, insertWhen_keeps (fun db => held.isCurrent db = true) current
      fun admitted => held.isCurrent_of_kept current
        (fun _ member => (Table.mem_insert admitted.1).mpr (Or.inl member)) fun _ member => member⟩
  | insertJob row =>
    exact ⟨held, rfl, insertWhen_keeps (fun db => held.isCurrent db = true) current
      fun admitted => held.isCurrent_of_kept current (fun _ member => member)
        fun _ member => (Table.mem_insert admitted.1).mpr (Or.inl member)⟩
  | insertIdentity row | insertPacket row | insertState row | insertProcessed row =>
    exact ⟨held, rfl, insertWhen_keeps (fun db => held.isCurrent db = true) current
      fun _ => current⟩
  | insertAudit event | updateState row => exact ⟨held, rfl, current⟩
  | selectIdentity | selectPacket | selectPacketBySource | selectState | selectProcessed | selectJobs
  | countJobs | selectAuditEvents => exact ⟨held, rfl, current⟩

/-- A program of a session whose objects are current runs as in a session that holds none. -/
theorem remembering_current {α : Type} (program : Repo α) {held : Held} {db : Database}
    (current : held.isCurrent db = true) :
    remembering Stmt.execHolding {} program held db = serially Stmt.exec program db :=
  remembering_eq_serially (fun held db => held.isCurrent db = true)
    (fun _ => Held.isCurrent_empty) Stmt.execHolding_current program current

/-- A transaction of a session that holds nothing has the effect of its body as a whole. -/
theorem atomicallyFrom_empty {α : Type} (body : Txn α) (db : Database) :
    atomicallyFrom Stmt.execHolding body {} db = atomically Stmt.exec body db := by
  -- Nothing is held, so what is held is current.
  rw [← remembering_transaction Stmt.execHolding {}, remembering_current _ Held.isCurrent_empty,
    serially_transaction]

/-- A call of a session whose objects are current does what it does in a session that holds none. -/
theorem RepoCall.execHolding_current (env : Surroundings) (call : RepoCall) {held : Held}
    {db : Database} (current : held.isCurrent db = true) :
    call.execHolding env held db = call.exec env db :=
  remembering_current _ current

/-- A call of a session that holds nothing does what it does in any session. -/
@[simp] theorem RepoCall.execHolding_empty (env : Surroundings) (call : RepoCall) (db : Database) :
    call.execHolding env {} db = call.exec env db :=
  call.execHolding_current env Held.isCurrent_empty

/-- A statement that only reads hands its reply on. -/
theorem atomicallyFrom_select {α : Type} {stmt : Stmt} {reply : stmt.Reply}
    {after : stmt.Reply → Txn α} {held : Held} {db : Database}
    (reads : stmt.execHolding (held, db) = (.ok reply, held, db)) :
    atomicallyFrom Stmt.execHolding (sql stmt >>= after) held db =
      atomicallyFrom Stmt.execHolding (after reply) held db := by
  -- The read leaves the objects and the tables as they are.
  rw [atomicallyFrom, sql, runAlone_call_bind_ok Stmt.execHolding reads, atomicallyFrom]

section
variable {held : Held} {db : Database} {row : TelemetryDeliveryReceipt}

/-- A receipt that is settled and written back keeps the columns that were not changed. -/
theorem settle_keepReceipt (member : row ∈ db.receipts) (object : TelemetryDeliveryReceipt)
    {changed : TelemetryDeliveryReceipt} (same : changed.receiptId = row.receiptId)
    (event : TelemetryAuditEvent) :
    (db.settle changed event).keepReceipt row object = db.settle (row.flush object changed) event := by
  -- The row is found under the same key, and the last write wins.
  have found : (db.receipts.set changed).get? row.receiptId = some changed := by
    rw [Table.get?_set, if_pos same, Table.get?_key member]
    rfl
  rw [Database.keepReceipt, Database.settle, Database.settle]
  dsimp only
  rw [found]
  simp only [Table.set_set, TelemetryDeliveryReceipt.flush, same]

/-- What a held receipt leaves of the tables when nothing was changed. -/
theorem keepReceipt_unchanged (member : row ∈ db.receipts) (object : TelemetryDeliveryReceipt) :
    db.keepReceipt row object = db := by
  -- The row is written over itself.
  rw [Database.keepReceipt, Table.get?_key member]
  simp only [flush_unchanged, Table.set_of_mem member]

/-- Writing back an object writes the columns that were changed in it. -/
theorem storeReceipt_object (member : row ∈ db.receipts) {changed : TelemetryDeliveryReceipt}
    (same : changed.receiptId = row.receiptId) :
    held.storeReceipt changed db =
      { db with receipts := db.receipts.set (row.flush (held.seeReceipt row) changed) } := by
  -- The row is found under its key.
  rw [Held.storeReceipt, same, Table.get?_key member]

/-- A receipt that is written back with an audit event is settled, but for what was not changed. -/
theorem storeReceipt_settles (member : row ∈ db.receipts) {changed : TelemetryDeliveryReceipt}
    (same : changed.receiptId = row.receiptId) (event : TelemetryAuditEvent) :
    { held.storeReceipt changed db with auditEvents := db.auditEvents ++ [event] } =
      (db.settle changed event).keepReceipt row (held.seeReceipt row) := by
  -- The row is written by column, and the event is appended as it is.
  rw [settle_keepReceipt member _ same, storeReceipt_object member same, Database.settle]

/-- `reject_delivery` decides on the object that the session sees. -/
theorem rejectDelivery_holding {receiptId : UUID} (found : db.receipts.get? receiptId = some row)
    (reason : String) (parsedIdentifiers : Option JsonObject) (actorIdentity : String) :
    HeldRejectOutcome db row (held.seeReceipt row) reason parsedIdentifiers actorIdentity
      (atomicallyFrom Stmt.execHolding
        (rejectDeliveryTransaction receiptId reason parsedIdentifiers actorIdentity) held db) := by
  -- The transaction reads the object and branches on its status; it writes in the last branch only.
  obtain ⟨member, rfl⟩ := Table.get?_eq_some.mp found
  have reads : (Stmt.selectReceipt row.receiptId true).execHolding (held, db) =
      (.ok (some (held.seeReceipt row)), held, db) := by
    rw [Stmt.execHolding, found]
    rfl
  rw [rejectDeliveryTransaction, atomicallyFrom_select reads]
  dsimp only
  split_ifs with rejected reason other
  · exact .refused (by simp [rejected]) _
  · exact .repeated rejected (not_not.mp reason)
  · exact .refused other _
  · have run : atomicallyFrom Stmt.execHolding (do
        sql (.updateReceipt (rejectedReceipt (held.seeReceipt row) reason parsedIdentifiers))
        audit (rejectedEvent row.receiptId reason parsedIdentifiers actorIdentity)
        return deliveryResult (rejectedReceipt (held.seeReceipt row) reason parsedIdentifiers) false
          false) held db =
        (.ok (deliveryResult (rejectedReceipt (held.seeReceipt row) reason parsedIdentifiers) false
            false),
          (db.settle (rejectedReceipt (held.seeReceipt row) reason parsedIdentifiers)
            (rejectedEvent (held.seeReceipt row).receiptId reason parsedIdentifiers
              actorIdentity)).keepReceipt row (held.seeReceipt row)) := by
      have same : (rejectedReceipt (held.seeReceipt row) reason parsedIdentifiers).receiptId =
          row.receiptId := held.seeReceipt_receiptId row
      rw [← storeReceipt_settles member same, held.seeReceipt_receiptId]
      rfl
    exact run ▸ .rejected (not_not.mp other)

section Acceptance
variable {values : DecodedTelemetryValues} {jobId : UUID} {options : AcceptanceOptions}

/-- Bytes are compared with the evidence of the source, which every object of it shows. -/
theorem isExactDuplicate_seen {existing : LogicalTelemetryPacket} {object : TelemetryDeliveryReceipt}
    (evidence : ∀ origin ∈ db.receipts, (held.seeReceipt origin).evidence = origin.evidence) :
    isExactDuplicate object existing
        ((db.receipts.get? existing.sourceReceiptId).map held.seeReceipt) =
      isExactDuplicate object existing (db.receipts.get? existing.sourceReceiptId) := by
  -- The comparison looks at the bytes of the source, which are evidence.
  cases source : db.receipts.get? existing.sourceReceiptId with
  | none => rfl
  | some origin =>
    have same : (held.seeReceipt origin).rawBody = origin.rawBody :=
      congrArg (·.rawBody) (evidence origin (Table.get?_eq_some.mp source).1)
    simp only [Option.map_some, isExactDuplicate, Option.any_some, same]

variable (nojob : held.job = none)
variable (evidence : ∀ origin ∈ db.receipts, (held.seeReceipt origin).evidence = origin.evidence)

include nojob in
/-- The job of a packet is no held object. -/
theorem seeJob_of_none (found : Option TelemetryProcessingJob) : found.map held.seeJob = found := by
  -- Without an object the row itself is seen.
  cases found with
  | none => rfl
  | some job => rw [Option.map_some, Held.seeJob, nojob]

include nojob evidence in
/-- A delivery under a used source key: the object becomes a duplicate or a conflict. -/
theorem settleExisting_holding {existing : LogicalTelemetryPacket} (member : row ∈ db.receipts)
    (actorIdentity : String) :
    atomicallyFrom Stmt.execHolding
        (settleExisting (held.seeReceipt row) values existing actorIdentity) held db =
      ((atomically Stmt.exec (settleExisting (held.seeReceipt row) values existing actorIdentity)
          db).1,
        (atomically Stmt.exec (settleExisting (held.seeReceipt row) values existing actorIdentity)
          db).2.keepReceipt row (held.seeReceipt row)) := by
  -- Either branch writes the receipt once and goes on with reads and an event.
  have reads : (Stmt.selectReceipt existing.sourceReceiptId false).execHolding (held, db) =
      (.ok ((db.receipts.get? existing.sourceReceiptId).map held.seeReceipt), held, db) := rfl
  have key : (held.seeReceipt row).receiptId = row.receiptId := held.seeReceipt_receiptId row
  rw [settleExisting, atomicallyFrom_select reads, atomically_select rfl]
  rw [isExactDuplicate_seen evidence]
  split_ifs with exact
  · have same : (duplicateReceipt (held.seeReceipt row) values existing).receiptId = row.receiptId :=
      key
    have plain : atomically Stmt.exec (do
        sql (.updateReceipt (duplicateReceipt (held.seeReceipt row) values existing))
        let existingJob : Option TelemetryProcessingJob ←
          sql (.selectJobByPacket existing.packetId)
        audit (duplicateEvent (held.seeReceipt row) existing existingJob actorIdentity)
        return duplicateResult (held.seeReceipt row) existing existingJob) db =
        (.ok (duplicateResult (held.seeReceipt row) existing (db.jobByPacket existing.packetId)),
          db.settle (duplicateReceipt (held.seeReceipt row) values existing)
            (duplicateEvent (held.seeReceipt row) existing (db.jobByPacket existing.packetId)
              actorIdentity)) := rfl
    rw [plain, ← storeReceipt_settles member same,
      ← seeJob_of_none (show (held.changeReceipt (duplicateReceipt (held.seeReceipt row) values
        existing)).job = none from nojob) (db.jobByPacket existing.packetId)]
    rfl
  · have same : (sequenceConflictReceipt (held.seeReceipt row) values existing).receiptId =
        row.receiptId := key
    have plain : atomically Stmt.exec (do
        sql (.updateReceipt (sequenceConflictReceipt (held.seeReceipt row) values existing))
        audit (sequenceConflictEvent (held.seeReceipt row) existing actorIdentity)
        return sequenceConflictResult (held.seeReceipt row) existing) db =
        (.ok (sequenceConflictResult (held.seeReceipt row) existing),
          db.settle (sequenceConflictReceipt (held.seeReceipt row) values existing)
            (sequenceConflictEvent (held.seeReceipt row) existing actorIdentity)) := rfl
    rw [plain, ← storeReceipt_settles member same]
    rfl

/-- A high-water mark whose packet is missing: the object becomes a conflict. -/
theorem settleStateConflict_holding (member : row ∈ db.receipts) (actorIdentity : String) :
    atomicallyFrom Stmt.execHolding
        (settleStateConflict (held.seeReceipt row) values actorIdentity) held db =
      ((atomically Stmt.exec (settleStateConflict (held.seeReceipt row) values actorIdentity) db).1,
        (atomically Stmt.exec (settleStateConflict (held.seeReceipt row) values actorIdentity)
          db).2.keepReceipt row (held.seeReceipt row)) := by
  -- The receipt is written once, before the event.
  have same : (stateConflictReceipt (held.seeReceipt row) values).receiptId = row.receiptId :=
    held.seeReceipt_receiptId row
  have plain : atomically Stmt.exec (settleStateConflict (held.seeReceipt row) values actorIdentity)
      db = (.ok (stateConflictResult (held.seeReceipt row)),
        db.settle (stateConflictReceipt (held.seeReceipt row) values)
          (stateConflictEvent (held.seeReceipt row) actorIdentity)) := rfl
  rw [plain, ← storeReceipt_settles member same]
  rfl

/--
A body that writes one receipt does the same on a held object as on a row, but for the columns of
the row that it does not change.
-/
structure Writes {α : Type} (held : Held) (row : TelemetryDeliveryReceipt) (body : Txn α)
    (db : Database) : Prop where
  answer : (body.runAlone Stmt.execHolding (held, db)).1 = (body.runAlone Stmt.exec db).1
  tables : ∀ value, (body.runAlone Stmt.exec db).1 = .ok value →
    (body.runAlone Stmt.execHolding (held, db)).2.2 =
      (body.runAlone Stmt.exec db).2.keepReceipt row (held.seeReceipt row)

/-- A statement on other tables comes before. -/
theorem Writes.after {α : Type} {stmt : Stmt} {next : stmt.Reply → Txn α}
    (other : stmt.execHolding (held, db) = ((stmt.exec db).1, held, (stmt.exec db).2))
    (rest : ∀ reply, Writes held row (next reply) (stmt.exec db).2) :
    Writes held row (sql stmt >>= next) db := by
  -- A statement that fails ends both executions, one that answers continues both.
  cases replied : stmt.exec db with
  | mk reply later =>
    rw [replied] at other rest
    cases reply with
    | error error =>
      have plain := @runAlone_call_bind_error _ _ _ _ _ Stmt.exec _ next _ _ _ replied
      have holding := @runAlone_call_bind_error _ _ _ _ _ Stmt.execHolding _ next _ _ _ other
      constructor
      · rw [sql, plain, holding]
      · intro value returned
        rw [sql, plain] at returned
        cases returned
    | ok reply =>
      have plain := @runAlone_call_bind_ok _ _ _ _ _ Stmt.exec _ next _ _ _ replied
      have holding := @runAlone_call_bind_ok _ _ _ _ _ Stmt.execHolding _ next _ _ _ other
      constructor
      · rw [sql, plain, holding]
        exact (rest reply).answer
      · intro value returned
        rw [sql, plain] at returned ⊢
        rw [holding]
        exact (rest reply).tables value returned

/-- The receipt is written back at the end, with an audit event. -/
theorem Writes.last {α : Type} (member : row ∈ db.receipts) {changed : TelemetryDeliveryReceipt}
    (same : changed.receiptId = row.receiptId) (event : TelemetryAuditEvent) (value : α) :
    Writes held row (do
      sql (.updateReceipt changed)
      audit event
      return value) db :=
  ⟨rfl, fun _ _ => storeReceipt_settles member same event⟩

/-- A transaction whose body writes one receipt. -/
theorem Writes.atomicallyFrom {α : Type} {body : Txn α} (writes : Writes held row body db)
    (member : row ∈ db.receipts) :
    atomicallyFrom Stmt.execHolding body held db =
      ((atomically Stmt.exec body db).1,
        (atomically Stmt.exec body db).2.keepReceipt row (held.seeReceipt row)) := by
  -- A body that raises is rolled back; one that returns has written the receipt.
  obtain ⟨answer, tables⟩ := writes
  rw [Foundation.atomicallyFrom, atomically]
  rcases plain : body.runAlone Stmt.exec db with ⟨error | value, next⟩
  · rcases holding : body.runAlone Stmt.execHolding (held, db) with ⟨_, _, _⟩
    rw [plain, holding] at answer
    obtain rfl := answer
    dsimp only
    rw [keepReceipt_unchanged member]
  · rcases holding : body.runAlone Stmt.execHolding (held, db) with ⟨_, _, after⟩
    rw [plain, holding] at answer tables
    obtain rfl := answer
    dsimp only
    rw [← tables value rfl]

/-- Adding a packet writes the held receipt as accepted. -/
theorem acceptNew_writes (member : row ∈ db.receipts) (sequenceState : Option TelemetrySequenceState)
    (disposition : PacketDisposition) (missingBefore : Int) :
    Writes held row (acceptNew (held.seeReceipt row) values sequenceState disposition missingBefore
      jobId options) db := by
  have same : (acceptedReceipt (held.seeReceipt row) values).receiptId = row.receiptId :=
    held.seeReceipt_receiptId row
  -- No insertion touches the receipts.
  have insertion : ∀ {admitted : Prop} [Decidable admitted] {before next : Database},
      row ∈ before.receipts → (admitted → row ∈ next.receipts) →
      row ∈ (Stmt.insertWhen admitted before next).2.receipts :=
    fun before after => insertWhen_keeps (fun db => row ∈ db.receipts) before after
  refine .after rfl fun _ => ?_
  have first : row ∈ ((Stmt.insertPacket (newPacket (held.seeReceipt row) values disposition
    missingBefore)).exec db).2.receipts := insertion member fun _ => member
  cases sequenceState with
  | none =>
    refine .after rfl fun _ => .after rfl fun _ => .last ?_ same _ _
    exact insertion (insertion first fun _ => first) fun _ => insertion first fun _ => first
  | some state =>
    refine .after rfl fun _ => .after rfl fun _ => .last ?_ same _ _
    exact insertion first fun _ => first

include nojob evidence in
/-- A pending object is settled as a pending row would be. -/
theorem settlePending_holding (member : row ∈ db.receipts) :
    atomicallyFrom Stmt.execHolding (settlePending (held.seeReceipt row) values jobId options) held
        db =
      ((atomically Stmt.exec (settlePending (held.seeReceipt row) values jobId options) db).1,
        (atomically Stmt.exec (settlePending (held.seeReceipt row) values jobId options)
          db).2.keepReceipt row (held.seeReceipt row)) := by
  -- Both executions read the same packet and the same state, and then write the receipt in the same
  -- branch.
  rw [settlePending, atomicallyFrom_select rfl, atomically_select rfl]
  cases db.packetBySource values.sourceKey with
  | some existing => exact settleExisting_holding nojob evidence member _
  | none =>
    dsimp only
    rw [atomicallyFrom_select rfl, atomically_select rfl]
    cases sequencePosition values.sequenceNumber
        (db.states.get? (values.payloadId, values.bootId)) with
    | none => exact settleStateConflict_holding member _
    | some place => exact (acceptNew_writes member _ _ _).atomicallyFrom member

include nojob evidence in
/-- The acceptance transaction decides on the object that the session sees. -/
theorem acceptPacket_holding {receiptId : UUID} (found : db.receipts.get? receiptId = some row) :
    HeldAcceptOutcome db row (held.seeReceipt row) values jobId options
      (atomicallyFrom Stmt.execHolding (acceptPacketTransaction receiptId values jobId options) held
        db) := by
  -- The transaction reads the object and branches on its status: replay, refuse or settle.
  have reads : (Stmt.selectReceipt receiptId true).execHolding (held, db) =
      (.ok (some (held.seeReceipt row)), held, db) := by
    rw [Stmt.execHolding, found]
    rfl
  rw [acceptPacketTransaction, atomicallyFrom_select reads]
  dsimp only
  split_ifs with settled other
  · have answer : atomicallyFrom Stmt.execHolding (replayAcceptance (held.seeReceipt row)) held db =
        (.ok (replayedAcceptance (held.seeReceipt row)
          ((held.seeReceipt row).logicalPacketId.bind db.packets.get?)
          ((held.seeReceipt row).logicalPacketId.bind db.jobByPacket)), db) := by
      rw [replayAcceptance]
      cases (held.seeReceipt row).logicalPacketId with
      | none => rfl
      | some packetId =>
        rw [Option.bind_some, Option.bind_some, ← seeJob_of_none nojob (db.jobByPacket packetId)]
        rfl
    rw [answer]
    exact .replayed settled
  · refine .refused ?_ _
    cases status : (held.seeReceipt row).validationStatus <;> simp [status] at settled other ⊢
  · rw [settlePending_holding nojob evidence (Table.get?_eq_some.mp found).1]
    exact .settled (not_not.mp other) settlePending_outcome

end Acceptance

end

section Queueing
variable {job : Option TelemetryProcessingJob} {db : Database} {row : TelemetryProcessingJob}

/-- A job that is written back after a change keeps the columns that were not changed. -/
theorem queue_keepJob (member : row ∈ db.jobs) (object : TelemetryProcessingJob)
    (key : object.jobId = row.jobId) (queueMessageId actorIdentity : String) :
    (db.queue object queueMessageId actorIdentity).keepJob row object =
      { db.queue object queueMessageId actorIdentity with
        jobs := db.jobs.set (row.flush object (queuedJob object queueMessageId)) } := by
  -- The row is found under the same key, and the last write wins.
  have same : (queuedJob object queueMessageId).jobId = row.jobId := key
  have found : (db.jobs.set (queuedJob object queueMessageId)).get? row.jobId =
      some (queuedJob object queueMessageId) := by
    rw [Table.get?_set, if_pos same, Table.get?_key member]
    rfl
  rw [Database.keepJob, Database.queue]
  dsimp only
  rw [found]
  simp only [Table.set_set, TelemetryProcessingJob.flush, same]

/-- A session that holds no receipt writes a receipt as a whole. -/
theorem updateReceipt_holding (changed : TelemetryDeliveryReceipt) (db : Database) :
    (Stmt.updateReceipt changed).execHolding ({ job := job }, db) =
      (.ok (), { job := job }, { db with receipts := db.receipts.set changed }) := by
  -- Nothing is held of receipts, so what is seen is current.
  have empty : ({} : Held).isCurrent db = true := Held.isCurrent_empty
  have stored : ({ job := job } : Held).storeReceipt changed db = _ :=
    Held.storeReceipt_current empty changed
  rw [Stmt.execHolding, stored]
  rfl

/-- Writing back a list of receipts as queued touches only those receipts. -/
theorem runAlone_updateQueued_holding (receipts : List TelemetryDeliveryReceipt) (db : Database) :
    (updateQueued receipts).runAlone Stmt.execHolding ({ job := job }, db) =
      (.ok (), { job := job }, { db with
        receipts := receipts.foldl
          (fun table receipt => table.set { receipt with queueStatus := .queued })
          db.receipts }) := by
  -- By induction on the receipts.
  induction receipts generalizing db with
  | nil => rfl
  | cons receipt rest ih =>
    rw [updateQueued, sql, runAlone_call_bind_ok Stmt.execHolding (updateReceipt_holding _ db), ih]
    rfl

/-- `mark_job_queued` decides on the object that the session sees. -/
theorem markJobQueued_holding {jobId : UUID} (found : db.jobs.get? jobId = some row)
    (queueMessageId actorIdentity : String) :
    HeldQueueOutcome db row (({ job := job } : Held).seeJob row) queueMessageId actorIdentity
      (atomicallyFrom Stmt.execHolding
        (markJobQueuedTransaction jobId queueMessageId actorIdentity) { job := job } db) := by
  obtain ⟨member, rfl⟩ := Table.get?_eq_some.mp found
  have reads : (Stmt.selectJob row.jobId true).execHolding ({ job := job }, db) =
      (.ok (some (({ job := job } : Held).seeJob row)), { job := job }, db) := by
    rw [Stmt.execHolding, found]
    rfl
  have key : (({ job := job } : Held).seeJob row).jobId = row.jobId := Held.seeJob_jobId row
  rw [markJobQueuedTransaction, atomicallyFrom_select reads]
  generalize seen : ({ job := job } : Held).seeJob row = object at key
  dsimp only
  split_ifs with queued renamed other
  · exact .renamed queued renamed _
  · exact .repeated queued (not_not.mp renamed)
  · exact .refused ⟨queued, other⟩ _
  · have waiting : object.state = .pendingQueue ∨ object.state = .retryWait := by
      by_cases pending : object.state = .pendingQueue
      · exact Or.inl pending
      · exact Or.inr (not_not.mp fun retry => other ⟨pending, retry⟩)
    have same : (queuedJob object queueMessageId).jobId = row.jobId := key
    have written : (Stmt.updateJob (queuedJob object queueMessageId)).execHolding ({ job := job }, db) =
        (.ok (), ({ job := job } : Held).changeJob (queuedJob object queueMessageId),
          { db with jobs := db.jobs.set (row.flush object (queuedJob object queueMessageId)) }) := by
      rw [Stmt.execHolding, Held.storeJob, same, Table.get?_key member, ← seen]
    have accepted : ∀ (held : Option TelemetryProcessingJob) (later : Database),
        (Stmt.selectAcceptedReceipts object.packetId).execHolding ({ job := held }, later) =
          (.ok (later.acceptedReceipts object.packetId), { job := held }, later) := fun held later =>
      congrArg (fun rows => (Except.ok rows, ({ job := held } : Held), later)) (List.map_id _)
    have run : atomicallyFrom Stmt.execHolding (do
        sql (.updateJob (queuedJob object queueMessageId))
        let receipts : List TelemetryDeliveryReceipt ←
          sql (.selectAcceptedReceipts object.packetId)
        updateQueued receipts
        audit (queuedEvent object queueMessageId actorIdentity)
        return true) { job := job } db =
        (.ok true, (db.queue object queueMessageId actorIdentity).keepJob row object) := by
      -- Writing the accepted receipts back one by one changes exactly those receipts.
      rw [queue_keepJob member _ key, Database.queue, ← Table.foldl_set_eq_modify, atomicallyFrom,
        sql, runAlone_call_bind_ok Stmt.execHolding written, sql, Held.changeJob,
        runAlone_call_bind_ok Stmt.execHolding (accepted _ _), runAlone_bind,
        runAlone_updateQueued_holding]
      rfl
    exact run ▸ .queued waiting

end Queueing

section Calls
variable {env : Surroundings} {db : Database}

/-- `reject_delivery` as a call decides on the object that the session sees. -/
theorem rejectDelivery_execHolding {held : Held} {receiptId : UUID} {row : TelemetryDeliveryReceipt}
    (found : db.receipts.get? receiptId = some row) (reason : String)
    (parsedIdentifiers : Option JsonObject) (actorIdentity : String) :
    HeldRejectOutcome db row (held.seeReceipt row) reason parsedIdentifiers actorIdentity
      ((RepoCall.rejectDelivery receiptId reason parsedIdentifiers actorIdentity).execHolding env held
        db) := by
  -- The call is one transaction that remembers what its caller holds.
  have happened := @rejectDelivery_holding held _ _ _ found reason parsedIdentifiers actorIdentity
  rwa [← remembering_transaction Stmt.execHolding {}] at happened

/-- `mark_job_queued` as a call decides on the object that the session sees. -/
theorem markJobQueued_execHolding {job : Option TelemetryProcessingJob} {jobId : UUID}
    {row : TelemetryProcessingJob} (found : db.jobs.get? jobId = some row)
    (queueMessageId actorIdentity : String) :
    HeldQueueOutcome db row (({ job := job } : Held).seeJob row) queueMessageId actorIdentity
      ((RepoCall.markJobQueued jobId queueMessageId actorIdentity).execHolding env { job := job }
        db) := by
  -- The call is one transaction that remembers what its caller holds.
  have happened := @markJobQueued_holding job _ _ _ found queueMessageId actorIdentity
  rwa [← remembering_transaction Stmt.execHolding {}] at happened

/-- Only an object that is pending gets as far as an integrity error. -/
theorem HeldAcceptOutcome.pending_of_integrity {row object : TelemetryDeliveryReceipt}
    {values : DecodedTelemetryValues} {jobId : UUID} {options : AcceptanceOptions}
    {outcome : Except StorageError PacketAcceptanceResult × Database} {error : StorageError}
    (happened : HeldAcceptOutcome db row object values jobId options outcome)
    (failed : outcome.1 = .error error) (integrity : error.isIntegrity = true) :
    object.validationStatus = .pending := by
  -- A replay returns, and a refusal is no integrity error.
  cases happened with
  | replayed => cases failed
  | refused =>
    cases failed
    cases integrity
  | settled status => exact status

/--
`accept_packet_and_create_job` as a call decides on the object that the session sees.

Its second attempt follows a rollback, which expires the object.
-/
theorem acceptPacketAndCreateJob_execHolding {receipt : Option TelemetryDeliveryReceipt}
    {receiptId : UUID} {row : TelemetryDeliveryReceipt}
    (found : db.receipts.get? receiptId = some row)
    (evidence : ∀ origin ∈ db.receipts,
      (({ receipt := receipt } : Held).seeReceipt origin).evidence = origin.evidence)
    (values : DecodedTelemetryValues) (maxAttempts : Int) (actorIdentity : String) :
    (∃ message, (RepoCall.acceptPacketAndCreateJob receiptId values maxAttempts
        actorIdentity).execHolding env { receipt := receipt } db =
          (.error (.valueError message), db)) ∨
      (0 ≤ values.sequenceNumber ∧ values.sequenceNumber ≤ maxUint32) ∧ 0 < maxAttempts ∧
        (HeldAcceptOutcome db row (({ receipt := receipt } : Held).seeReceipt row) values
            (env.uuid4 0) ⟨maxAttempts, actorIdentity, env.now⟩
            ((RepoCall.acceptPacketAndCreateJob receiptId values maxAttempts
              actorIdentity).execHolding env { receipt := receipt } db) ∨
          (({ receipt := receipt } : Held).seeReceipt row).validationStatus = .pending ∧
            AcceptOutcome db receiptId values (env.uuid4 1) ⟨maxAttempts, actorIdentity, env.now⟩
              ((RepoCall.acceptPacketAndCreateJob receiptId values maxAttempts
                actorIdentity).execHolding env { receipt := receipt } db)) := by
  rw [RepoCall.execHolding, RepoCall.program, Cislunar.acceptPacketAndCreateJob]
  by_cases range : 0 ≤ values.sequenceNumber ∧ values.sequenceNumber ≤ maxUint32
  swap
  · rw [if_pos range]
    exact Or.inl ⟨_, rfl⟩
  by_cases boot : values.bootId ≤ 0
  · rw [if_neg (not_not.mpr range), if_pos boot]
    exact Or.inl ⟨_, rfl⟩
  by_cases attempts : maxAttempts ≤ 0
  · rw [if_neg (not_not.mpr range), if_neg boot, if_pos attempts]
    exact Or.inl ⟨_, rfl⟩
  refine Or.inr ⟨range, Int.lt_of_not_ge attempts, ?_⟩
  rw [if_neg (not_not.mpr range), if_neg boot, if_neg attempts, remembering_retryOnce]
  -- The first attempt runs with the object, the second one without.
  have first : HeldAcceptOutcome db row (({ receipt := receipt } : Held).seeReceipt row) values
      (env.uuid4 0) ⟨maxAttempts, actorIdentity, env.now⟩ _ :=
    acceptPacket_holding rfl evidence found
  have second := acceptPacket_outcome receiptId values (env.uuid4 1)
    ⟨maxAttempts, actorIdentity, env.now⟩ db
  rw [← atomicallyFrom_empty] at second
  generalize ran : atomicallyFrom Stmt.execHolding (acceptPacketTransaction receiptId values
    (env.uuid4 0) ⟨maxAttempts, actorIdentity, env.now⟩) { receipt := receipt } db = outcome at first
  rcases outcome with ⟨error | value, next⟩
  · obtain rfl := atomicallyFrom_error Stmt.execHolding ran
    dsimp only
    split_ifs with again
    · -- Only an object that is pending gets as far as an integrity error.
      exact Or.inr ⟨first.pending_of_integrity rfl again, second⟩
    · exact Or.inl first
  · exact Or.inl first

end Calls

end Cislunar
