import Cislunar.Proofs.Telemetry.Sequence
import Cislunar.Telemetry.Isolation

/-!
One `accept_packet_and_create_job` call among others.

A note says how far a call on a pending receipt has come: the statements and the locks of its open
transaction, and what it relies on in the committed tables.
-/

namespace Cislunar

open Foundation

/-- The arguments of one `accept_packet_and_create_job` call and the identifiers it generates. -/
structure AcceptCall where
  receiptId : UUID
  values : DecodedTelemetryValues
  options : AcceptanceOptions
  uuid4 : Nat → UUID

/-- The place of a new packet in its session, and the state that was read for it. -/
structure Placement where
  tracked : Option TelemetrySequenceState
  disposition : PacketDisposition
  missingBefore : Int

namespace AcceptCall
variable (call : AcceptCall) (receipt : TelemetryDeliveryReceipt)

/-- The call as a program. -/
def program : Repo PacketAcceptanceResult :=
  acceptPacketAndCreateJob call.receiptId call.values call.options call.uuid4

/-- The key of the packet. -/
def key : Int × Int × Int := call.values.sourceKey

/-- The session of the packet. -/
def session : Int × Int := (call.values.payloadId, call.values.bootId)

/-- The packet of an accepted receipt. -/
def packet (place : Placement) : LogicalTelemetryPacket :=
  newPacket receipt call.values place.disposition place.missingBefore

/-- The statement that counts the packet in its session. -/
def counting (place : Placement) : Stmt :=
  match place.tracked with
  | none => .insertState (firstState call.values place.missingBefore)
  | some state => .updateState (state.count call.values place.disposition place.missingBefore)

/-- The job of an attempt. -/
def job (attempt : Nat) : TelemetryProcessingJob :=
  newJob (call.uuid4 attempt) call.values.packetId call.options.maxAttempts call.options.now

/-- The audit event of an accepted packet. -/
def acceptedEvent (attempt : Nat) (place : Placement) : TelemetryAuditEvent :=
  Cislunar.acceptedEvent receipt call.values place.disposition place.missingBefore
    (call.uuid4 attempt) call.options.actorIdentity

/-- The receipt of a call whose key has a packet. -/
def linked (existing : LogicalTelemetryPacket) (exact : Bool) : TelemetryDeliveryReceipt :=
  if exact then duplicateReceipt receipt call.values existing
  else sequenceConflictReceipt receipt call.values existing

/-- The arguments of a call pass its checks and those of the tables. -/
structure Valid : Prop where
  range : 0 ≤ call.values.sequenceNumber ∧ call.values.sequenceNumber ≤ maxUint32
  positive : 0 < call.values.payloadId ∧ 0 < call.values.bootId
  attempts : 0 < call.options.maxAttempts

/-- The receipt of a call is as the call found it, and its job identifiers are unused. -/
def Waiting (db : Database) : Prop :=
  db.receipts.get? call.receiptId = some receipt ∧
    ∀ attempt, db.jobs.get? (call.uuid4 attempt) = none

/-- The session of a call has a state. -/
def Begun (db : Database) : Prop :=
  ∃ state, db.states.get? call.session = some state

/-- The place of the packet follows from the state that was read. -/
def Placed (place : Placement) : Prop :=
  sequencePosition call.values.sequenceNumber place.tracked =
    some (place.disposition, place.missingBefore)

/-- The key of a call has a packet, which was compared with the receipt. -/
def Compared (existing : LogicalTelemetryPacket) (exact : Bool) (db : Database) : Prop :=
  existing ∈ db.packets ∧ existing.values.sourceKey = call.key ∧
    ∃ origin, db.receipts.get? existing.sourceReceiptId = some origin ∧
      isExactDuplicate receipt existing (some origin) = exact

end AcceptCall

/-- How far an `accept_packet_and_create_job` call has come. -/
inductive AcceptNote where
  /-- Before the look for the receipt. -/
  | opening (attempt : Nat)
  /-- Before the look for the packet under the key. -/
  | opened (attempt : Nat)
  /-- There is a packet. -/
  | matched (existing : LogicalTelemetryPacket)
  | compared (existing : LogicalTelemetryPacket) (exact : Bool)
  | linked (existing : LogicalTelemetryPacket) (exact : Bool)
  | informed (existing : LogicalTelemetryPacket) (job : Option TelemetryProcessingJob)
  | repeated (existing : LogicalTelemetryPacket) (job : Option TelemetryProcessingJob)
  | disputed (existing : LogicalTelemetryPacket)
  /-- There is no packet; before the look at the sequence state. -/
  | window (attempt : Nat)
  | ready (attempt : Nat) (place : Placement)
  | packed (attempt : Nat) (place : Placement)
  | counted (attempt : Nat) (place : Placement)
  | hired (attempt : Nat) (place : Placement)
  | marked (attempt : Nat) (place : Placement)
  | sealed (attempt : Nat) (place : Placement)
  /-- Another call has added the packet. -/
  | outrun
  /-- Another call has added the sequence state. -/
  | preceded (place : Placement)
  | duplicate (existing : LogicalTelemetryPacket) (job : Option TelemetryProcessingJob)
  | conflict (existing : LogicalTelemetryPacket)
  | accepted (attempt : Nat) (place : Placement)

namespace AcceptNote
variable (call : AcceptCall) (receipt : TelemetryDeliveryReceipt)

/-- The statements before the packet is known to exist or not. -/
def look : List Stmt := [.selectReceipt call.receiptId true, .selectPacketBySource call.key]

/-- The statements of the transaction so far. -/
def log : AcceptNote → List Stmt
  | opening _ | duplicate _ _ | conflict _ | accepted _ _ => []
  | opened _ => [.selectReceipt call.receiptId true]
  | matched _ | window _ => look call
  | compared existing _ => look call ++ [.selectReceipt existing.sourceReceiptId false]
  | linked existing exact => look call ++ [.selectReceipt existing.sourceReceiptId false,
    .updateReceipt (call.linked receipt existing exact)]
  | informed existing _ => look call ++ [.selectReceipt existing.sourceReceiptId false,
    .updateReceipt (call.linked receipt existing true), .selectJobByPacket existing.packetId]
  | repeated existing job => look call ++ [.selectReceipt existing.sourceReceiptId false,
    .updateReceipt (call.linked receipt existing true), .selectJobByPacket existing.packetId,
    .insertAudit (duplicateEvent receipt existing job call.options.actorIdentity)]
  | disputed existing => look call ++ [.selectReceipt existing.sourceReceiptId false,
    .updateReceipt (call.linked receipt existing false),
    .insertAudit (sequenceConflictEvent receipt existing call.options.actorIdentity)]
  | ready _ _ | outrun => look call ++ [.selectState call.session]
  | packed _ place | preceded place => look call ++ [.selectState call.session,
    .insertPacket (call.packet receipt place)]
  | counted _ place => look call ++ [.selectState call.session,
    .insertPacket (call.packet receipt place), call.counting place]
  | hired attempt place => look call ++ [.selectState call.session,
    .insertPacket (call.packet receipt place), call.counting place, .insertJob (call.job attempt)]
  | marked attempt place => look call ++ [.selectState call.session,
    .insertPacket (call.packet receipt place), call.counting place, .insertJob (call.job attempt),
    .updateReceipt (acceptedReceipt receipt call.values)]
  | sealed attempt place => look call ++ [.selectState call.session,
    .insertPacket (call.packet receipt place), call.counting place, .insertJob (call.job attempt),
    .updateReceipt (acceptedReceipt receipt call.values),
    .insertAudit (call.acceptedEvent receipt attempt place)]

/-- The lock on the receipt of a call. -/
def own : Lock := .row (.receipt call.receiptId)

/-- The lock on the sequence state that was read. -/
def stateLock (place : Placement) : List Lock :=
  match place.tracked with
  | none => []
  | some _ => [.row (.state call.session)]

/-- The values of a packet that is not committed yet. -/
def packetLocks : List Lock :=
  [.value (.packetId call.values.packetId), .value (.packetReceipt call.receiptId),
    .value (.packetSource call.key)]

/-- The lock of the statement that counts the packet. -/
def countLock (place : Placement) : Lock :=
  match place.tracked with
  | none => .value (.session call.session)
  | some _ => .row (.state call.session)

/-- The values of a job that is not committed yet. -/
def jobLocks (attempt : Nat) : List Lock :=
  [.value (.jobId (call.uuid4 attempt)), .value (.jobPacket call.values.packetId)]

/-- The locks of the transaction so far. -/
def locks : AcceptNote → List Lock
  | opening _ | duplicate _ _ | conflict _ | accepted _ _ => []
  | opened _ | window _ | outrun => [own call]
  | matched existing | compared existing _ => [.row (.packet existing.packetId), own call]
  | linked existing _ | informed existing _ | repeated existing _ | disputed existing =>
    [own call, .row (.packet existing.packetId), own call]
  | ready _ place => stateLock call place ++ [own call]
  | packed _ place | preceded place => packetLocks call ++ (stateLock call place ++ [own call])
  | counted _ place =>
    countLock call place :: (packetLocks call ++ (stateLock call place ++ [own call]))
  | hired attempt place => jobLocks call attempt ++
    countLock call place :: (packetLocks call ++ (stateLock call place ++ [own call]))
  | marked attempt place | sealed attempt place => own call :: (jobLocks call attempt ++
    countLock call place :: (packetLocks call ++ (stateLock call place ++ [own call])))

/-- The next request of a call. -/
def next : AcceptNote → Option (Sql Stmt)
  | opening _ => some (.statement (.selectReceipt call.receiptId true))
  | opened _ => some (.statement (.selectPacketBySource call.key))
  | matched existing => some (.statement (.selectReceipt existing.sourceReceiptId false))
  | compared existing exact =>
    some (.statement (.updateReceipt (call.linked receipt existing exact)))
  | linked existing true => some (.statement (.selectJobByPacket existing.packetId))
  | linked existing false => some (.statement (.insertAudit
    (sequenceConflictEvent receipt existing call.options.actorIdentity)))
  | informed existing job => some (.statement (.insertAudit
    (duplicateEvent receipt existing job call.options.actorIdentity)))
  | window _ => some (.statement (.selectState call.session))
  | ready _ place => some (.statement (.insertPacket (call.packet receipt place)))
  | packed _ place => some (.statement (call.counting place))
  | counted attempt _ => some (.statement (.insertJob (call.job attempt)))
  | hired _ _ => some (.statement (.updateReceipt (acceptedReceipt receipt call.values)))
  | marked attempt place =>
    some (.statement (.insertAudit (call.acceptedEvent receipt attempt place)))
  | repeated _ _ | disputed _ | sealed _ _ => some .commit
  | outrun | preceded _ => some .rollback
  | duplicate _ _ | conflict _ | accepted _ _ => none

/-- Which note follows an answer. -/
def moves : AcceptNote → (req : Sql Stmt) → Except StorageError (Sql.Reply Stmt.Reply req) →
    AcceptNote → Prop
  | opening attempt, .statement (.selectReceipt _ _), reply, later =>
    reply = .ok (some receipt) ∧ later = opened attempt
  | opened attempt, .statement (.selectPacketBySource _), reply, later =>
    (reply = .ok none ∧ later = window attempt) ∨
      ∃ existing, reply = .ok (some existing) ∧ later = matched existing
  | matched existing, .statement (.selectReceipt _ _), reply, later =>
    ∃ origin, reply = .ok origin ∧ later = compared existing (isExactDuplicate receipt existing origin)
  | compared existing exact, .statement (.updateReceipt _), reply, later =>
    reply = .ok () ∧ later = linked existing exact
  | linked existing true, .statement (.selectJobByPacket _), reply, later =>
    ∃ job, reply = .ok job ∧ later = informed existing job
  | linked existing false, .statement (.insertAudit _), reply, later =>
    reply = .ok () ∧ later = disputed existing
  | informed existing job, .statement (.insertAudit _), reply, later =>
    reply = .ok () ∧ later = repeated existing job
  | repeated existing job, .commit, reply, later => reply = .ok () ∧ later = duplicate existing job
  | disputed existing, .commit, reply, later => reply = .ok () ∧ later = conflict existing
  | window attempt, .statement (.selectState _), reply, later =>
    ∃ place : Placement, reply = .ok place.tracked ∧ call.Placed place ∧ later = ready attempt place
  | ready attempt place, .statement (.insertPacket _), reply, later =>
    (reply = .ok () ∧ later = packed attempt place) ∨
      (reply = .error .integrity ∧ attempt = 0 ∧ later = outrun)
  | packed attempt place, .statement (.insertState _), reply, later =>
    (reply = .ok () ∧ later = counted attempt place) ∨
      (reply = .error .integrity ∧ attempt = 0 ∧ later = preceded place)
  | packed attempt place, .statement (.updateState _), reply, later =>
    reply = .ok () ∧ later = counted attempt place
  | counted attempt place, .statement (.insertJob _), reply, later =>
    reply = .ok () ∧ later = hired attempt place
  | hired attempt place, .statement (.updateReceipt _), reply, later =>
    reply = .ok () ∧ later = marked attempt place
  | marked attempt place, .statement (.insertAudit _), reply, later =>
    reply = .ok () ∧ later = sealed attempt place
  | sealed attempt place, .commit, reply, later => reply = .ok () ∧ later = accepted attempt place
  | outrun, .rollback, reply, later | preceded _, .rollback, reply, later =>
    reply = .ok () ∧ later = opening 1
  | _, _, _, _ => False

/-- What a call has returned; it never raises. -/
def returned : Except StorageError PacketAcceptanceResult → AcceptNote → Prop
  | .ok result, duplicate existing job => result = duplicateResult receipt existing job
  | .ok result, conflict existing => result = sequenceConflictResult receipt existing
  | .ok result, accepted attempt place => result = acceptedResult receipt call.values
    (call.uuid4 attempt) place.disposition place.missingBefore
  | _, _ => False

/-- A call that plays its role does not raise. -/
theorem not_returned_error {call : AcceptCall} {receipt : TelemetryDeliveryReceipt}
    {note : AcceptNote} (error : StorageError) : ¬note.returned call receipt (.error error) := by
  -- By the note: none of them is about an error.
  cases note <;> exact id

end AcceptNote

/-- The role of an `accept_packet_and_create_job` call on a pending receipt. -/
def acceptRole (call : AcceptCall) (receipt : TelemetryDeliveryReceipt) :
    Role StorageError (Sql Stmt) (Sql.Reply Stmt.Reply) AcceptNote where
  permits note req := note.next call receipt = some req
  moves := AcceptNote.moves call receipt

/-- The note of a call determines its next request, or that it has returned. -/
theorem acceptRole_determined (call : AcceptCall) (receipt : TelemetryDeliveryReceipt) :
    (acceptRole call receipt).Determined (AcceptNote.returned call receipt) where
  one first second := Option.some.inj (second.symm.trans first)
  ended {note _ outcome} permitted returned := by
    -- A note that still has a statement to make has not returned.
    replace permitted : note.next call receipt = some _ := permitted
    cases note <;> cases outcome <;> first | exact returned.elim | cases permitted
  raised := AcceptNote.not_returned_error _

section Walk
variable {call : AcceptCall} {receipt : TelemetryDeliveryReceipt}

open AcceptNote

/-- A call whose key has a packet settles its receipt. -/
theorem settleExisting_plays (existing : LogicalTelemetryPacket)
    {post : Except StorageError PacketAcceptanceResult → AcceptNote → Prop}
    (repeats : ∀ job, post (.ok (duplicateResult receipt existing job)) (.duplicate existing job))
    (differs : post (.ok (sequenceConflictResult receipt existing)) (.conflict existing)) :
    Plays (acceptRole call receipt).inside ((acceptRole call receipt).closes post)
      (settleExisting receipt call.values existing call.options.actorIdentity)
      (matched existing) := by
  -- The body is walked statement by statement; each reply fixes the next note.
  unfold settleExisting
  refine .bind (plays_sql (.selectReceipt _ _) rfl ?_)
  rintro _ _ ⟨origin, rfl, rfl⟩
  dsimp only
  -- From here the two answers write different rows and say different things.
  cases isExactDuplicate receipt existing origin with
  | true =>
    refine .bind (plays_sql (.updateReceipt _) rfl ?_)
    rintro _ _ ⟨rfl, rfl⟩
    refine .bind (plays_sql (.selectJobByPacket _) rfl ?_)
    rintro _ _ ⟨job, rfl, rfl⟩
    refine .bind (plays_sql (.insertAudit _) rfl ?_)
    rintro _ _ ⟨rfl, rfl⟩
    refine ⟨rfl, ?_⟩
    rintro _ _ ⟨rfl, rfl⟩
    exact repeats job
  | false =>
    refine .bind (plays_sql (.updateReceipt _) rfl ?_)
    rintro _ _ ⟨rfl, rfl⟩
    refine .bind (plays_sql (.insertAudit _) rfl ?_)
    rintro _ _ ⟨rfl, rfl⟩
    refine ⟨rfl, ?_⟩
    rintro _ _ ⟨rfl, rfl⟩
    exact differs

/-- A call that has counted its packet ends by accepting its receipt. -/
theorem acceptNew_plays (attempt : Nat) (place : Placement)
    {post : Except StorageError PacketAcceptanceResult → AcceptNote → Prop}
    (accepts : post (.ok (acceptedResult receipt call.values (call.uuid4 attempt) place.disposition
      place.missingBefore)) (.accepted attempt place))
    (fails : attempt = 0 → post (.error .integrity) (.opening 1)) :
    Plays (acceptRole call receipt).inside ((acceptRole call receipt).closes post)
      (acceptNew receipt call.values place.tracked place.disposition place.missingBefore
        (call.uuid4 attempt) call.options) (ready attempt place) := by
  -- Both refusals end with the same rollback.
  have rolls : ∀ note : AcceptNote, note = .outrun ∨ note = .preceded place → attempt = 0 →
      (acceptRole call receipt).closes post (.error .integrity) note := by
    rintro _ (rfl | rfl) first
    all_goals
      refine ⟨rfl, ?_⟩
      rintro _ _ ⟨rfl, rfl⟩
      exact fails first
  unfold acceptNew
  refine .bind (plays_sql (.insertPacket _) rfl ?_)
  rintro _ _ (⟨rfl, rfl⟩ | ⟨rfl, first, rfl⟩)
  · -- The job, the receipt and the audit event follow, whichever statement counts the packet.
    have counted : Plays (acceptRole call receipt).inside ((acceptRole call receipt).closes post)
        (do
          sql (.insertJob (call.job attempt))
          sql (.updateReceipt (acceptedReceipt receipt call.values))
          audit (call.acceptedEvent receipt attempt place)
          return acceptedResult receipt call.values (call.uuid4 attempt) place.disposition
            place.missingBefore) (counted attempt place) := by
      refine .bind (plays_sql (.insertJob _) rfl ?_)
      rintro _ _ ⟨rfl, rfl⟩
      refine .bind (plays_sql (.updateReceipt _) rfl ?_)
      rintro _ _ ⟨rfl, rfl⟩
      refine .bind (plays_sql (.insertAudit _) rfl ?_)
      rintro _ _ ⟨rfl, rfl⟩
      refine ⟨rfl, ?_⟩
      rintro _ _ ⟨rfl, rfl⟩
      exact accepts
    obtain ⟨tracked, disposition, missingBefore⟩ := place
    cases tracked with
    | none =>
      refine .bind (plays_sql (.insertState _) rfl ?_)
      rintro _ _ (⟨rfl, rfl⟩ | ⟨rfl, first, rfl⟩)
      · exact counted
      · exact rolls _ (Or.inr rfl) first
    | some state =>
      refine .bind (plays_sql (.updateState _) rfl ?_)
      rintro _ _ ⟨rfl, rfl⟩
      exact counted
  · exact rolls _ (Or.inl rfl) first

/-- One attempt of a call plays its role; only the first one can fail. -/
theorem acceptPacketTransaction_plays (named : receipt.validationStatus = .pending) (attempt : Nat) :
    Plays (acceptRole call receipt) (fun outcome later => later.returned call receipt outcome ∨
        attempt = 0 ∧ outcome = .error .integrity ∧ later = opening 1)
      (transaction (acceptPacketTransaction call.receiptId call.values (call.uuid4 attempt)
        call.options)) (opening attempt) := by
  refine .transaction ?_
  unfold acceptPacketTransaction
  refine .bind (plays_sql (.selectReceipt _ _) rfl ?_)
  rintro _ _ ⟨rfl, rfl⟩
  dsimp only
  -- The receipt is pending, so the transaction neither replays an answer nor refuses.
  rw [if_neg (by simp [named]), if_neg (by simp [named])]
  unfold settlePending
  refine .bind (plays_sql (.selectPacketBySource _) rfl ?_)
  rintro _ _ (⟨rfl, rfl⟩ | ⟨existing, rfl, rfl⟩)
  -- Without a packet the state places the number; with one the receipt is compared.
  · refine .bind (plays_sql (.selectState _) rfl ?_)
    rintro _ _ ⟨place, rfl, placed, rfl⟩
    dsimp only
    rw [show sequencePosition _ _ = _ from placed]
    exact acceptNew_plays attempt place (Or.inl rfl) fun first => Or.inr ⟨first, rfl, rfl⟩
  · exact settleExisting_plays existing (fun _ => Or.inl rfl) (Or.inl rfl)

/-- A call whose arguments pass the checks plays its role from the start. -/
theorem acceptCall_plays (valid : call.Valid) (pending : receipt.validationStatus = .pending) :
    Plays (acceptRole call receipt) (fun outcome note => note.returned call receipt outcome)
      call.program (opening 0) := by
  -- The arguments pass the checks, so the call is its transaction, tried up to twice.
  have boot := valid.positive.2
  have attempts := valid.attempts
  rw [AcceptCall.program, acceptPacketAndCreateJob, if_neg (not_not.mpr valid.range),
    if_neg (by omega), if_neg (by omega)]
  refine .tryCatch ((acceptPacketTransaction_plays pending 0).weaken ?_)
  rintro outcome later (reached | ⟨-, rfl, rfl⟩)
  -- An attempt that has returned has a result, since no note returns an error.
  · cases outcome with
    | ok result => exact reached
    | error error => exact absurd reached (not_returned_error error)
  -- The second attempt starts from a session that has its state, and cannot fail.
  · refine (acceptPacketTransaction_plays pending 1).weaken ?_
    rintro outcome later (reached | ⟨never, -⟩)
    · exact reached
    · cases never

end Walk

namespace AcceptNote
variable (call : AcceptCall) (receipt : TelemetryDeliveryReceipt)

/-- What a note says about the committed tables. -/
def Fact : AcceptNote → Database → Prop
  | opening attempt, db | opened attempt, db =>
    call.Waiting receipt db ∧ (attempt ≠ 0 → call.Begun db)
  | matched existing, db =>
    call.Waiting receipt db ∧ existing ∈ db.packets ∧ existing.values.sourceKey = call.key
  | compared existing exact, db | linked existing exact, db =>
    call.Waiting receipt db ∧ call.Compared receipt existing exact db
  | informed existing job, db | repeated existing job, db => call.Waiting receipt db ∧
    call.Compared receipt existing true db ∧ db.jobByPacket existing.packetId = job
  | disputed existing, db => call.Waiting receipt db ∧ call.Compared receipt existing false db
  | window attempt, db => call.Waiting receipt db ∧ (attempt ≠ 0 → call.Begun db) ∧
    db.packetBySource call.key = none
  | ready attempt place, db => call.Waiting receipt db ∧ call.Placed place ∧
    (place.tracked = none → attempt = 0) ∧ (place.tracked ≠ none →
      db.packetBySource call.key = none ∧ db.states.get? call.session = place.tracked)
  | packed attempt place, db => call.Waiting receipt db ∧ call.Placed place ∧
    (place.tracked = none → attempt = 0) ∧ db.packetBySource call.key = none ∧
    (place.tracked ≠ none → db.states.get? call.session = place.tracked)
  | counted _ place, db | hired _ place, db | marked _ place, db | sealed _ place, db =>
    call.Waiting receipt db ∧ call.Placed place ∧ db.packetBySource call.key = none ∧
    db.states.get? call.session = place.tracked
  | outrun, db | preceded _, db => call.Waiting receipt db ∧ call.Begun db
  | duplicate existing _, db => db.receipts.get? call.receiptId =
      some (call.linked receipt existing true) ∧ call.Compared receipt existing true db
  | conflict existing, db => db.receipts.get? call.receiptId =
      some (call.linked receipt existing false) ∧ call.Compared receipt existing false db
  | accepted _ place, db => db.receipts.get? call.receiptId =
      some (acceptedReceipt receipt call.values) ∧ call.packet receipt place ∈ db.packets

/-- What a note says about the server. -/
def Backed {ι : Type} (session : ι) (note : AcceptNote) (server : Sessions ι) : Prop :=
  server.Owns session (note.log call receipt) (note.locks call) ∧
    note.Fact call receipt server.committed

/-- The call relies on the sequence state that it has read or added. -/
def HoldsState : AcceptNote → Prop
  | ready _ place | packed _ place => place.tracked ≠ none
  | counted _ _ | hired _ _ | marked _ _ | sealed _ _ => True
  | _ => False

/-- The call relies on its key having no packet. -/
def NeedsKey : AcceptNote → Prop
  | window _ | packed _ _ => True
  | note => note.HoldsState

end AcceptNote

/-- What a call on one receipt does to the tables that other calls rely on. -/
structure AcceptCall.Spares (call : AcceptCall) (before after : Database) : Prop where
  receipts : ∀ receiptId, receiptId ≠ call.receiptId →
    after.receipts.get? receiptId = before.receipts.get? receiptId
  packets : ∀ packet ∈ before.packets, packet ∈ after.packets
  jobOf : ∀ packet ∈ before.packets,
    after.jobByPacket packet.packetId = before.jobByPacket packet.packetId
  jobs : ∀ jobId, (∀ attempt, jobId ≠ call.uuid4 attempt) →
    after.jobs.get? jobId = before.jobs.get? jobId
  states : ∀ session, (∃ state, before.states.get? session = some state) →
    ∃ state, after.states.get? session = some state

section Tables
variable {call rival : AcceptCall} {receipt : TelemetryDeliveryReceipt} {before after : Database}

/-- Two calls work on different receipts and generate different job identifiers. -/
structure AcceptCall.Apart (call rival : AcceptCall) : Prop where
  receipts : call.receiptId ≠ rival.receiptId
  jobs : ∀ mine yours, call.uuid4 mine ≠ rival.uuid4 yours

/-- The source of a packet is not a receipt that waits. -/
theorem AcceptCall.Waiting.not_source (waiting : rival.Waiting receipt before)
    (pending : receipt.validationStatus = .pending) (ledger : Ledger before)
    {existing : LogicalTelemetryPacket} (stored : existing ∈ before.packets) :
    existing.sourceReceiptId ≠ rival.receiptId := by
  obtain ⟨member, named⟩ := Table.get?_eq_some.mp waiting.1
  rw [← named]
  exact ledger.pending_not_source member pending existing stored

/-- A note stays true when another call commits, if what the call relies on is kept. -/
theorem AcceptNote.Fact.spared {note : AcceptNote} (fact : note.Fact call receipt before)
    (spares : rival.Spares before after) (apart : call.Apart rival)
    (settled : ∀ existing ∈ before.packets, existing.sourceReceiptId ≠ rival.receiptId)
    (key : note.NeedsKey → after.packetBySource call.key = none)
    (state : note.HoldsState →
      after.states.get? call.session = before.states.get? call.session) :
    note.Fact call receipt after := by
  -- What a note says of the tables falls into a few kinds, each kept for a reason of its own.
  have receipts : after.receipts.get? call.receiptId = before.receipts.get? call.receiptId :=
    spares.receipts _ apart.receipts
  have waits : call.Waiting receipt before → call.Waiting receipt after := by
    rintro ⟨found, fresh⟩
    refine ⟨receipts.trans found, fun attempt => ?_⟩
    exact (spares.jobs _ fun other => apart.jobs attempt other).trans (fresh attempt)
  have begun : call.Begun before → call.Begun after := spares.states call.session
  have compares : ∀ {existing exact}, call.Compared receipt existing exact before →
      call.Compared receipt existing exact after := by
    rintro existing exact ⟨stored, same, origin, found, result⟩
    refine ⟨spares.packets existing stored, same, origin, ?_, result⟩
    exact (spares.receipts _ (settled existing stored)).trans found
  -- Only the notes on a new packet rely on the key and on the state.
  cases note with
  | opening | opened => exact ⟨waits fact.1, fun again => begun (fact.2 again)⟩
  | matched existing => exact ⟨waits fact.1, spares.packets existing fact.2.1, fact.2.2⟩
  | compared | linked | disputed => exact ⟨waits fact.1, compares fact.2⟩
  | informed existing | repeated existing =>
    obtain ⟨waiting, compared, job⟩ := fact
    exact ⟨waits waiting, compares compared, (spares.jobOf existing compared.1).trans job⟩
  | window => exact ⟨waits fact.1, fun again => begun (fact.2.1 again), key trivial⟩
  | ready attempt place =>
    obtain ⟨waiting, placed, first, relied⟩ := fact
    exact ⟨waits waiting, placed, first,
      fun tracked => ⟨key tracked, (state tracked).trans (relied tracked).2⟩⟩
  | packed attempt place =>
    obtain ⟨waiting, placed, first, -, relied⟩ := fact
    exact ⟨waits waiting, placed, first, key trivial,
      fun tracked => (state tracked).trans (relied tracked)⟩
  | counted | hired | marked | sealed =>
    obtain ⟨waiting, placed, -, relied⟩ := fact
    exact ⟨waits waiting, placed, key trivial, (state trivial).trans relied⟩
  | outrun | preceded => exact ⟨waits fact.1, begun fact.2⟩
  | duplicate | conflict => exact ⟨receipts.trans fact.1, compares fact.2⟩
  | accepted => exact ⟨receipts.trans fact.1, spares.packets _ fact.2⟩

end Tables

/-- What a call publishes when it makes its next request. -/
inductive AcceptCall.Publishes (call : AcceptCall) (receipt : TelemetryDeliveryReceipt)
    (db : Database) : AcceptNote → Database → Prop where
  | nothing (note : AcceptNote) : Publishes call receipt db note db
  | repeated (existing : LogicalTelemetryPacket) (job : Option TelemetryProcessingJob) :
      Publishes call receipt db (.repeated existing job)
        (db.settle (call.linked receipt existing true)
          (duplicateEvent receipt existing job call.options.actorIdentity))
  | disputed (existing : LogicalTelemetryPacket) :
      Publishes call receipt db (.disputed existing)
        (db.settle (call.linked receipt existing false)
          (sequenceConflictEvent receipt existing call.options.actorIdentity))
  | sealed (attempt : Nat) (place : Placement) :
      Publishes call receipt db (.sealed attempt place)
        (db.addPacket receipt call.values place.tracked place.disposition place.missingBefore
          (call.uuid4 attempt) call.options)

section Publications
variable {call : AcceptCall} {receipt : TelemetryDeliveryReceipt} {db after : Database}
variable {note : AcceptNote}

/-- Nothing refuses the rows of a call whose key has no packet. -/
theorem AcceptCall.Waiting.admits (waiting : call.Waiting receipt db) (valid : call.Valid)
    (pending : receipt.validationStatus = .pending) (reachable : Reachable db)
    (unused : db.packetBySource call.key = none) (attempt : Nat) (place : Placement) :
    db.AdmitsPacket (call.packet receipt place) ∧
      (db.states.get? call.session = none →
        db.AdmitsState (firstState call.values place.missingBefore)) ∧
      db.AdmitsJob (call.job attempt) :=
  reachable.ledger.admits_new reachable.accounting (Table.get?_eq_some.mp waiting.1).1 pending
    valid.positive valid.range unused (waiting.2 attempt) valid.attempts _ _

/-- A serial call settles a receipt that waits. -/
theorem AcceptCall.Waiting.settles (waiting : call.Waiting receipt db) (valid : call.Valid)
    (pending : receipt.validationStatus = .pending) (reachable : Reachable db) (attempt : Nat) :
    ∃ outcome, SettleOutcome db receipt call.values (call.uuid4 attempt) call.options outcome ∧
      Reachable outcome.2 := by
  -- The call of a serial history on the same receipt has one of the known outcomes.
  have after := Reachable.call ⟨fun _ => call.uuid4 attempt, call.options.now⟩
    (.acceptPacketAndCreateJob call.receiptId call.values call.options.maxAttempts
      call.options.actorIdentity) reachable
  obtain ⟨_, happened⟩ := acceptPacketAndCreateJob_outcome call.receiptId call.options
    (fun _ => call.uuid4 attempt) db valid.range valid.positive.2 valid.attempts
  rw [RepoCall.exec, RepoCall.program] at after
  generalize serially Stmt.exec (acceptPacketAndCreateJob call.receiptId call.values call.options
    fun _ => call.uuid4 attempt) db = outcome at happened after
  -- A pending receipt that is there is neither missing, replayed nor refused.
  cases happened with
  | missing absent => cases absent.symm.trans waiting.1
  | replayed found status =>
    cases found.symm.trans waiting.1
    simp [pending] at status
  | refused found status =>
    cases found.symm.trans waiting.1
    simp [pending] at status
  | settled found _ settles =>
    cases found.symm.trans waiting.1
    exact ⟨outcome, settles, after⟩

/-- What a call publishes is the effect of a serial call. -/
theorem AcceptCall.Publishes.reachable (publishes : call.Publishes receipt db note after)
    (valid : call.Valid) (pending : receipt.validationStatus = .pending) (before : Reachable db)
    (fact : note.Fact call receipt db) : Reachable after := by
  -- Every publication is compared with the outcome of a serial call on the same database.
  have ledger := before.ledger
  cases publishes with
  | nothing => exact before
  | repeated existing job =>
    obtain ⟨waiting, ⟨stored, same, origin, found, result⟩, known⟩ := fact
    obtain ⟨_, settles, reachable⟩ := waiting.settles valid pending before 0
    -- The packet is there and has the bytes, so the serial call finds the duplicate as well.
    cases settles with
    | duplicated among key =>
      cases ledger.sourceUnique _ among existing stored (key.trans same.symm)
      rw [known] at reachable
      exact reachable
    | conflicted among key different =>
      cases ledger.sourceUnique _ among existing stored (key.trans same.symm)
      obtain ⟨digest, bytes⟩ : _ ∧ _ := by simpa [isExactDuplicate] using result
      exact absurd bytes (different origin found digest)
    | stateConflicted unused | accepted unused | integrity unused =>
      exact absurd same (packetBySource_eq_none.mp unused existing stored)
  | disputed existing =>
    -- The packet is there with other bytes, so the serial call finds the conflict as well.
    obtain ⟨waiting, stored, same, origin, found, result⟩ := fact
    obtain ⟨_, settles, reachable⟩ := waiting.settles valid pending before 0
    cases settles with
    | duplicated among key source digest bytes =>
      cases ledger.sourceUnique _ among existing stored (key.trans same.symm)
      cases source.symm.trans found
      simp [isExactDuplicate, digest, bytes] at result
    | conflicted among key =>
      cases ledger.sourceUnique _ among existing stored (key.trans same.symm)
      exact reachable
    | stateConflicted unused | accepted unused | integrity unused =>
      exact absurd same (packetBySource_eq_none.mp unused existing stored)
  | sealed attempt place =>
    -- There is no packet and the state is the one that was read, so the serial call accepts.
    obtain ⟨waiting, placed, unused, state⟩ := fact
    obtain ⟨_, settles, reachable⟩ := waiting.settles valid pending before attempt
    cases settles with
    | duplicated among key | conflicted among key =>
      exact absurd key (packetBySource_eq_none.mp unused _ among)
    | stateConflicted _ tracked onMark =>
      cases placed.symm.trans (sequencePosition_eq_none.mpr ⟨_, state.symm.trans tracked, onMark⟩)
    | accepted _ tracked position =>
      cases tracked.symm.trans state
      cases placed.symm.trans position
      exact reachable
    | integrity _ tracked position refused =>
      cases tracked.symm.trans state
      cases placed.symm.trans position
      -- The rows are admitted, so the serial insertion is not refused.
      obtain ⟨packet, counts, job⟩ := waiting.admits valid pending before unused attempt place
      exact absurd ⟨packet, fun untracked => counts (state.trans untracked), job⟩ refused

/-- The receipt that a call writes has the identifier of the one it was given. -/
theorem AcceptCall.linked_receiptId (call : AcceptCall) (receipt : TelemetryDeliveryReceipt)
    (existing : LogicalTelemetryPacket) (exact : Bool) :
    (call.linked receipt existing exact).receiptId = receipt.receiptId := by
  cases exact <;> rfl

/-- What a call publishes spares the other calls. -/
theorem AcceptCall.Publishes.spares (publishes : call.Publishes receipt db note after)
    (valid : call.Valid) (pending : receipt.validationStatus = .pending) (reachable : Reachable db)
    (fact : note.Fact call receipt db) : call.Spares db after := by
  have settles : call.Waiting receipt db → ∀ existing exact event,
      call.Spares db (db.settle (call.linked receipt existing exact) event) := by
    intro waiting existing exact event
    have named := (Table.get?_eq_some.mp waiting.1).2
    refine ⟨fun receiptId other => ?_, fun _ => id, fun _ _ => rfl, fun _ _ => rfl, fun _ => id⟩
    refine (Table.get?_set receiptId).trans (if_neg ?_)
    rw [AcceptCall.linked_receiptId, named]
    exact other.symm
  -- A settled receipt is the only row that a repetition or a conflict changes.
  cases publishes with
  | nothing => exact ⟨fun _ _ => rfl, fun _ => id, fun _ _ => rfl, fun _ _ => rfl, fun _ => id⟩
  | repeated existing job => exact settles fact.1 existing true _
  | disputed existing => exact settles fact.1 existing false _
  | sealed attempt place =>
    -- A new packet adds a packet, a job and at most one state, and rewrites its receipt.
    obtain ⟨waiting, placed, unused, tracked⟩ := fact
    obtain ⟨packet, -, job⟩ := waiting.admits valid pending reachable unused attempt place
    have named := (Table.get?_eq_some.mp waiting.1).2
    refine ⟨fun receiptId other => ?_, fun other stored => ?_, fun other stored => ?_,
      fun jobId foreign => ?_, fun session begun => ?_⟩
    · refine (Table.get?_set receiptId).trans (if_neg fun same => other ?_)
      exact same.symm.trans named
    · exact (Table.mem_insert packet.1).mpr (Or.inl stored)
    · -- The new job is that of another packet.
      have different : call.values.packetId ≠ other.packetId :=
        fun same => Table.get?_eq_none.mp packet.1 other stored same.symm
      exact Table.find?_insert job.1 (decide_eq_false different)
    · exact (Table.get?_insert job.1 jobId).trans (if_neg fun same => foreign attempt same.symm)
    · have counted := get?_countPacket tracked place.disposition place.missingBefore session
      -- The state of the own session is there afterwards; the others are as they were.
      by_cases same : call.session = session
      · exact ⟨_, counted.trans (if_pos same)⟩
      · obtain ⟨state, found⟩ := begun
        exact ⟨state, (counted.trans (if_neg same)).trans found⟩

/-- Only a call that adds a packet touches a sequence state, and it is that of its session. -/
theorem AcceptCall.Publishes.state_kept (publishes : call.Publishes receipt db note after)
    (fact : note.Fact call receipt db) (session : Int × Int)
    (other : (∃ attempt place, note = .sealed attempt place) → session ≠ call.session) :
    after.states.get? session = db.states.get? session := by
  -- The packet is counted in the state of its own session.
  cases publishes with
  | nothing | repeated | disputed => rfl
  | sealed attempt place =>
    have different : call.session ≠ session := fun same => other ⟨attempt, place, rfl⟩ same.symm
    exact (get?_countPacket fact.2.2.2 _ _ session).trans (if_neg different)

/-- Only a call that adds a packet gives a key its packet, and it is the key of the call. -/
theorem AcceptCall.Publishes.packets (publishes : call.Publishes receipt db note after)
    (valid : call.Valid) (pending : receipt.validationStatus = .pending) (reachable : Reachable db)
    (fact : note.Fact call receipt db) {packet : LogicalTelemetryPacket}
    (stored : packet ∈ after.packets) :
    packet ∈ db.packets ∨
      ∃ attempt place, note = .sealed attempt place ∧ packet = call.packet receipt place := by
  cases publishes with
  | nothing | repeated | disputed => exact Or.inl stored
  | sealed attempt place =>
    -- The packet of an accepted receipt is the only new one.
    obtain ⟨waiting, -, unused, -⟩ := fact
    have admits := waiting.admits valid pending reachable unused attempt place
    rcases (Table.mem_insert admits.1.1).mp stored with old | rfl
    · exact Or.inl old
    · exact Or.inr ⟨attempt, place, rfl, rfl⟩

end Publications

end Cislunar
