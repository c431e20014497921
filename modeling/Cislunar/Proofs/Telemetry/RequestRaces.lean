import Cislunar.Proofs.Telemetry.Ledger
import Cislunar.Telemetry.Isolation

/-!
Races for one request identifier.

Any number of `record_delivery` calls interleave their statements. A note says how far a call has
come; each commit has the effect of a call that nothing interrupts, so the tables stay reachable.
-/

namespace Cislunar

open Foundation

/-- The arguments of one `record_delivery` call and the identifiers it generates. -/
structure RecordCall where
  delivery : Delivery
  receiptId : Option UUID
  uuid4 : Nat → UUID

namespace RecordCall

/-- The receipt identifier of an attempt. -/
def id (call : RecordCall) (attempt : Nat) : UUID := call.receiptId.getD (call.uuid4 attempt)

/-- The call as a program. -/
def program (call : RecordCall) : Repo DeliveryRecordResult :=
  recordDelivery call.delivery call.receiptId call.uuid4

/-- The receipt of an attempt. -/
def receipt (call : RecordCall) (attempt : Nat) (first : Option TelemetryDeliveryReceipt) :
    TelemetryDeliveryReceipt :=
  call.delivery.receipt (call.id attempt) first

/-- The audit event of an attempt. -/
def event (call : RecordCall) (attempt : Nat) (first : Option TelemetryDeliveryReceipt) :
    TelemetryAuditEvent :=
  call.delivery.auditEvent (call.receipt attempt first) first.isSome

end RecordCall

/-- How far a `record_delivery` call has come. -/
inductive RecordNote where
  /-- Before the look for the owner of the identifier. -/
  | looking (attempt : Nat)
  /-- There was no owner. -/
  | unclaimed
  | received
  | claiming
  | winning
  | found (attempt : Nat) (owner : TelemetryRequestIdentity)
  | replaying (first : TelemetryDeliveryReceipt)
  | disputing (attempt : Nat) (first : TelemetryDeliveryReceipt)
  | disputed (attempt : Nat) (first : TelemetryDeliveryReceipt)
  | recorded (attempt : Nat) (first : TelemetryDeliveryReceipt)
  /-- Another call has become the owner. -/
  | failed
  | won
  | replayed (first : TelemetryDeliveryReceipt)
  | conflicted (attempt : Nat) (first : TelemetryDeliveryReceipt)

namespace RecordNote
variable (call : RecordCall) (requestId : UUID)

/-- The identity row of a call that becomes the owner. -/
def owner : TelemetryRequestIdentity := ⟨requestId, call.id 0, sha256Hex call.delivery.rawBody⟩

/-- The statements of the transaction so far. -/
def log : RecordNote → List Stmt
  | looking _ | won | replayed _ | conflicted _ _ => []
  | unclaimed => [.selectIdentity requestId]
  | received | failed => [.selectIdentity requestId, .insertReceipt (call.receipt 0 none)]
  | claiming => [.selectIdentity requestId, .insertReceipt (call.receipt 0 none),
    .insertIdentity (owner call requestId)]
  | winning => [.selectIdentity requestId, .insertReceipt (call.receipt 0 none),
    .insertIdentity (owner call requestId), .insertAudit (call.event 0 none)]
  | found _ _ => [.selectIdentity requestId]
  | replaying first | disputing _ first =>
    [.selectIdentity requestId, .selectReceipt first.receiptId false]
  | disputed attempt first => [.selectIdentity requestId, .selectReceipt first.receiptId false,
    .insertReceipt (call.receipt attempt (some first))]
  | recorded attempt first => [.selectIdentity requestId, .selectReceipt first.receiptId false,
    .insertReceipt (call.receipt attempt (some first)), .insertAudit (call.event attempt (some first))]

/-- The locks of the transaction so far. -/
def locks : RecordNote → List Lock
  | looking _ | unclaimed | won | replayed _ | conflicted _ _ => []
  | received | failed => [.value (.receiptId (call.id 0))]
  | claiming | winning => [.value (.requestId requestId), .value (.firstReceiptId (call.id 0)),
    .value (.receiptId (call.id 0))]
  | found _ _ | replaying _ | disputing _ _ => [.row (.identity requestId)]
  | disputed attempt _ | recorded attempt _ =>
    [.value (.receiptId (call.id attempt)), .row (.identity requestId)]

/-- The next request of a call. -/
def next : RecordNote → Option (Sql Stmt)
  | looking _ => some (.statement (.selectIdentity requestId))
  | unclaimed => some (.statement (.insertReceipt (call.receipt 0 none)))
  | received => some (.statement (.insertIdentity (owner call requestId)))
  | claiming => some (.statement (.insertAudit (call.event 0 none)))
  | found _ owner => some (.statement (.selectReceipt owner.firstReceiptId false))
  | disputing attempt first =>
    some (.statement (.insertReceipt (call.receipt attempt (some first))))
  | disputed attempt first => some (.statement (.insertAudit (call.event attempt (some first))))
  | winning | replaying _ | recorded _ _ => some .commit
  | failed => some .rollback
  | won | replayed _ | conflicted _ _ => none

/-- Which note follows an answer. -/
def moves : RecordNote → (req : Sql Stmt) → Except StorageError (Sql.Reply Stmt.Reply req) →
    RecordNote → Prop
  | looking attempt, .statement (.selectIdentity _), reply, later =>
    (reply = .ok none ∧ attempt = 0 ∧ later = unclaimed) ∨
      ∃ owner, reply = .ok (some owner) ∧ later = found attempt owner
  | unclaimed, .statement (.insertReceipt _), reply, later => reply = .ok () ∧ later = received
  | received, .statement (.insertIdentity _), reply, later =>
    (reply = .ok () ∧ later = claiming) ∨ (reply = .error .integrity ∧ later = failed)
  | claiming, .statement (.insertAudit _), reply, later => reply = .ok () ∧ later = winning
  | winning, .commit, reply, later => reply = .ok () ∧ later = won
  | found attempt owner, .statement (.selectReceipt _ _), reply, later =>
    ∃ first : TelemetryDeliveryReceipt, reply = .ok (some first) ∧
      owner.bodySha256 = sha256Hex first.rawBody ∧
      (first.rawBody = call.delivery.rawBody ∧ later = replaying first ∨
        first.rawBody ≠ call.delivery.rawBody ∧ later = disputing attempt first)
  | replaying first, .commit, reply, later => reply = .ok () ∧ later = replayed first
  | disputing attempt first, .statement (.insertReceipt _), reply, later =>
    reply = .ok () ∧ later = disputed attempt first
  | disputed attempt first, .statement (.insertAudit _), reply, later =>
    reply = .ok () ∧ later = recorded attempt first
  | recorded attempt first, .commit, reply, later =>
    reply = .ok () ∧ later = conflicted attempt first
  | failed, .rollback, reply, later => reply = .ok () ∧ later = looking 1
  | _, _, _, _ => False

/-- What a call has returned; it never raises. -/
def returned : Except StorageError DeliveryRecordResult → RecordNote → Prop
  | .ok result, won => result = deliveryResult (call.receipt 0 none) false false
  | .ok result, replayed first => result = deliveryResult first true false
  | .ok result, conflicted attempt first =>
    result = deliveryResult (call.receipt attempt (some first)) false true
  | _, _ => False

/-- A call that plays its role does not raise. -/
theorem not_returned_error {call : RecordCall} {note : RecordNote} (error : StorageError) :
    ¬note.returned call (.error error) := by
  -- By the note: none of them is about an error.
  cases note <;> exact id

end RecordNote

/-- The role of a `record_delivery` call. -/
def recordRole (call : RecordCall) (requestId : UUID) :
    Role StorageError (Sql Stmt) (Sql.Reply Stmt.Reply) RecordNote where
  permits note req := note.next call requestId = some req
  moves := RecordNote.moves call

/-- The note of a call determines its next request, or that it has returned. -/
theorem recordRole_determined (call : RecordCall) (requestId : UUID) :
    (recordRole call requestId).Determined (RecordNote.returned call) where
  one first second := Option.some.inj (second.symm.trans first)
  ended {note _ outcome} permitted returned := by
    -- A note that still has a statement to make has not returned.
    replace permitted : note.next call requestId = some _ := permitted
    cases note <;> cases outcome <;> first | exact returned.elim | cases permitted
  raised := RecordNote.not_returned_error _

section Walk
variable {call : RecordCall} {requestId : UUID}

open RecordNote

/-- A call that finds no owner becomes the owner or fails. -/
theorem insertDelivery_unclaimed (named : call.delivery.canonicalRequestId = some requestId)
    {post : Except StorageError DeliveryRecordResult → RecordNote → Prop}
    (won : post (.ok (deliveryResult (call.receipt 0 none) false false)) .won)
    (lost : post (.error .integrity) (.looking 1)) :
    Plays (recordRole call requestId).inside ((recordRole call requestId).closes post)
      (insertDelivery call.delivery (call.id 0) none none) unclaimed := by
  -- The receipt goes in; the identity goes in too unless another call has claimed the identifier.
  unfold insertDelivery
  refine .bind (plays_sql (.insertReceipt _) rfl ?_)
  rintro _ _ ⟨rfl, rfl⟩
  rw [named]
  refine .bind (plays_sql (.insertIdentity _) rfl ?_)
  rintro _ _ (⟨rfl, rfl⟩ | ⟨rfl, rfl⟩)
  · refine .bind (plays_sql (.insertAudit _) rfl ?_)
    rintro _ _ ⟨rfl, rfl⟩
    refine ⟨rfl, ?_⟩
    rintro _ _ ⟨rfl, rfl⟩
    exact won
  · refine ⟨rfl, ?_⟩
    rintro _ _ ⟨rfl, rfl⟩
    exact lost

/-- A call in conflict with the owner adds its receipt. -/
theorem insertDelivery_disputing (named : call.delivery.canonicalRequestId = some requestId)
    {attempt : Nat} {first : TelemetryDeliveryReceipt} {owner : TelemetryRequestIdentity}
    {post : Except StorageError DeliveryRecordResult → RecordNote → Prop}
    (settled : post (.ok (deliveryResult (call.receipt attempt (some first)) false true))
      (.conflicted attempt first)) :
    Plays (recordRole call requestId).inside ((recordRole call requestId).closes post)
      (insertDelivery call.delivery (call.id attempt) (some owner) (some first))
      (disputing attempt first) := by
  -- An owner is known, so the receipt and its event are all there is to add.
  unfold insertDelivery
  refine .bind (plays_sql (.insertReceipt _) rfl ?_)
  rintro _ _ ⟨rfl, rfl⟩
  rw [named]
  refine .bind (plays_sql (.insertAudit _) rfl ?_)
  rintro _ _ ⟨rfl, rfl⟩
  refine ⟨rfl, ?_⟩
  rintro _ _ ⟨rfl, rfl⟩
  exact settled

/-- One attempt of a call plays its role; only the first one can fail. -/
theorem recordDeliveryTransaction_plays (named : call.delivery.canonicalRequestId = some requestId)
    (attempt : Nat) :
    Plays (recordRole call requestId) (fun outcome later => returned call outcome later ∨
        attempt = 0 ∧ outcome = .error .integrity ∧ later = looking 1)
      (transaction (recordDeliveryTransaction call.delivery (call.id attempt)))
      (looking attempt) := by
  -- The look for the owner decides; the bytes of the first receipt tell a replay from a conflict.
  refine .transaction ?_
  unfold recordDeliveryTransaction
  rw [named]
  refine .bind (plays_sql (.selectIdentity requestId) rfl ?_)
  rintro _ _ (⟨rfl, rfl, rfl⟩ | ⟨owner, rfl, rfl⟩)
  · exact insertDelivery_unclaimed named (Or.inl rfl) (Or.inr ⟨rfl, rfl, rfl⟩)
  · refine .bind (plays_sql (.selectReceipt owner.firstReceiptId false) rfl ?_)
    rintro _ _ ⟨first, rfl, digest, ⟨same, rfl⟩ | ⟨different, rfl⟩⟩
    · dsimp only
      rw [if_pos ⟨digest.trans (congrArg sha256Hex same), same⟩]
      refine ⟨rfl, ?_⟩
      rintro _ _ ⟨rfl, rfl⟩
      exact Or.inl rfl
    · dsimp only
      rw [if_neg fun both => different both.2]
      exact insertDelivery_disputing named (Or.inl rfl)

/-- A call whose arguments pass the guards plays its role from the start. -/
theorem recordCall_plays (named : call.delivery.canonicalRequestId = some requestId)
    (short : call.delivery.rawBody.length ≤ maxEvidenceBodyBytes)
    (identified : call.delivery.peerCertificateIdentity.isEmpty = false) :
    Plays (recordRole call requestId) (returned call) call.program (looking 0) := by
  -- An integrity error of the first attempt leads to the second one, which finds the owner.
  rw [RecordCall.program, recordDelivery, if_neg (Nat.not_lt.mpr short), if_neg (by simp [identified])]
  refine .tryCatch ((recordDeliveryTransaction_plays named 0).weaken ?_)
  rintro outcome later (reached | ⟨-, rfl, rfl⟩)
  · cases outcome with
    | ok result => exact reached
    | error error => exact absurd reached (not_returned_error error)
  · refine (recordDeliveryTransaction_plays named 1).weaken ?_
    rintro outcome later (reached | ⟨never, -⟩)
    · exact reached
    · cases never

end Walk

namespace RecordCall

/-- No receipt of a call is stored. -/
def Unsent (call : RecordCall) (db : Database) : Prop :=
  ∀ row ∈ db.receipts, ∀ attempt, row.receiptId ≠ call.id attempt

/-- One receipt of a call is stored, and no other. -/
def Sent (call : RecordCall) (db : Database) (receipt : TelemetryDeliveryReceipt) : Prop :=
  receipt ∈ db.receipts ∧
    ∀ row ∈ db.receipts, ∀ attempt, row.receiptId = call.id attempt → row = receipt

end RecordCall

/-- A request identifier is owned through a receipt with a given digest. -/
def OwnedBy (db : Database) (requestId : UUID) (first : TelemetryDeliveryReceipt) : Prop :=
  ∃ owner, db.identities.get? requestId = some owner ∧
    db.receipts.get? owner.firstReceiptId = some first ∧
    owner.bodySha256 = sha256Hex first.rawBody

namespace RecordNote
variable (call : RecordCall) (requestId : UUID)

/-- What a note says about the committed tables. -/
def Fact : RecordNote → Database → Prop
  | looking attempt, db =>
    call.Unsent db ∧ (attempt ≠ 0 → ∃ owner, db.identities.get? requestId = some owner)
  | unclaimed, db | received, db => call.Unsent db
  | claiming, db | winning, db => call.Unsent db ∧ db.identities.get? requestId = none
  | found _ owner, db => call.Unsent db ∧ db.identities.get? requestId = some owner
  | replaying first, db | replayed first, db =>
    call.Unsent db ∧ OwnedBy db requestId first ∧ first.rawBody = call.delivery.rawBody
  | disputing _ first, db | disputed _ first, db | recorded _ first, db =>
    call.Unsent db ∧ OwnedBy db requestId first ∧ first.rawBody ≠ call.delivery.rawBody
  | failed, db => call.Unsent db ∧ ∃ owner, db.identities.get? requestId = some owner
  | won, db => call.Sent db (call.receipt 0 none) ∧
    db.identities.get? requestId = some (owner call requestId)
  | conflicted attempt first, db => call.Sent db (call.receipt attempt (some first)) ∧
    OwnedBy db requestId first ∧ first.rawBody ≠ call.delivery.rawBody

/-- What a note says about the server. -/
def Backed {ι : Type} (session : ι) (note : RecordNote) (server : Sessions ι) : Prop :=
  server.Owns session (note.log call requestId) (note.locks call requestId) ∧
    note.Fact call requestId server.committed

end RecordNote

/-- What the other calls do to the tables. -/
structure Tolerated (call : RecordCall) (before after : Database) : Prop where
  receipts : ∀ row ∈ before.receipts, row ∈ after.receipts
  identities : ∀ row ∈ before.identities, row ∈ after.identities
  foreign : ∀ row ∈ after.receipts, row ∈ before.receipts ∨ ∀ attempt, row.receiptId ≠ call.id attempt

section Tables
variable {call : RecordCall} {requestId : UUID} {before after : Database}

/-- What is tolerated sends no receipt of the call. -/
theorem Tolerated.unsent (tolerated : Tolerated call before after) (unsent : call.Unsent before) :
    call.Unsent after := by
  -- A receipt that appeared in between is of another attempt.
  intro row member
  rcases tolerated.foreign row member with old | foreign
  · exact unsent row old
  · exact foreign

/-- What is tolerated keeps the receipt that the call has sent. -/
theorem Tolerated.sent (tolerated : Tolerated call before after)
    {receipt : TelemetryDeliveryReceipt} (sent : call.Sent before receipt) :
    call.Sent after receipt := by
  -- A receipt that appeared in between is of another attempt.
  refine ⟨tolerated.receipts _ sent.1, fun row member attempt named => ?_⟩
  rcases tolerated.foreign row member with old | foreign
  · exact sent.2 row old attempt named
  · exact absurd named (foreign attempt)

/-- What is tolerated keeps the owner of the request. -/
theorem Tolerated.ownedBy (tolerated : Tolerated call before after)
    {first : TelemetryDeliveryReceipt} (owned : OwnedBy before requestId first) :
    OwnedBy after requestId first := by
  -- Identities and receipts are kept by the others.
  obtain ⟨owner, identity, receipt, digest⟩ := owned
  exact ⟨owner, Table.get?_of_kept tolerated.identities identity,
    Table.get?_of_kept tolerated.receipts receipt, digest⟩

/-- The others leave a note true, unless they become the owner of an identifier that is claimed. -/
theorem RecordNote.Fact.tolerated {note : RecordNote} (fact : note.Fact call requestId before)
    (tolerated : Tolerated call before after)
    (unowned : Lock.value (.requestId requestId) ∈ note.locks call requestId →
      before.identities.get? requestId = none → after.identities.get? requestId = none) :
    note.Fact call requestId after := by
  -- Receipts and owners stay, and only a claimed identifier depends on nobody adding one.
  have owned : (∃ owner, before.identities.get? requestId = some owner) →
      ∃ owner, after.identities.get? requestId = some owner := by
    rintro ⟨owner, found⟩
    exact ⟨owner, Table.get?_of_kept tolerated.identities found⟩
  cases note with
  | looking attempt => exact ⟨tolerated.unsent fact.1, fun again => owned (fact.2 again)⟩
  | unclaimed | received => exact tolerated.unsent fact
  | claiming | winning =>
    exact ⟨tolerated.unsent fact.1, unowned List.mem_cons_self fact.2⟩
  | found => exact ⟨tolerated.unsent fact.1, Table.get?_of_kept tolerated.identities fact.2⟩
  | replaying | replayed | disputing | disputed | recorded =>
    exact ⟨tolerated.unsent fact.1, tolerated.ownedBy fact.2.1, fact.2.2⟩
  | failed => exact ⟨tolerated.unsent fact.1, owned fact.2⟩
  | won => exact ⟨tolerated.sent fact.1, Table.get?_of_kept tolerated.identities fact.2⟩
  | conflicted => exact ⟨tolerated.sent fact.1, tolerated.ownedBy fact.2.1, fact.2.2⟩

/-- The arguments of a call pass its guards and name the identifier. -/
structure RecordCall.Valid (call : RecordCall) (requestId : UUID) : Prop where
  named : call.delivery.canonicalRequestId = some requestId
  short : call.delivery.rawBody.length ≤ maxEvidenceBodyBytes
  identified : call.delivery.peerCertificateIdentity.isEmpty = false

variable {db : Database}

/-- A receipt that is not stored yet can be inserted. -/
theorem RecordCall.Unsent.admits (unsent : call.Unsent db) (valid : call.Valid requestId)
    (attempt : Nat) (first : Option TelemetryDeliveryReceipt) :
    db.AdmitsReceipt (call.receipt attempt first) :=
  ⟨Table.get?_eq_none.mpr fun row member => unsent row member attempt, valid.short⟩

/-- An identifier without an owner can be claimed for a receipt that is not stored yet. -/
theorem RecordCall.Unsent.admitsIdentity (unsent : call.Unsent db) (ledger : Ledger db)
    (free : db.identities.get? requestId = none) :
    db.AdmitsIdentity (RecordNote.owner call requestId) := by
  -- An identity names a receipt, and none of this call's has been written.
  refine ⟨free, fun other member same => ?_⟩
  obtain ⟨receipt, stored, named, -⟩ := ledger.identities other member
  exact unsent receipt stored 0 (named.trans same)

/-- A receipt that is inserted is the only one of its call. -/
theorem RecordCall.Unsent.sent (unsent : call.Unsent before) (attempt : Nat)
    {first : Option TelemetryDeliveryReceipt}
    (inserted : after.receipts = before.receipts.insert (call.receipt attempt first)) :
    call.Sent after (call.receipt attempt first) := by
  -- The key was unused, so the table grows by this receipt alone.
  have unused : before.receipts.get? (call.receipt attempt first).receiptId = none :=
    Table.get?_eq_none.mpr fun row member => unsent row member attempt
  rw [RecordCall.Sent, inserted]
  refine ⟨(Table.mem_insert unused).mpr (Or.inr rfl), fun row member other named => ?_⟩
  rcases (Table.mem_insert unused).mp member with old | rfl
  · exact absurd named (unsent row old other)
  · rfl

/-- The other calls tolerate an inserted receipt under an identifier that is not theirs. -/
theorem tolerated_insert {row : TelemetryDeliveryReceipt}
    (unused : before.receipts.get? row.receiptId = none)
    (inserted : after.receipts = before.receipts.insert row)
    (identities : ∀ row ∈ before.identities, row ∈ after.identities)
    (foreign : ∀ attempt, row.receiptId ≠ call.id attempt) : Tolerated call before after where
  -- The new row is the only one that was not there before.
  receipts other member := by
    rw [inserted]
    exact (Table.mem_insert unused).mpr (Or.inl member)
  identities := identities
  foreign other member := by
    rw [inserted] at member
    rcases (Table.mem_insert unused).mp member with old | rfl
    · exact Or.inl old
    · exact Or.inr foreign

/-- A serial call that finds no owner adds one. -/
theorem reachable_addOwner (reachable : Reachable db) (valid : call.Valid requestId)
    (unsent : call.Unsent db) (free : db.identities.get? requestId = none) :
    Reachable (db.addOwner (call.receipt 0 none) (RecordNote.owner call requestId)
      (call.event 0 none)) := by
  -- The rows are those of an uninterrupted call, whose outcome is the only one that fits.
  have after := Reachable.call ⟨call.uuid4, 0⟩ (.recordDelivery call.delivery (some (call.id 0)))
    reachable
  obtain ⟨attempt, happened⟩ := recordDelivery_valid call.delivery (some (call.id 0)) call.uuid4 db
    valid.short valid.identified
  rw [RepoCall.exec, RepoCall.program] at after
  generalize serially Stmt.exec (recordDelivery call.delivery (some (call.id 0)) call.uuid4) db =
    outcome at happened after
  have unowned : ∀ owner ∈ db.identities,
      call.delivery.canonicalRequestId ≠ some owner.requestId := by
    intro owner member same
    have key : requestId = owner.requestId := Option.some.inj (valid.named.symm.trans same)
    exact Table.get?_eq_none.mp free owner member key.symm
  cases happened with
  | anonymous unnamed =>
    rw [valid.named] at unnamed
    cases unnamed
  | first named =>
    cases valid.named.symm.trans named
    exact after
  | replay named owned | reused named owned | dangling named owned =>
    exact absurd named (unowned _ owned)
  | integrity unmatched refused =>
    have admits := unsent.admits valid 0 none
    exact absurd ⟨admits.1, valid.short, (unsent.admitsIdentity reachable.ledger free).2⟩ refused

/-- A serial call that finds an owner with other bytes adds its receipt. -/
theorem reachable_addReceipt (reachable : Reachable db) (valid : call.Valid requestId)
    (unsent : call.Unsent db) {first : TelemetryDeliveryReceipt}
    (owned : OwnedBy db requestId first) (different : first.rawBody ≠ call.delivery.rawBody)
    (attempt : Nat) :
    Reachable (db.addReceipt (call.receipt attempt (some first))
      (call.event attempt (some first))) := by
  -- The rows are those of an uninterrupted call that finds this owner and this first receipt.
  have after := Reachable.call ⟨call.uuid4, 0⟩
    (.recordDelivery call.delivery (some (call.id attempt))) reachable
  obtain ⟨_, happened⟩ := recordDelivery_valid call.delivery (some (call.id attempt)) call.uuid4 db
    valid.short valid.identified
  rw [RepoCall.exec, RepoCall.program] at after
  generalize serially Stmt.exec (recordDelivery call.delivery (some (call.id attempt)) call.uuid4)
    db = outcome at happened after
  obtain ⟨owner, identity, receipt, digest⟩ := owned
  obtain ⟨member, key⟩ := Table.get?_eq_some.mp identity
  -- The tables name one owner and one first receipt.
  have own : ∀ {other}, call.delivery.canonicalRequestId = some other.requestId →
      other ∈ db.identities → other = owner := by
    intro other named stored
    cases valid.named.symm.trans named
    exact Table.eq_of_key stored member key.symm
  have original : ∀ {other : TelemetryDeliveryReceipt}, other ∈ db.receipts →
      other.receiptId = owner.firstReceiptId → other = first := by
    intro other stored named
    obtain ⟨among, same⟩ := Table.get?_eq_some.mp receipt
    exact Table.eq_of_key stored among (named.trans same.symm)
  cases happened with
  | anonymous unnamed =>
    rw [valid.named] at unnamed
    cases unnamed
  | first named admitted unowned =>
    cases valid.named.symm.trans named
    rw [unowned.1] at identity
    cases identity
  | replay named owned present link same equal =>
    cases own named owned
    cases original present link
    exact absurd equal different
  | reused named owned present link =>
    cases own named owned
    cases original present link
    exact after
  | integrity unmatched refused =>
    have admits := unsent.admits valid attempt none
    refine absurd ⟨admits.1, valid.short, fun other stored same => ?_⟩ refused
    obtain ⟨taken, among, named, -⟩ := reachable.ledger.identities other stored
    exact unsent taken among attempt (named.trans same)
  | dangling named owned absent =>
    cases own named owned
    rw [receipt] at absent
    cases absent

end Tables

/-- What a call publishes when it makes its next request. -/
inductive Publishes (call : RecordCall) (requestId : UUID) (db : Database) :
    RecordNote → Database → Prop where
  | nothing (note : RecordNote) : Publishes call requestId db note db
  | owner : Publishes call requestId db .winning
      (db.addOwner (call.receipt 0 none) (RecordNote.owner call requestId) (call.event 0 none))
  | conflict (attempt : Nat) (first : TelemetryDeliveryReceipt) :
      Publishes call requestId db (.recorded attempt first)
        (db.addReceipt (call.receipt attempt (some first)) (call.event attempt (some first)))

/-- A reply leads a call to a note that the tables still back, and publishes what it may. -/
def RecordNote.Advances {ι : Type} (call : RecordCall) (requestId : UUID) (session : ι)
    (server : Sessions ι) (note : RecordNote) (req : Sql Stmt)
    (reply : Except StorageError (Sql.Reply Stmt.Reply req)) (after : Sessions ι) : Prop :=
  ∃ later, note.moves call req reply later ∧ later.Backed call requestId session after ∧
    Publishes call requestId server.committed note after.committed

section Steps
variable {ι : Type} [DecidableEq ι] {call : RecordCall} {requestId : UUID} {session : ι}
variable {server after : Sessions ι}

open RecordNote

/-- A statement that succeeds leads from note to note. -/
theorem advances_statement {note later : RecordNote} {stmt : Stmt}
    {reply : Except StorageError stmt.Reply}
    (backed : note.Backed call requestId session server)
    (performed : (sessionMachine ι).exec () session server (.statement stmt) =
      some (reply, after))
    (value : stmt.Reply)
    (answers : (stmt.exec (postgres.replay (note.log call requestId) server.committed)).1 =
      .ok value)
    (moved : note.moves call (.statement stmt) (.ok value) later)
    (logged : later.log call requestId = note.log call requestId ++ [stmt])
    (locked : later.locks call requestId =
      stmt.locks (postgres.replay (note.log call requestId) server.committed) ++
        note.locks call requestId)
    (fact : later.Fact call requestId server.committed) :
    note.Advances call requestId session server (.statement stmt) reply after := by
  -- The server answers by the rows that the session sees, and it takes the locks of the statement.
  obtain ⟨rfl, unchanged, owns⟩ := backed.1.answered performed answers
  refine ⟨later, moved, ⟨?_, by rwa [unchanged]⟩, by rw [unchanged]; exact .nothing _⟩
  rw [logged, locked]
  exact owns

/-- The rows that a call sees after it has inserted its receipt. -/
theorem replay_insertReceipt {db : Database} {row : TelemetryDeliveryReceipt}
    (admitted : db.AdmitsReceipt row) (rest : List Stmt) :
    postgres.replay (.insertReceipt row :: rest) db =
      postgres.replay rest { db with receipts := db.receipts.insert row } := by
  -- The row is admitted, so the insertion takes place.
  have inserted : (Stmt.insertReceipt row).exec db =
      (.ok (), { db with receipts := db.receipts.insert row }) := if_pos admitted
  show postgres.replay rest ((Stmt.insertReceipt row).exec db).2 = _
  rw [inserted]

/-- A transaction that adds an owner publishes it with its receipt. -/
theorem replay_winning {db : Database} (receipt : db.AdmitsReceipt (call.receipt 0 none))
    (identity : db.AdmitsIdentity (owner call requestId)) :
    postgres.replay (winning.log call requestId) db =
      db.addOwner (call.receipt 0 none) (owner call requestId) (call.event 0 none) := by
  -- The identity comes on top of the receipt, which the admission has let in.
  have inserted : (Stmt.insertIdentity (owner call requestId)).exec
      { db with receipts := db.receipts.insert (call.receipt 0 none) } = (.ok (), _) :=
    if_pos identity
  show postgres.replay (.insertReceipt _ :: _) db = _
  rw [replay_insertReceipt receipt]
  show ((Stmt.insertAudit _).exec ((Stmt.insertIdentity _).exec _).2).2 = _
  rw [inserted]
  rfl

/-- A transaction in conflict publishes its receipt. -/
theorem replay_recorded {db : Database} {attempt : Nat} {first : TelemetryDeliveryReceipt}
    (receipt : db.AdmitsReceipt (call.receipt attempt (some first))) :
    postgres.replay ((recorded attempt first).log call requestId) db =
      db.addReceipt (call.receipt attempt (some first)) (call.event attempt (some first)) := by
  -- The receipt is admitted, and the audit event always is.
  show postgres.replay (.insertReceipt _ :: _) db = _
  rw [replay_insertReceipt receipt]
  rfl

/-- The look for an owner leads from note to note. -/
theorem looking_advances {attempt : Nat} {reply : Except StorageError (Option TelemetryRequestIdentity)}
    (backed : (looking attempt).Backed call requestId session server)
    (performed : (sessionMachine ι).exec () session server
      (.statement (.selectIdentity requestId)) = some (reply, after)) :
    (looking attempt).Advances call requestId session server
      (.statement (.selectIdentity requestId)) reply after := by
  -- Two cases: the identifier has an owner, or it has none.
  obtain ⟨owns, unsent, owned⟩ := backed
  cases found : server.committed.identities.get? requestId with
  | none =>
    -- A second attempt would have found the owner that made the first one fail.
    have initial : attempt = 0 := by
      by_contra again
      obtain ⟨owner, stored⟩ := owned again
      rw [found] at stored
      cases stored
    refine advances_statement ⟨owns, unsent, owned⟩ performed none (congrArg Except.ok found)
      (Or.inl ⟨rfl, initial, rfl⟩) rfl ?_ unsent
    show [] = lockRow _ (server.committed.identities.get? requestId) ++ []
    rw [found]
    rfl
  | some owner =>
    refine advances_statement ⟨owns, unsent, owned⟩ performed (some owner)
      (congrArg Except.ok found) (Or.inr ⟨owner, rfl, rfl⟩) rfl ?_ ⟨unsent, found⟩
    show [_] = lockRow _ (server.committed.identities.get? requestId) ++ []
    rw [found, ← (Table.get?_eq_some.mp found).2]
    rfl

/-- The claim of an identifier leads from note to note, and it fails where another was faster. -/
theorem received_advances {reply : Except StorageError Unit} (valid : call.Valid requestId)
    (ledger : Ledger server.committed)
    (backed : received.Backed call requestId session server)
    (performed : (sessionMachine ι).exec () session server
      (.statement (.insertIdentity (owner call requestId))) = some (reply, after)) :
    received.Advances call requestId session server
      (.statement (.insertIdentity (owner call requestId))) reply after := by
  -- The session sees its own receipt above the committed tables.
  obtain ⟨owns, unsent⟩ := backed
  have seen : postgres.replay (received.log call requestId) server.committed =
      { server.committed with
        receipts := server.committed.receipts.insert (call.receipt 0 none) } :=
    replay_insertReceipt (unsent.admits valid 0 none) []
  cases found : server.committed.identities.get? requestId with
  | none =>
    refine advances_statement ⟨owns, unsent⟩ performed () ?_ (Or.inl ⟨rfl, rfl⟩) rfl rfl
      ⟨unsent, found⟩
    rw [seen]
    exact congrArg Prod.fst (if_pos (unsent.admitsIdentity ledger found))
  | some owner =>
    -- Another call has claimed the identifier since the look for its owner.
    have fails : ((Stmt.insertIdentity (RecordNote.owner call requestId)).exec
        (postgres.replay (received.log call requestId) server.committed)).1 =
        .error .integrity := by
      rw [seen]
      refine congrArg Prod.fst (if_neg fun admitted => ?_)
      cases found.symm.trans admitted.1
    obtain ⟨rfl, rfl⟩ := owns.refused performed fails
    exact ⟨.failed, Or.inr ⟨rfl, rfl⟩, ⟨owns, unsent, owner, found⟩, .nothing _⟩

/-- The read of the first receipt leads from note to note. -/
theorem found_advances {attempt : Nat} {owner : TelemetryRequestIdentity}
    {reply : Except StorageError (Option TelemetryDeliveryReceipt)}
    (ledger : Ledger server.committed)
    (backed : (found attempt owner).Backed call requestId session server)
    (performed : (sessionMachine ι).exec () session server
      (.statement (.selectReceipt owner.firstReceiptId false)) = some (reply, after)) :
    (found attempt owner).Advances call requestId session server
      (.statement (.selectReceipt owner.firstReceiptId false)) reply after := by
  -- The ledger leads from an owner to its first receipt and its digest.
  obtain ⟨owns, unsent, claimed⟩ := backed
  obtain ⟨stored, -⟩ := Table.get?_eq_some.mp claimed
  obtain ⟨first, member, named, -, digest⟩ := ledger.identities owner stored
  have receipt : server.committed.receipts.get? owner.firstReceiptId = some first :=
    Table.get?_eq_some.mpr ⟨member, named⟩
  have same : owner.bodySha256 = sha256Hex first.rawBody :=
    digest.symm.trans (ledger.receipts first member).digest
  have owned : OwnedBy server.committed requestId first := ⟨owner, claimed, receipt, same⟩
  by_cases equal : first.rawBody = call.delivery.rawBody
  · refine advances_statement ⟨owns, unsent, claimed⟩ performed (some first)
      (congrArg Except.ok receipt) ⟨first, rfl, same, Or.inl ⟨equal, rfl⟩⟩ ?_ rfl
      ⟨unsent, owned, equal⟩
    rw [← named]
    rfl
  · refine advances_statement ⟨owns, unsent, claimed⟩ performed (some first)
      (congrArg Except.ok receipt) ⟨first, rfl, same, Or.inr ⟨equal, rfl⟩⟩ ?_ rfl
      ⟨unsent, owned, equal⟩
    rw [← named]
    rfl

/-- The commit of an owner leads to the last note of a call that has won. -/
theorem winning_advances {reply : Except StorageError Unit} (valid : call.Valid requestId)
    (ledger : Ledger server.committed)
    (backed : winning.Backed call requestId session server)
    (performed : (sessionMachine ι).exec () session server .commit = some (reply, after)) :
    winning.Advances call requestId session server .commit reply after := by
  -- What is published is what the session has seen: the tables with its owner.
  obtain ⟨owns, unsent, free⟩ := backed
  obtain ⟨rfl, rfl⟩ := Dialect.commit_eq performed
  have seen : server.view postgres session = _ := owns.view.trans
    (replay_winning (unsent.admits valid 0 none) (unsent.admitsIdentity ledger free))
  rw [seen]
  refine ⟨.won, ⟨rfl, rfl⟩, ⟨.leave _ _ _, unsent.sent 0 rfl, ?_⟩, .owner⟩
  exact (Table.get?_insert free requestId).trans (if_pos rfl)

/-- The commit of a conflict leads to the last note of a call in conflict. -/
theorem recorded_advances {attempt : Nat} {first : TelemetryDeliveryReceipt}
    {reply : Except StorageError Unit} (valid : call.Valid requestId)
    (backed : (recorded attempt first).Backed call requestId session server)
    (performed : (sessionMachine ι).exec () session server .commit = some (reply, after)) :
    (recorded attempt first).Advances call requestId session server .commit reply after := by
  -- What is published is what the session has seen: the tables with its receipt.
  obtain ⟨owns, unsent, ⟨owner, identity, receipt, digest⟩, different⟩ := backed
  have admits := unsent.admits valid attempt (some first)
  obtain ⟨rfl, rfl⟩ := Dialect.commit_eq performed
  have seen : server.view postgres session = _ := owns.view.trans (replay_recorded admits)
  rw [seen]
  refine ⟨.conflicted attempt first, ⟨rfl, rfl⟩,
    ⟨.leave _ _ _, unsent.sent attempt rfl, ?_, different⟩, .conflict _ _⟩
  refine ⟨owner, identity, Table.get?_of_kept (fun row member => ?_) receipt, digest⟩
  exact (Table.mem_insert admits.1).mpr (Or.inl member)

/-- Every request of a call leads from note to note. -/
theorem record_advances {note : RecordNote} {req : Sql Stmt}
    {reply : Except StorageError (Sql.Reply Stmt.Reply req)} (valid : call.Valid requestId)
    (reachable : Reachable server.committed) (backed : note.Backed call requestId session server)
    (next : note.next call requestId = some req)
    (performed : (sessionMachine ι).exec () session server req = some (reply, after)) :
    note.Advances call requestId session server req reply after := by
  -- One case for each request of the call.
  have ledger := reachable.ledger
  cases note with
  | won | replayed | conflicted => cases next
  | looking attempt =>
    cases next
    exact looking_advances backed performed
  | unclaimed =>
    cases next
    exact advances_statement backed performed ()
      (congrArg Prod.fst (if_pos (backed.2.admits valid 0 none))) ⟨rfl, rfl⟩ rfl rfl backed.2
  | received =>
    cases next
    exact received_advances valid ledger backed performed
  | claiming =>
    cases next
    exact advances_statement backed performed () rfl ⟨rfl, rfl⟩ rfl rfl backed.2
  | winning =>
    cases next
    exact winning_advances valid ledger backed performed
  | found attempt owner =>
    cases next
    exact found_advances ledger backed performed
  | replaying first =>
    cases next
    obtain ⟨owns, fact⟩ := backed
    obtain ⟨rfl, rfl⟩ := Dialect.commit_eq performed
    have seen : server.view postgres session = server.committed := owns.view
    rw [seen]
    exact ⟨.replayed first, ⟨rfl, rfl⟩, ⟨.leave _ _ _, fact⟩, .nothing _⟩
  | disputing attempt first =>
    cases next
    exact advances_statement backed performed ()
      (congrArg Prod.fst (if_pos (backed.2.1.admits valid attempt (some first)))) ⟨rfl, rfl⟩ rfl rfl
      backed.2
  | disputed attempt first =>
    cases next
    exact advances_statement backed performed () rfl ⟨rfl, rfl⟩ rfl rfl backed.2
  | recorded attempt first =>
    cases next
    exact recorded_advances valid backed performed
  | failed =>
    cases next
    obtain ⟨owns, unsent, owned⟩ := backed
    obtain ⟨rfl, rfl⟩ := Dialect.rollback_eq performed
    exact ⟨looking 1, ⟨rfl, rfl⟩, ⟨.leave _ _ _, unsent, fun _ => owned⟩, .nothing _⟩

/-- The step of one call leaves the notes of the others true. -/
theorem record_spares {other : ι} {rival : RecordCall} {note theirs : RecordNote} {req : Sql Stmt}
    {reply : Except StorageError (Sql.Reply Stmt.Reply req)} (valid : call.Valid requestId)
    (different : session ≠ other) (foreign : ∀ mine yours, call.id mine ≠ rival.id yours)
    (backed : note.Backed call requestId session server)
    (spared : theirs.Backed rival requestId other server)
    (performed : (sessionMachine ι).exec () session server req = some (reply, after))
    (publishes : Publishes call requestId server.committed note after.committed) :
    theirs.Backed rival requestId other after := by
  refine ⟨Dialect.owns_other spared.1 different performed, ?_⟩
  have fact := spared.2
  generalize after.committed = published at publishes
  -- A call publishes an owner, a receipt in conflict, or nothing.
  cases publishes with
  | nothing => exact fact
  | owner =>
    have mine := backed.2
    refine fact.tolerated (tolerated_insert (mine.1.admits valid 0 none).1 rfl ?_ (foreign 0)) ?_
    · exact fun row member => (Table.mem_insert mine.2).mpr (Or.inl member)
    · -- Two sessions cannot both have claimed the identifier.
      intro claimed
      have held := (spared.1.holder _).mpr claimed
      have owned := (backed.1.holder (.value (.requestId requestId))).mpr List.mem_cons_self
      exact absurd (Option.some.inj (owned.symm.trans held)) different
  | conflict attempt first =>
    have mine := backed.2
    exact fact.tolerated (tolerated_insert (mine.1.admits valid attempt (some first)).1 rfl
      (fun _ => id) (foreign attempt)) fun _ => id

omit [DecidableEq ι] in
/-- What a call publishes is the effect of a serial call. -/
theorem Publishes.reachable {note : RecordNote} {published : Database}
    (publishes : Publishes call requestId server.committed note published)
    (valid : call.Valid requestId) (reachable : Reachable server.committed)
    (fact : note.Fact call requestId server.committed) : Reachable published := by
  -- One case per way of committing, each of which a serial call has as well.
  cases publishes with
  | nothing => exact reachable
  | owner => exact reachable_addOwner reachable valid fact.1 fact.2
  | conflict attempt first =>
    exact reachable_addReceipt reachable valid fact.1 fact.2.1 fact.2.2 attempt

/-- What a call publishes leaves the identities that are there. -/
theorem Publishes.identities {note : RecordNote} {db published : Database}
    (publishes : Publishes call requestId db note published) (fact : note.Fact call requestId db) :
    ∀ row ∈ db.identities, row ∈ published.identities := by
  -- Only the owner publishes an identity, and it is added to those there are.
  cases publishes with
  | nothing => exact fun _ => id
  | owner => exact fun row member => (Table.mem_insert fact.2).mpr (Or.inl member)
  | conflict => exact fun _ => id

/-- An owner that a call publishes is the call itself. -/
theorem Publishes.origin {note : RecordNote} {db published : Database}
    (publishes : Publishes call requestId db note published) (fact : note.Fact call requestId db)
    {owner : TelemetryRequestIdentity} (found : published.identities.get? requestId = some owner) :
    db.identities.get? requestId = some owner ∨
      note = .winning ∧ owner = RecordNote.owner call requestId := by
  -- Only a commit that adds an owner changes what is found under an identifier.
  cases publishes with
  | nothing | conflict => exact Or.inl found
  | owner =>
    have stored : (db.identities.insert (RecordNote.owner call requestId)).get? requestId =
        some (RecordNote.owner call requestId) :=
      (Table.get?_insert fact.2 requestId).trans (if_pos rfl)
    exact Or.inr ⟨rfl, Option.some.inj (found.symm.trans stored)⟩

end Steps

/-- The identifiers that the calls generate are unused, and differ from call to call. -/
structure FreshIds {ι : Type} (db : Database) (calls : ι → RecordCall) : Prop where
  unused : ∀ session attempt, db.receipts.get? ((calls session).id attempt) = none
  apart : ∀ first second, first ≠ second → ∀ mine yours,
    (calls first).id mine ≠ (calls second).id yours

/-- How far all the calls have come. -/
structure Race {ι : Type} (db : Database) (calls : ι → RecordCall) (requestId : UUID)
    (config : RaceConfig ι DeliveryRecordResult) (notes : ι → RecordNote) : Prop where
  cast : Cast (fun session => recordRole (calls session) requestId)
    (fun session => RecordNote.returned (calls session))
    (fun session => RecordNote.Backed (calls session) requestId session) config notes
  reachable : Reachable config.state.committed
  /-- An identifier that had no owner belongs to the call that has won. -/
  winner : ∀ owner, config.state.committed.identities.get? requestId = some owner →
    db.identities.get? requestId = some owner ∨
      ∃ session, notes session = .won ∧ owner = RecordNote.owner (calls session) requestId

section Races
variable {ι : Type} {db : Database} {calls : ι → RecordCall} {requestId : UUID}
variable {config config' : RaceConfig ι DeliveryRecordResult} {notes : ι → RecordNote}

/-- The calls start with a look for the owner. -/
theorem Race.start (reachable : Reachable db) (valid : ∀ session, (calls session).Valid requestId)
    (fresh : FreshIds db calls) :
    Race db calls requestId (startRace db fun session => (calls session).program)
      fun _ => .looking 0 where
  cast := {
    plays := fun session => ⟨_, rfl, recordCall_plays (valid session).named (valid session).short
      (valid session).identified⟩
    backed := fun session => ⟨Server.owns_idle db session, fun row member attempt =>
      Table.get?_eq_none.mp (fresh.unused session attempt) row member, fun again => absurd rfl again⟩ }
  reachable := reachable
  winner _ found := Or.inl found

variable [DecidableEq ι]

/-- Every step of a race leads on in the race. -/
theorem Race.step (race : Race db calls requestId config notes)
    (valid : ∀ session, (calls session).Valid requestId) (fresh : FreshIds db calls)
    (step : RaceStep config config') :
    (∃ notes', Race db calls requestId config' notes') ∧
      ∀ row ∈ config.state.committed.identities, row ∈ config'.state.committed.identities := by
  -- The acting call goes on by its role, and its step leaves the notes of the others true.
  obtain ⟨running, performed⟩ := step
  rename_i session req next choice reply state
  have mine := race.cast.backed session
  obtain ⟨later, moved, backed, publishes⟩ := record_advances (valid session) race.reachable mine
    (race.cast.request running).1 performed
  have identities := publishes.identities mine.2
  refine ⟨⟨_, race.cast.act running moved backed fun other different => ?_,
    publishes.reachable (valid session) race.reachable mine.2, fun owner found => ?_⟩, identities⟩
  · exact record_spares (valid session) different.symm (fresh.apart session other different.symm) mine
      (race.cast.backed other) performed publishes
  · have goesOn : (notes session).next (calls session) requestId = some req :=
      (race.cast.request running).1
    -- An owner is either an earlier one or the call that commits as the winner.
    rcases publishes.origin mine.2 found with earlier | ⟨note, same⟩
    · refine (race.winner owner earlier).imp_right ?_
      rintro ⟨place, won, same⟩
      -- A winner that has committed makes no more requests, so its note stays.
      have other : place ≠ session := by
        rintro rfl
        rw [won] at goesOn
        cases goesOn
      exact ⟨place, (Function.update_of_ne other ..).trans won, same⟩
    · rw [note] at goesOn moved
      cases goesOn
      exact Or.inr ⟨session, (Function.update_self ..).trans moved.2, same⟩

omit [DecidableEq ι] in
/-- The identifiers of one call are not locked by another. -/
theorem Race.unheld (race : Race db calls requestId config notes) (fresh : FreshIds db calls)
    {session other : ι} (different : other ≠ session) (attempt : Nat) :
    config.state.holder (.value (.receiptId ((calls session).id attempt))) ≠ some other ∧
      config.state.holder (.value (.firstReceiptId ((calls session).id attempt))) ≠ some other := by
  -- A call locks receipts under its own identifiers only.
  have apart := fresh.apart session other different.symm attempt
  have owns := (race.cast.backed other).1
  refine ⟨fun held => ?_, fun held => ?_⟩
  · have listed := (owns.holder _).mp held
    cases kind : notes other <;> rw [kind] at listed <;>
      simp [RecordNote.locks] at listed <;> exact absurd listed (apart _)
  · have listed := (owns.holder _).mp held
    cases kind : notes other <;> rw [kind] at listed <;>
      simp [RecordNote.locks] at listed <;> exact absurd listed (apart _)

/-- A call that holds what other calls wait for. -/
def RecordNote.Urgent : RecordNote → Prop
  | claiming | winning | found _ _ | replaying _ | disputing _ _ | disputed _ _ | recorded _ _ => True
  | _ => False

/-- What other calls wait for is held by an urgent call. -/
theorem RecordNote.urgent_of_lock {call : RecordCall} {note : RecordNote} {lock : Lock}
    (wanted : lock = .row (.identity requestId) ∨ lock = .value (.requestId requestId))
    (held : lock ∈ note.locks call requestId) : note.Urgent := by
  -- By the note: only the urgent ones hold a lock on the identity.
  rcases wanted with rfl | rfl <;> cases note <;> simp_all [locks, Urgent]

/-- An urgent call does not wait. -/
theorem Race.urgent_acts (race : Race db calls requestId config notes) (fresh : FreshIds db calls)
    {session : ι} (urgent : (notes session).Urgent) :
    ∃ req outcome, (notes session).next (calls session) requestId = some req ∧
      (sessionMachine ι).exec () session config.state req = some outcome := by
  -- Behind its lock on the identifier, a call needs nothing that another call can hold.
  have statement : ∀ stmt : Stmt, (∀ other, other ≠ session →
      ∀ lock ∈ stmt.locks (config.state.view postgres session),
        config.state.holder lock ≠ some other) →
      ∃ outcome, (sessionMachine ι).exec () session config.state (.statement stmt) = some outcome :=
    fun stmt => performs_of_unheld
  cases kind : notes session <;> rw [kind] at urgent
  case looking | unclaimed | received | failed | won | replayed | conflicted => exact urgent.elim
  case winning | replaying | recorded => exact ⟨_, _, rfl, rfl⟩
  case claiming =>
    obtain ⟨outcome, performed⟩ := statement (.insertAudit _) fun _ _ _ none => nomatch none
    exact ⟨_, outcome, rfl, performed⟩
  case found =>
    obtain ⟨outcome, performed⟩ := statement (.selectReceipt _ false) fun _ _ _ none => nomatch none
    exact ⟨_, outcome, rfl, performed⟩
  case disputed =>
    obtain ⟨outcome, performed⟩ := statement (.insertAudit _) fun _ _ _ none => nomatch none
    exact ⟨_, outcome, rfl, performed⟩
  case disputing attempt first =>
    obtain ⟨outcome, performed⟩ := statement
      (.insertReceipt ((calls session).receipt attempt (some first))) (by
        intro other different lock listed
        cases List.mem_singleton.mp listed
        exact (race.unheld fresh different attempt).1)
    exact ⟨_, outcome, rfl, performed⟩

/-- While a call has not returned, some call can make a request. -/
theorem Race.goes_on (race : Race db calls requestId config notes) (fresh : FreshIds db calls)
    {session : ι} {req : Sql Stmt} (next : (notes session).next (calls session) requestId = some req) :
    ∃ place req outcome, (notes place).next (calls place) requestId = some req ∧
      (sessionMachine ι).exec () place config.state req = some outcome := by
  -- A call waits for an urgent one at most.
  have waits : ∀ stmt, (notes session).next (calls session) requestId = some (.statement stmt) →
      (∀ lock ∈ stmt.locks (config.state.view postgres session),
        lock = .row (.identity requestId) ∨ lock = .value (.requestId requestId) ∨
          ∀ other, other ≠ session → config.state.holder lock ≠ some other) →
      ∃ place req outcome, (notes place).next (calls place) requestId = some req ∧
        (sessionMachine ι).exec () place config.state req = some outcome := by
    intro stmt pending wanted
    by_cases blocked : ∃ other, (notes other).Urgent
    · obtain ⟨other, urgent⟩ := blocked
      obtain ⟨req, outcome, pending, performed⟩ := race.urgent_acts fresh urgent
      exact ⟨other, req, outcome, pending, performed⟩
    · have free : ∀ other, other ≠ session → ∀ lock ∈ stmt.locks (config.state.view postgres session),
          config.state.holder lock ≠ some other := by
        intro other different lock listed held
        have theirs := ((race.cast.backed other).1.holder lock).mp held
        rcases wanted lock listed with row | value | unheld
        · exact blocked ⟨other, RecordNote.urgent_of_lock (Or.inl row) theirs⟩
        · exact blocked ⟨other, RecordNote.urgent_of_lock (Or.inr value) theirs⟩
        · exact unheld other different held
      obtain ⟨outcome, performed⟩ := performs_of_unheld free
      exact ⟨session, _, outcome, pending, performed⟩
  -- A call that is not urgent yet has one statement to make, with few locks.
  by_cases urgent : (notes session).Urgent
  · obtain ⟨req, outcome, pending, performed⟩ := race.urgent_acts fresh urgent
    exact ⟨session, req, outcome, pending, performed⟩
  · cases kind : notes session <;> rw [kind] at next urgent
    case claiming | winning | found | replaying | disputing | disputed | recorded =>
      exact absurd trivial urgent
    case won | replayed | conflicted => cases next
    case failed => exact ⟨session, .rollback, _, by rw [kind]; rfl, rfl⟩
    case looking attempt =>
      refine waits (.selectIdentity requestId) (by rw [kind]; rfl) fun lock listed => Or.inl ?_
      obtain ⟨owner, found, rfl⟩ := mem_lockRow.mp listed
      rw [(Table.get?_eq_some.mp found).2]
    case unclaimed =>
      refine waits (.insertReceipt _) (by rw [kind]; rfl) fun lock listed => ?_
      cases List.mem_singleton.mp listed
      exact Or.inr (Or.inr fun other different => (race.unheld fresh different 0).1)
    case received =>
      refine waits (.insertIdentity _) (by rw [kind]; rfl) fun lock listed => ?_
      rcases List.mem_pair.mp listed with rfl | rfl
      · exact Or.inr (Or.inl rfl)
      · exact Or.inr (Or.inr fun other different => (race.unheld fresh different 0).2)

/-- A race that has come to an end has answered every call. -/
theorem Race.answered (race : Race db calls requestId config notes) (fresh : FreshIds db calls)
    (halted : Halted (sessionMachine ι) config) (session : ι) :
    ∃ result, config.threads session = some (.done result) := by
  -- Every request that is waiting is served in the end, and the role has one outcome for each.
  have answered := race.cast.answered
    (fun session => recordRole_determined (calls session) requestId) ?_ halted session
  · obtain ⟨result, ended, -⟩ := answered
    exact ⟨result, ended⟩
  · intro session req next
    obtain ⟨place, req, outcome, pending, performed⟩ := race.goes_on fresh next
    exact ⟨place, req, (), outcome, pending, performed⟩

/-- A race goes on in every interleaving. -/
theorem Race.run (race : Race db calls requestId config notes)
    (valid : ∀ session, (calls session).Valid requestId) (fresh : FreshIds db calls)
    (run : Relation.ReflTransGen RaceStep config config') :
    (∃ notes', Race db calls requestId config' notes') ∧
      ∀ row ∈ config.state.committed.identities, row ∈ config'.state.committed.identities := by
  -- By induction on the run.
  induction run with
  | refl => exact ⟨⟨notes, race⟩, fun _ => id⟩
  | tail _ step ih =>
    obtain ⟨⟨reached, there⟩, kept⟩ := ih
    obtain ⟨next, still⟩ := there.step valid fresh step
    exact ⟨next, fun row member => still row (kept row member)⟩

end Races

/-- What a call returns, given the receipt through which its identifier is owned. -/
inductive RecordCall.Returns (call : RecordCall) (db : Database) (first : TelemetryDeliveryReceipt) :
    DeliveryRecordResult → Prop where
  /-- The call is the owner, and has added the receipt. -/
  | owner (own : first = call.receipt 0 none) (added : call.Sent db first) :
      Returns call db first (deliveryResult first false false)
  /-- The call has the bytes of the owner, and has added nothing. -/
  | replay (same : first.rawBody = call.delivery.rawBody) (nothing : call.Unsent db) :
      Returns call db first (deliveryResult first true false)
  /-- The call has other bytes, and has added one receipt that is linked to the owner's. -/
  | conflict {receipt : TelemetryDeliveryReceipt} (attempt : Nat)
      (different : first.rawBody ≠ call.delivery.rawBody)
      (own : receipt = call.receipt attempt (some first)) (added : call.Sent db receipt)
      (status : receipt.validationStatus = .conflict)
      (link : receipt.duplicateOfReceiptId = some first.receiptId) :
      Returns call db first (deliveryResult receipt false true)

/-- A returned call stands in the relation that its note says. -/
theorem RecordNote.Fact.returns {call : RecordCall} {requestId : UUID} {note : RecordNote}
    {db : Database} (fact : note.Fact call requestId db) {result : DeliveryRecordResult}
    (returned : note.returned call (.ok result)) :
    ∃ first, OwnedBy db requestId first ∧ call.Returns db first result := by
  -- Only three notes belong to calls that have returned.
  cases note with
  | won =>
    cases returned
    refine ⟨call.receipt 0 none, ⟨_, fact.2, ?_, rfl⟩, .owner rfl fact.1⟩
    exact Table.get?_eq_some.mpr ⟨fact.1.1, rfl⟩
  | replayed first =>
    cases returned
    exact ⟨first, fact.2.1, .replay fact.2.2 fact.1⟩
  | conflicted attempt first =>
    cases returned
    exact ⟨first, fact.2.1, .conflict attempt fact.2.2 rfl fact.1 rfl rfl⟩
  | looking | unclaimed | received | claiming | winning | found | replaying | disputing | disputed
  | recorded | failed => exact returned.elim

/--
The request ledger under races.

Any number of `record_delivery` calls under one request identifier interleave their statements in any
way. They come to an end, none of them raises, and none is left waiting. The owner of the identifier
never changes; every call returns as the owner, as a replay or as a conflict, and adds what that
demands. An identifier that had no owner is owned by one of the calls.
-/
theorem request_ledger_races {ι : Type} [DecidableEq ι] [Fintype ι] (db : Database)
    (reachable : Reachable db) (requestId : UUID) (calls : ι → RecordCall)
    (valid : ∀ session, (calls session).Valid requestId) (fresh : FreshIds db calls) :
    Terminates (sessionMachine ι) (startRace db fun session => (calls session).program) ∧
    ∀ config, Relation.ReflTransGen RaceStep (startRace db fun session => (calls session).program)
        config →
      (∀ session error, config.threads session ≠ some (.raise error)) ∧
      (Halted (sessionMachine ι) config →
        ∀ session, ∃ result, config.threads session = some (.done result)) ∧
      (∀ owner, config.state.committed.identities.get? requestId = some owner →
        ∀ later, Relation.ReflTransGen RaceStep config later →
          later.state.committed.identities.get? requestId = some owner) ∧
      (∀ session result, config.threads session = some (.done result) →
        ∃ first, OwnedBy config.state.committed requestId first ∧
          (calls session).Returns config.state.committed first result) ∧
      (∀ owner, config.state.committed.identities.get? requestId = some owner →
        db.identities.get? requestId = some owner ∨
        ∃ session, owner = ⟨requestId, (calls session).id 0, sha256Hex (calls session).delivery.rawBody⟩ ∧
          config.threads session =
            some (.done (deliveryResult ((calls session).receipt 0 none) false false))) := by
  -- The race holds along the run; its notes say what every call has returned.
  refine ⟨terminates _ _, fun config run => ?_⟩
  obtain ⟨⟨notes, race⟩, -⟩ := (Race.start reachable valid fresh).run valid fresh run
  refine ⟨race.cast.not_raised fun session => recordRole_determined (calls session) requestId,
    race.answered fresh, fun owner found later rest => ?_, fun session result ended => ?_,
    fun owner found => ?_⟩
  · exact Table.get?_of_kept (race.run valid fresh rest).2 found
  · obtain ⟨program, present, plays⟩ := race.cast.plays session
    rw [ended] at present
    cases present
    exact (race.cast.backed session).2.returns plays
  · refine (race.winner owner found).imp_right ?_
    rintro ⟨session, won, rfl⟩
    refine ⟨session, rfl, ?_⟩
    obtain ⟨program, present, plays⟩ := race.cast.plays session
    rw [won] at plays
    -- The winner has committed and has its result.
    cases program with
    | done result =>
      cases plays
      exact present
    | raise error => exact plays.elim
    | request req rest => cases plays.1

/-- Three calls under one identifier, the last of them with other bytes. -/
def rivals (session : Fin 3) : RecordCall where
  delivery := {
    rawBody := if session.val = 2 then [2] else [1]
    peerCertificateIdentity := "vendor"
    presentedRequestId := some "r"
    canonicalRequestId := some 7
    contentType := none
    receivedAt := 0 }
  receiptId := none
  uuid4 attempt := 2 * session + if attempt = 0 then 1 else 2

/-- All three calls find no owner before the first one commits. -/
def rivalTurns {ι : Type} (owner replay conflict : ι) : List ι :=
  [owner, replay, conflict, owner, owner, replay, conflict, owner, owner] ++
    List.replicate 5 replay ++ List.replicate 7 conflict

/-- The calls return as the owner, as a replay and as a conflict. -/
theorem rivals_answered :
    ([0, 1, 2].map fun session : Fin 3 =>
      ((runRace .empty (fun session => (rivals session).program) (rivalTurns 0 1 2)).result
        session).map
        fun result => (result.receiptId, result.requestReplay, result.requestConflict)) =
      [some (1, false, false), some (1, true, false), some (6, false, true)] ∧
    ∀ session error, (runRace .empty (fun session => (rivals session).program)
      (rivalTurns 0 1 2)).threads session ≠ some (.raise error) := by
  -- Three rivals take turns; their answers are evaluated, and that none raises holds in every run.
  have valid : ∀ session, (rivals session).Valid 7 :=
    fun session => ⟨rfl, by decide +revert, by decide +revert⟩
  have fresh : FreshIds .empty rivals := by
    refine ⟨fun _ _ => rfl, fun first second different mine yours => ?_⟩
    have distinct : ∀ first second : Fin 3, first ≠ second → ∀ mine yours : Bool,
        (2 * first + if mine = true then 1 else 2 : UUID) ≠
          2 * second + if yours = true then 1 else 2 := by decide
    simpa [RecordCall.id, rivals] using distinct first second different (mine = 0) (yours = 0)
  have race := request_ledger_races .empty .empty 7 rivals valid fresh
  exact ⟨by decide +kernel, (race.2 _ (runRace_run .empty _ (rivalTurns 0 1 2))).1⟩

end Cislunar
