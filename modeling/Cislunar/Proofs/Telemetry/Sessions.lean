import Cislunar.Telemetry.Sessions
import Cislunar.Proofs.Telemetry.Sequence

/-!
The tables of a reception reflect the book of every session.

A turn changes the rows of its own session as its book says and leaves every other session alone, so
what a session ends with does not depend on the deliveries of the others.
-/

namespace Cislunar

open Foundation

section
variable {ι : Type}

/-- The receipt of a delivery in some standing. -/
def Standing.row (arrival : Arrival) (receiptOf : ι → Option UUID) (receiptId : UUID) :
    Standing ι → TelemetryDeliveryReceipt
  | pending => arrival.delivery.receipt receiptId none
  | accepted => acceptedReceipt (arrival.delivery.receipt receiptId none) arrival.values
  | duplicate origin => { arrival.delivery.receipt receiptId none with
      logicalPacketId := some arrival.values.packetId
      duplicateOfReceiptId := receiptOf origin
      parsedIdentifiers := some arrival.values.identifiers
      validationStatus := .duplicate }
  | conflict origin => { arrival.delivery.receipt receiptId none with
      logicalPacketId := some arrival.values.packetId
      duplicateOfReceiptId := receiptOf origin
      parsedIdentifiers := some arrival.values.identifiers
      validationStatus := .conflict
      rejectionReason := some "SEQUENCE_CONFLICT" }

/-- The delivery whose packet a delivery repeats or contradicts. -/
def Standing.origin : Standing ι → Option ι
  | pending | accepted => none
  | duplicate origin | conflict origin => some origin

/-- The packet of an entry. -/
def BookEntry.row (arrivals : ι → Arrival) (receiptOf : ι → Option UUID) (entry : BookEntry ι) :
    LogicalTelemetryPacket :=
  newPacket ((arrivals entry.source).delivery.receipt ((receiptOf entry.source).getD 0) none)
    (arrivals entry.source).values entry.disposition entry.missingBefore

/-- The rows of a session are those of its book. -/
structure Reflects (arrivals : ι → Arrival) (desk : Desk ι) (session : Int × Int)
    (book : Book ι) : Prop where
  packets : desk.db.sessionPackets session =
    book.entries.map (BookEntry.row arrivals desk.receiptOf)
  placed : ∀ entry ∈ book.entries, (arrivals entry.source).session = session ∧
    ∃ receiptId, desk.receiptOf entry.source = some receiptId
  state : desk.db.states.get? session = book.state
  unrecorded : ∀ arrival, (arrivals arrival).session = session → book.standing arrival = none →
    desk.receiptOf arrival = none
  recorded : ∀ arrival, (arrivals arrival).session = session → ∀ standing,
    book.standing arrival = some standing → ∃ receiptId, desk.receiptOf arrival = some receiptId ∧
      desk.db.receipts.get? receiptId =
        some (standing.row (arrivals arrival) desk.receiptOf receiptId) ∧
      ∀ origin, standing.origin = some origin →
        ∃ originId, desk.receiptOf origin = some originId

/-- What holds at a desk after every run. -/
structure Desk.Kept (arrivals : ι → Arrival) (desk : Desk ι) (books : Int × Int → Book ι) :
    Prop where
  reachable : Reachable desk.db
  apart : ∀ arrival other receiptId, desk.receiptOf arrival = some receiptId →
    desk.receiptOf other = some receiptId → arrival = other
  reflects : ∀ arrival, Reflects arrivals desk (arrivals arrival).session
    (books (arrivals arrival).session)

/-- What one call may touch: its receipt and the rows of its session. -/
structure Touches (receiptId : UUID) (session : Int × Int) (db after : Database) : Prop where
  receipts : ∀ other, other ≠ receiptId → after.receipts.get? other = db.receipts.get? other
  packets : ∀ other, other ≠ session → after.sessionPackets other = db.sessionPackets other
  states : ∀ other, other ≠ session → after.states.get? other = db.states.get? other

variable {arrivals : ι → Arrival} {desk : Desk ι}

/-- Rows name receipts that are handed out, so a new receipt changes none of them. -/
theorem BookEntry.row_congr {receiptOf later : ι → Option UUID} {entry : BookEntry ι}
    (same : later entry.source = receiptOf entry.source) :
    entry.row arrivals later = entry.row arrivals receiptOf := by
  -- The row of an entry depends on the receipt of its source only.
  unfold BookEntry.row
  rw [same]

/-- A standing names at most the receipt of its origin. -/
theorem Standing.row_congr {receiptOf later : ι → Option UUID} {standing : Standing ι}
    {arrival : Arrival} {receiptId : UUID}
    (same : ∀ origin, standing.origin = some origin → later origin = receiptOf origin) :
    standing.row arrival later receiptId = standing.row arrival receiptOf receiptId := by
  -- Only a duplicate and a conflict name another receipt.
  cases standing with
  | pending => rfl
  | accepted => rfl
  | duplicate origin => rw [Standing.row, Standing.row, same origin rfl]
  | conflict origin => rw [Standing.row, Standing.row, same origin rfl]

/-- A session keeps its rows while receipts are only added, each to a book that takes it up. -/
theorem Reflects.carry {later : Desk ι} {session : Int × Int} {book next : Book ι}
    (reflects : Reflects arrivals desk session book)
    (entries : next.entries = book.entries) (kept : next.state = book.state)
    (packets : later.db.sessionPackets session = desk.db.sessionPackets session)
    (states : later.db.states.get? session = desk.db.states.get? session)
    (handed : ∀ arrival receiptId, desk.receiptOf arrival = some receiptId →
      later.receiptOf arrival = some receiptId ∧
        later.db.receipts.get? receiptId = desk.db.receipts.get? receiptId)
    (unrecorded : ∀ arrival, (arrivals arrival).session = session → next.standing arrival = none →
      later.receiptOf arrival = none)
    (recorded : ∀ arrival standing, next.standing arrival = some standing →
      book.standing arrival = some standing ∨ standing = .pending ∧ ∃ receiptId,
        later.receiptOf arrival = some receiptId ∧ later.db.receipts.get? receiptId =
          some ((arrivals arrival).delivery.receipt receiptId none)) :
    Reflects arrivals later session next where
  packets := by
    rw [packets, reflects.packets, entries]
    apply List.map_congr_left
    intro entry member
    obtain ⟨-, receiptId, known⟩ := reflects.placed entry member
    exact (BookEntry.row_congr ((handed _ _ known).1.trans known.symm)).symm
  placed entry member := by
    obtain ⟨placed, receiptId, known⟩ := reflects.placed entry (entries ▸ member)
    exact ⟨placed, receiptId, (handed _ _ known).1⟩
  state := states.trans (reflects.state.trans kept.symm)
  unrecorded := unrecorded
  recorded arrival placed standing stands := by
    rcases recorded arrival standing stands with old | ⟨rfl, receiptId, known, found⟩
    · obtain ⟨receiptId, known, found, origins⟩ := reflects.recorded arrival placed standing old
      obtain ⟨given, row⟩ := handed _ _ known
      refine ⟨receiptId, given, ?_, ?_⟩
      · rw [row, found]
        -- The receipt of the origin is handed out already, so the row reads the same.
        congr 1
        symm
        apply Standing.row_congr
        intro origin named
        obtain ⟨originId, known⟩ := origins origin named
        exact (handed _ _ known).1.trans known.symm
      · intro origin named
        obtain ⟨originId, known⟩ := origins origin named
        exact ⟨originId, (handed _ _ known).1⟩
    · exact ⟨receiptId, known, found, nofun⟩

/-- A recorded delivery with an unowned identifier and a new receipt brings a pending receipt. -/
theorem RecordOutcome.brings {db : Database} {delivery : Delivery} {receiptId : UUID}
    {outcome : Except StorageError DeliveryRecordResult × Database} (ledger : Ledger db)
    (happened : RecordOutcome db delivery receiptId outcome)
    (bounded : delivery.rawBody.length ≤ maxEvidenceBodyBytes)
    (unused : db.receipts.get? receiptId = none)
    (unowned : delivery.canonicalRequestId.bind db.identities.get? = none) :
    ∃ after, outcome = (.ok (deliveryResult (delivery.receipt receiptId none) false false), after) ∧
      after.receipts = db.receipts.insert (delivery.receipt receiptId none) ∧
      after.packets = db.packets ∧ after.states = db.states ∧ after.jobs = db.jobs ∧
      after.identities = delivery.canonicalRequestId.elim db.identities fun requestId =>
        db.identities.insert ⟨requestId, receiptId, sha256Hex delivery.rawBody⟩ := by
  -- An owner of the identifier would contradict that nobody owns it.
  have nobody : ∀ owner ∈ db.identities, delivery.canonicalRequestId ≠ some owner.requestId := by
    intro owner owned named
    rw [named, Option.bind_some] at unowned
    exact Table.get?_eq_none.mp unowned owner owned rfl
  cases happened with
  | anonymous unnamed admitted =>
    rw [unnamed]
    exact ⟨_, rfl, rfl, rfl, rfl, rfl, rfl⟩
  | first named admitted admits =>
    rw [named]
    exact ⟨_, rfl, rfl, rfl, rfl, rfl, rfl⟩
  | replay named owned => exact absurd named (nobody _ owned)
  | reused named owned => exact absurd named (nobody _ owned)
  | dangling named owned => exact absurd named (nobody _ owned)
  | integrity unmatched refused =>
    refine absurd ⟨unused, bounded, ?_⟩ refused
    intro owner owned same
    obtain ⟨receipt, stored, named, -⟩ := ledger.identities owner owned
    exact Table.get?_eq_none.mp unused receipt stored (named.trans same)

/-- Values under one source key have one packet identifier. -/
theorem packetId_of_sourceKey {first second : DecodedTelemetryValues}
    (same : first.sourceKey = second.sourceKey) : first.packetId = second.packetId := by
  -- The identifier prints the numbers of the key.
  simp only [DecodedTelemetryValues.sourceKey, Prod.mk.injEq] at same
  rw [DecodedTelemetryValues.packetId, DecodedTelemetryValues.packetId, same.1, same.2.1, same.2.2]

/-- Every standing keeps the bytes of the delivery. -/
theorem Standing.row_rawBody (arrival : Arrival) (receiptOf : ι → Option UUID) (receiptId : UUID)
    (standing : Standing ι) :
    (standing.row arrival receiptOf receiptId).rawBody = arrival.delivery.rawBody := by
  -- By the standing: each row shows the bytes delivered.
  cases standing <;> rfl

/-- Every standing keeps the identifier of the receipt. -/
theorem Standing.row_receiptId (arrival : Arrival) (receiptOf : ι → Option UUID) (receiptId : UUID)
    (standing : Standing ι) :
    (standing.row arrival receiptOf receiptId).receiptId = receiptId := by
  -- By the standing: each row has the receipt's identifier.
  cases standing <;> rfl

/-- A receipt names the receipt of its origin. -/
theorem Standing.row_duplicateOf (arrival : Arrival) (receiptOf : ι → Option UUID)
    (receiptId : UUID) (standing : Standing ι) :
    (standing.row arrival receiptOf receiptId).duplicateOfReceiptId =
      standing.origin.bind receiptOf := by
  -- By the standing: only a row settled against another names an origin.
  cases standing <;> rfl

/-- A settled receipt touches no other row. -/
theorem Touches.settle {db : Database} {receipt row : TelemetryDeliveryReceipt} {receiptId : UUID}
    (named : receipt.receiptId = receiptId) (same : row.receiptId = receipt.receiptId)
    (session : Int × Int) (event : TelemetryAuditEvent) :
    Touches receiptId session db (db.settle row event) where
  receipts other different := by
    -- The row is written under the key of its receipt.
    rw [Database.settle, Table.get?_set, if_neg]
    rw [same, named]
    exact fun equal => different equal.symm
  packets _ _ := rfl
  states _ _ := rfl

/-- An acceptance touches its receipt and the rows of its session. -/
theorem AcceptOutcome.touches {db : Database} {receiptId jobId : UUID}
    {values : DecodedTelemetryValues} {options : AcceptanceOptions}
    {outcome : Except StorageError PacketAcceptanceResult × Database}
    (happened : AcceptOutcome db receiptId values jobId options outcome) :
    Touches receiptId (values.payloadId, values.bootId) db outcome.2 := by
  have same : Touches receiptId (values.payloadId, values.bootId) db db :=
    ⟨fun _ _ => rfl, fun _ _ => rfl, fun _ _ => rfl⟩
  cases happened with
  | missing absent => exact same
  | replayed found status => exact same
  | refused found status message => exact same
  | settled found status settles =>
    have named := (Table.get?_eq_some.mp found).2
    -- Only an accepted packet reaches beyond its receipt, and only into its own session.
    cases settles with
    | duplicated => exact .settle named (by rfl) _ _
    | conflicted => exact .settle named (by rfl) _ _
    | stateConflicted => exact .settle named (by rfl) _ _
    | integrity => exact same
    | accepted unused tracked position packetAdmitted stateAdmitted jobAdmitted =>
      constructor
      · intro other different
        have elsewhere : ¬(acceptedReceipt _ values).receiptId = other :=
          fun same => different (same.symm.trans named)
        exact (Table.get?_set other).trans (if_neg elsewhere)
      · intro other different
        exact sessionPackets_grown_of_ne packetAdmitted.1 rfl fun same => different same.symm
      · intro other different
        exact (get?_countPacket tracked _ _ other).trans (if_neg fun same => different same.symm)

/-- An acceptance brings no receipt and no owner, and it brings a job only with a packet. -/
theorem AcceptOutcome.brings {db : Database} {receiptId jobId : UUID}
    {values : DecodedTelemetryValues} {options : AcceptanceOptions}
    {outcome : Except StorageError PacketAcceptanceResult × Database}
    (happened : AcceptOutcome db receiptId values jobId options outcome) :
    outcome.2.receipts.Within db.receipts ∧ outcome.2.identities = db.identities ∧
      (outcome.2.packets = db.packets ∧ outcome.2.jobs = db.jobs ∨
        ∃ packet job, packet.session = (values.payloadId, values.bootId) ∧ job.jobId = jobId ∧
          db.packets.get? packet.packetId = none ∧
          outcome.2.packets = db.packets.insert packet ∧
          db.jobs.get? job.jobId = none ∧ outcome.2.jobs = db.jobs.insert job) := by
  have same : db.receipts.Within db.receipts := fun _ => id
  cases happened with
  | missing absent => exact ⟨same, rfl, .inl ⟨rfl, rfl⟩⟩
  | replayed found status => exact ⟨same, rfl, .inl ⟨rfl, rfl⟩⟩
  | refused found status message => exact ⟨same, rfl, .inl ⟨rfl, rfl⟩⟩
  | settled found status settles =>
    -- Of the settlements only the accepted packet adds rows.
    cases settles with
    | duplicated => exact ⟨Table.Within.set _, rfl, .inl ⟨rfl, rfl⟩⟩
    | conflicted => exact ⟨Table.Within.set _, rfl, .inl ⟨rfl, rfl⟩⟩
    | stateConflicted => exact ⟨Table.Within.set _, rfl, .inl ⟨rfl, rfl⟩⟩
    | integrity => exact ⟨same, rfl, .inl ⟨rfl, rfl⟩⟩
    | accepted unused tracked position packetAdmitted stateAdmitted jobAdmitted =>
      exact ⟨Table.Within.set _, rfl, .inr ⟨_, _, rfl, rfl, packetAdmitted.1, rfl, jobAdmitted.1,
        rfl⟩⟩

section Own
variable {books : Int × Int → Book ι} {session : Int × Int} {book : Book ι}

/-- A packet of the session under a key is found in the book. -/
theorem Reflects.find_of_packet (reflects : Reflects arrivals desk session book)
    (ledger : Ledger desk.db) {existing : LogicalTelemetryPacket} (stored : existing ∈ desk.db.packets)
    (own : existing.session = session) :
    ∃ entry ∈ book.entries, book.find arrivals existing.values.sourceKey = some entry ∧
      entry.row arrivals desk.receiptOf = existing ∧
      desk.receiptOf entry.source = some existing.sourceReceiptId := by
  have listed : existing ∈ desk.db.sessionPackets session :=
    List.mem_filter.mpr ⟨stored, decide_eq_true own⟩
  rw [reflects.packets] at listed
  obtain ⟨first, among, same⟩ := List.mem_map.mp listed
  have matched : (arrivals first.source).values.sourceKey = existing.values.sourceKey :=
    congrArg (fun packet => packet.values.sourceKey) same
  -- The book has an entry for the packet, so the search finds one.
  cases found : book.find arrivals existing.values.sourceKey with
  | none => exact absurd matched (of_decide_eq_false
      (by simpa using List.find?_eq_none.mp found first among))
  | some entry =>
    -- The key leads to one packet, so the entry that is found is that of the packet.
    have member := List.mem_of_find?_eq_some found
    have key : (arrivals entry.source).values.sourceKey = existing.values.sourceKey :=
      by simpa using List.find?_some found
    have kept : entry.row arrivals desk.receiptOf ∈ desk.db.sessionPackets session := by
      rw [reflects.packets]
      exact List.mem_map_of_mem member
    have equal := ledger.sourceUnique _ (List.mem_filter.mp kept).1 existing stored key
    obtain ⟨-, receiptId, known⟩ := reflects.placed entry member
    refine ⟨entry, member, rfl, equal, known.trans ?_⟩
    rw [← equal, BookEntry.row, known]
    rfl

/-- The packet under the key of a delivery and its bytes are those of the entry in the book. -/
theorem Reflects.entry_of_key (reflects : Reflects arrivals desk session book)
    (ledger : Ledger desk.db) {arrival : ι} (own : (arrivals arrival).session = session)
    {existing : LogicalTelemetryPacket} (stored : existing ∈ desk.db.packets)
    (key : existing.values.sourceKey = (arrivals arrival).values.sourceKey) :
    ∃ entry, book.find arrivals (arrivals arrival).values.sourceKey = some entry ∧
      desk.receiptOf entry.source = some existing.sourceReceiptId ∧
      existing.packetId = (arrivals arrival).values.packetId ∧
      ∃ origin, desk.db.receipts.get? existing.sourceReceiptId = some origin ∧
        origin.rawBody = (arrivals entry.source).delivery.rawBody := by
  -- The key names the session, so the packet is one of the session.
  have ofSession : existing.session = session := by
    rw [← own]
    exact congrArg (fun key : Int × Int × Int => (key.1, key.2.1)) key
  obtain ⟨entry, among, searched, -, source⟩ := reflects.find_of_packet ledger stored ofSession
  refine ⟨entry, key ▸ searched, source, ?_, ?_⟩
  · rw [(ledger.packets existing stored).identifier, packetId_of_sourceKey key]
  · have placed := (reflects.placed entry among).1
    cases standing : book.standing entry.source with
    | none =>
      rw [reflects.unrecorded entry.source placed standing] at source
      cases source
    | some stood =>
      obtain ⟨originId, given, row, -⟩ := reflects.recorded entry.source placed stood standing
      rw [source, Option.some.injEq] at given
      subst given
      exact ⟨_, row, Standing.row_rawBody ..⟩

/-- A key without a packet has no entry. -/
theorem Reflects.find_none (reflects : Reflects arrivals desk session book)
    {source : Int × Int × Int} (unused : desk.db.packetBySource source = none) :
    book.find arrivals source = none := by
  -- An entry has its packet in the tables, under the same key.
  apply List.find?_eq_none.mpr
  intro entry member
  have kept : entry.row arrivals desk.receiptOf ∈ desk.db.sessionPackets session := by
    rw [reflects.packets]
    exact List.mem_map_of_mem member
  have other : (arrivals entry.source).values.sourceKey ≠ source :=
    packetBySource_eq_none.mp unused _ (List.mem_filter.mp kept).1
  simpa using other

/-- A session is left alone by an acceptance in another one. -/
theorem Reflects.elsewhere (reflects : Reflects arrivals desk session book)
    (apart : ∀ arrival other receiptId, desk.receiptOf arrival = some receiptId →
      desk.receiptOf other = some receiptId → arrival = other)
    {arrival : ι} {receiptId : UUID} (known : desk.receiptOf arrival = some receiptId)
    (other : (arrivals arrival).session ≠ session) {after : Database}
    (touches : Touches receiptId (arrivals arrival).session desk.db after) :
    Reflects arrivals { desk with db := after } session book where
  packets := (touches.packets session other.symm).trans reflects.packets
  placed := reflects.placed
  state := (touches.states session other.symm).trans reflects.state
  unrecorded := reflects.unrecorded
  recorded third placed standing stands := by
    obtain ⟨thirdId, given, found, origins⟩ := reflects.recorded third placed standing stands
    -- A shared receipt would put both deliveries into one session.
    have different : thirdId ≠ receiptId := by
      intro equal
      subst equal
      rw [apart third arrival thirdId given known] at placed
      exact other placed
    exact ⟨thirdId, given, (touches.receipts thirdId different).trans found, origins⟩

/-- A delivery that has a receipt is found in the book of its session. -/
theorem Desk.Kept.present (kept : desk.Kept arrivals books) {arrival : ι} {receiptId : UUID}
    (known : desk.receiptOf arrival = some receiptId) :
    ∃ receipt, desk.db.receipts.get? receiptId = some receipt := by
  -- The book knows every delivery of the session that has a receipt.
  have reflects := kept.reflects arrival
  cases stands : (books (arrivals arrival).session).standing arrival with
  | none =>
    rw [reflects.unrecorded arrival rfl stands] at known
    cases known
  | some standing =>
    obtain ⟨_, given, found, -⟩ := reflects.recorded arrival rfl standing stands
    rw [known, Option.some.injEq] at given
    exact ⟨_, given ▸ found⟩

end Own

section Follow
variable {session : Int × Int}

/-- Every identifier of a database is in use in another. -/
structure Database.Within (first second : Database) : Prop where
  receipts : first.receipts.Within second.receipts
  jobs : first.jobs.Within second.jobs
  identities : first.identities.Within second.identities

/-- Rows that are never removed keep their identifiers in use. -/
theorem Database.Within.extends {first second later : Database} (within : first.Within second)
    (grown : Extends second later) : first.Within later where
  receipts := within.receipts.trans (.of_rows fun receipt member => by
    -- Identifiers are looked up by key, and every row has a later row with its key.
    obtain ⟨row, among, develops⟩ := grown.receipts receipt member
    exact ⟨row, among, develops.receiptId⟩)
  jobs := within.jobs.trans (.of_rows fun job member => by
    obtain ⟨row, among, develops⟩ := grown.jobs job member
    exact ⟨row, among, develops.jobId⟩)
  identities := within.identities.trans (.of_rows fun owner member =>
    ⟨owner, grown.identities owner member, rfl⟩)

/-- A desk that has had only the turns of a session, beside one that has had all of them. -/
structure Desk.Follows (arrivals : ι → Arrival) (session : Int × Int) (desk alone : Desk ι) :
    Prop where
  handed : ∀ arrival, (arrivals arrival).session = session →
    alone.receiptOf arrival = desk.receiptOf arrival
  within : alone.db.Within desk.db

namespace Desk.Follows
variable {alone : Desk ι}

/-- An acceptance of the session is followed by the same one, under the same identifier. -/
theorem accept (follows : Desk.Follows arrivals session desk alone) {receiptId jobId : UUID}
    {values : DecodedTelemetryValues} {options : AcceptanceOptions}
    {outcome copy : Except StorageError PacketAcceptanceResult × Database}
    (own : (values.payloadId, values.bootId) = session) (grown : Extends desk.db outcome.2)
    (happened : AcceptOutcome desk.db receiptId values jobId options outcome)
    (copied : AcceptOutcome alone.db receiptId values jobId options copy)
    (before : (alone.db.sessionPackets session).length = (desk.db.sessionPackets session).length)
    (after : (copy.2.sessionPackets session).length = (outcome.2.sessionPackets session).length) :
    copy.2.Within outcome.2 := by
  obtain ⟨receipts, identities, brought⟩ := copied.brings
  have later := follows.within.extends grown
  refine ⟨receipts.trans later.receipts, ?_, ?_⟩
  · rcases brought with ⟨-, jobs⟩ | ⟨packet, job, placed, named, new, packets, fresh, jobs⟩
    · rw [jobs]
      exact later.jobs
    · -- The other desk has one packet more too, so it has the job.
      have longer : (copy.2.sessionPackets session).length =
          (alone.db.sessionPackets session).length + 1 := by
        rw [← own, ← placed, sessionPackets_grown new packets, List.length_append]
        rfl
      rcases happened.brings.2.2 with ⟨kept, -⟩ | ⟨-, other, -, called, -, -, unused, also⟩
      · have unchanged : outcome.2.sessionPackets session = desk.db.sessionPackets session := by
          rw [Database.sessionPackets, kept, Database.sessionPackets]
        rw [unchanged] at after
        omega
      · rw [jobs, also]
        exact follows.within.jobs.insert (named.trans called.symm) fresh unused
  · rw [identities]
    exact later.identities

/-- What the one desk allows of the session, the other allows too. -/
theorem allows (follows : Desk.Follows arrivals session desk alone) {next : Turn ι}
    (own : (arrivals next.arrival).session = session) (allowed : desk.Allows arrivals next) :
    alone.Allows arrivals next := by
  -- The identifier of a request is free on the smaller desk when it is free on the larger one.
  cases next with
  | record arrival =>
    obtain ⟨absent, unowned⟩ := allowed
    refine ⟨(follows.handed arrival own).trans absent, ?_⟩
    cases named : (arrivals arrival).delivery.canonicalRequestId with
    | none => rfl
    | some requestId =>
      rw [named] at unowned
      exact follows.within.identities requestId unowned
  | accept arrival =>
    rw [Desk.Allows, follows.handed arrival own]
    exact allowed

/-- An identifier that is new to the one desk is new to the other, however often it is generated. -/
theorem unused (follows : Desk.Follows arrivals session desk alone) {env : Surroundings}
    (unused : Unused env desk.db) (attempt : Nat) :
    Unused { env with uuid4 := fun _ => env.uuid4 attempt } alone.db := fun _ =>
  ⟨follows.within.receipts _ (unused attempt).1, follows.within.jobs _ (unused attempt).2⟩

end Desk.Follows

end Follow

section Turns
variable [DecidableEq ι] {books : Int × Int → Book ι} {session : Int × Int} {book : Book ι}

/-- A delivery of the session gets a new standing. -/
theorem Reflects.change (reflects : Reflects arrivals desk session book)
    (apart : ∀ arrival other receiptId, desk.receiptOf arrival = some receiptId →
      desk.receiptOf other = some receiptId → arrival = other)
    {arrival : ι} {receiptId : UUID} (known : desk.receiptOf arrival = some receiptId)
    {standing : Standing ι} (origins : ∀ origin, standing.origin = some origin →
      ∃ originId, desk.receiptOf origin = some originId)
    {after : Database} {next : Book ι}
    (stands : next.standing = Function.update book.standing arrival (some standing))
    (packets : after.sessionPackets session =
      next.entries.map (BookEntry.row arrivals desk.receiptOf))
    (placed : ∀ entry ∈ next.entries, (arrivals entry.source).session = session ∧
      ∃ receiptId, desk.receiptOf entry.source = some receiptId)
    (state : after.states.get? session = next.state)
    (found : after.receipts.get? receiptId =
      some (standing.row (arrivals arrival) desk.receiptOf receiptId))
    (others : ∀ other, other ≠ receiptId →
      after.receipts.get? other = desk.db.receipts.get? other) :
    Reflects arrivals { desk with db := after } session next where
  packets := packets
  placed := placed
  state := state
  unrecorded other placed absent := by
    rw [stands] at absent
    -- The other deliveries of the session keep their standings.
    by_cases same : other = arrival
    · subst same
      simp at absent
    · rw [Function.update_of_ne same] at absent
      exact reflects.unrecorded other placed absent
  recorded other placed stood stoodAt := by
    rw [stands] at stoodAt
    rcases update_eq_some.mp stoodAt with ⟨rfl, settled⟩ | ⟨same, before⟩
    · cases settled
      exact ⟨receiptId, known, found, origins⟩
    · obtain ⟨otherId, given, kept, named⟩ := reflects.recorded other placed stood before
      have different : otherId ≠ receiptId := by
        intro equal
        subst equal
        exact same (apart other arrival otherId given known)
      exact ⟨otherId, given, (others otherId different).trans kept, named⟩

/-- A settled receipt of the session. -/
theorem Reflects.settle (reflects : Reflects arrivals desk session book)
    (apart : ∀ arrival other receiptId, desk.receiptOf arrival = some receiptId →
      desk.receiptOf other = some receiptId → arrival = other)
    {arrival : ι} {receiptId : UUID} (known : desk.receiptOf arrival = some receiptId)
    {old : TelemetryDeliveryReceipt} (found : desk.db.receipts.get? receiptId = some old)
    {standing : Standing ι} (origins : ∀ origin, standing.origin = some origin →
      ∃ originId, desk.receiptOf origin = some originId) {row : TelemetryDeliveryReceipt}
    (written : row = standing.row (arrivals arrival) desk.receiptOf receiptId)
    (event : TelemetryAuditEvent) :
    Reflects arrivals { desk with db := desk.db.settle row event } session
      (book.settle arrival standing) := by
  -- The row of the receipt is all that changes, and the book has the standing for it.
  have named : row.receiptId = receiptId := by
    rw [written, Standing.row_receiptId]
  apply reflects.change apart known origins
  · rfl
  · exact reflects.packets
  · exact reflects.placed
  · exact reflects.state
  · rw [← written]
    exact (Table.get?_set_of_used found named receiptId).trans (if_pos rfl)
  · intro other different
    exact (Table.get?_set_of_used found named other).trans (if_neg different.symm)

/-- A packet that is stored with its receipt and its count is entered in the book. -/
theorem Reflects.enter (reflects : Reflects arrivals desk session book)
    (apart : ∀ arrival other receiptId, desk.receiptOf arrival = some receiptId →
      desk.receiptOf other = some receiptId → arrival = other)
    {arrival : ι} (own : (arrivals arrival).session = session) {receiptId jobId : UUID}
    (known : desk.receiptOf arrival = some receiptId) {options : AcceptanceOptions}
    (found : desk.db.receipts.get? receiptId =
      some ((arrivals arrival).delivery.receipt receiptId none))
    {disposition : PacketDisposition} {missingBefore : Int}
    (tracked : desk.db.states.get? (arrivals arrival).session = book.state)
    (packetAdmitted : desk.db.AdmitsPacket (newPacket
      ((arrivals arrival).delivery.receipt receiptId none) (arrivals arrival).values disposition
      missingBefore)) :
    Reflects arrivals
      ⟨desk.db.addPacket ((arrivals arrival).delivery.receipt receiptId none)
        (arrivals arrival).values book.state disposition missingBefore jobId options,
        desk.receiptOf⟩ session (book.enter arrivals arrival disposition missingBefore) := by
  have entered : (newPacket ((arrivals arrival).delivery.receipt receiptId none)
      (arrivals arrival).values disposition missingBefore).session = session := own
  have row : BookEntry.row arrivals desk.receiptOf ⟨arrival, disposition, missingBefore⟩ =
      newPacket ((arrivals arrival).delivery.receipt receiptId none)
        (arrivals arrival).values disposition missingBefore := by
    rw [BookEntry.row, known]
    rfl
  have origins : ∀ origin, (Standing.accepted : Standing ι).origin = some origin →
      ∃ originId, desk.receiptOf origin = some originId := fun _ named => by cases named
  apply reflects.change apart known origins
  · rfl
  -- The new packet stands behind the others of its session.
  · have grown := @sessionPackets_grown desk.db (desk.db.addPacket
      ((arrivals arrival).delivery.receipt receiptId none) (arrivals arrival).values book.state
      disposition missingBefore jobId options) _ packetAdmitted.1 rfl
    rw [entered, reflects.packets, ← row] at grown
    rw [Book.enter, List.map_append]
    exact grown
  · intro entry among
    rcases List.mem_append.mp among with old | new
    · exact reflects.placed entry old
    · cases List.mem_singleton.mp new
      exact ⟨own, receiptId, known⟩
  · exact (get?_countPacket tracked disposition missingBefore session).trans (if_pos own)
  · exact (Table.get?_set_of_used found rfl receiptId).trans (if_pos rfl)
  · intro other different
    exact (Table.get?_set_of_used found rfl other).trans (if_neg different.symm)

/-- A pending delivery is settled as its book says. -/
theorem Reflects.settlePending (reflects : Reflects arrivals desk session book)
    (reachable : Reachable desk.db)
    (apart : ∀ arrival other receiptId, desk.receiptOf arrival = some receiptId →
      desk.receiptOf other = some receiptId → arrival = other)
    {arrival : ι} (own : (arrivals arrival).session = session) {receiptId jobId : UUID}
    (known : desk.receiptOf arrival = some receiptId)
    (stands : book.standing arrival = some .pending) {options : AcceptanceOptions}
    (attempts : 0 < options.maxAttempts) (fresh : desk.db.jobs.get? jobId = none)
    (found : desk.db.receipts.get? receiptId =
      some ((arrivals arrival).delivery.receipt receiptId none))
    {outcome : Except StorageError PacketAcceptanceResult × Database}
    (settles : SettleOutcome desk.db ((arrivals arrival).delivery.receipt receiptId none)
      (arrivals arrival).values jobId options outcome) :
    Reflects arrivals { desk with db := outcome.2 } session (book.accept arrivals arrival) := by
  have ledger := reachable.ledger
  have accounting := reachable.accounting
  have member := (Table.get?_eq_some.mp found).1
  -- The book decides as the call does: by the entry under the key, by its bytes, and by the mark.
  unfold Book.accept
  rw [stands]
  dsimp only
  cases settles with
  | @duplicated existing origin stored key source digest same =>
    obtain ⟨entry, searched, given, identifier, bytes, lookup, body⟩ :=
      reflects.entry_of_key ledger own stored key
    rw [source, Option.some.injEq] at lookup
    subst lookup
    have equal : (arrivals entry.source).delivery.rawBody = (arrivals arrival).delivery.rawBody :=
      body.symm.trans same
    rw [searched]
    dsimp only
    rw [if_pos equal]
    refine reflects.settle apart known found ?_ ?_ _
    · intro first named
      rw [← Option.some.inj named]
      exact ⟨_, given⟩
    · rw [Standing.row, given, ← identifier]
      rfl
  | @conflicted existing stored key different =>
    obtain ⟨entry, searched, given, identifier, origin, lookup, body⟩ :=
      reflects.entry_of_key ledger own stored key
    have unequal : (arrivals entry.source).delivery.rawBody ≠ (arrivals arrival).delivery.rawBody := by
      intro same
      obtain ⟨source, -, sourced, -, -, digest⟩ := ledger.source_of_packet member rfl stored
      rw [lookup, Option.some.injEq] at sourced
      subst sourced
      refine different origin lookup ?_ (body.trans same)
      rw [digest, body, same]
      rfl
    rw [searched]
    dsimp only
    rw [if_neg unequal]
    refine reflects.settle apart known found ?_ ?_ _
    · intro first named
      rw [← Option.some.inj named]
      exact ⟨_, given⟩
    · rw [Standing.row, given, ← identifier]
      rfl
  -- A mark has its packet, so a free key does not stand on it.
  | stateConflicted unused tracked onMark =>
    obtain ⟨packet, stored, same⟩ :=
      accounting.packet_on_mark (arrivals arrival).range tracked onMark
    exact absurd same (packetBySource_eq_none.mp unused packet stored)
  | integrity unused tracked position refused =>
    obtain ⟨packet, state, job⟩ := ledger.admits_new accounting member rfl
      (arrivals arrival).positive (arrivals arrival).range unused fresh attempts _ _
    exact absurd ⟨packet, fun none => state (tracked.trans none), job⟩ refused
  | @accepted sequenceState disposition missingBefore unused tracked position packetAdmitted
      stateAdmitted jobAdmitted =>
    obtain rfl : book.state = sequenceState := by
      rw [← reflects.state, ← own]
      exact tracked
    rw [reflects.find_none unused]
    dsimp only
    rw [position]
    exact reflects.enter apart own known found tracked packetAdmitted

/-- An acceptance is entered in the book of its session. -/
theorem Reflects.accept (reflects : Reflects arrivals desk session book)
    (reachable : Reachable desk.db)
    (apart : ∀ arrival other receiptId, desk.receiptOf arrival = some receiptId →
      desk.receiptOf other = some receiptId → arrival = other)
    {arrival : ι} (own : (arrivals arrival).session = session) {receiptId jobId : UUID}
    (known : desk.receiptOf arrival = some receiptId) {options : AcceptanceOptions}
    (attempts : 0 < options.maxAttempts) (fresh : desk.db.jobs.get? jobId = none)
    {outcome : Except StorageError PacketAcceptanceResult × Database}
    (happened : AcceptOutcome desk.db receiptId (arrivals arrival).values jobId options outcome) :
    Reflects arrivals { desk with db := outcome.2 } session (book.accept arrivals arrival) := by
  -- The book knows the delivery, since it has a receipt.
  cases stands : book.standing arrival with
  | none =>
    rw [reflects.unrecorded arrival own stands] at known
    cases known
  | some standing =>
    obtain ⟨_, given, stored, -⟩ := reflects.recorded arrival own standing stands
    rw [known, Option.some.injEq] at given
    subst given
    -- Only a pending receipt is settled; on any other the call changes nothing.
    cases happened with
    | missing absent =>
      rw [stored] at absent
      cases absent
    | replayed found status =>
      rw [stored, Option.some.injEq] at found
      subst found
      cases standing with
      | accepted | duplicate =>
        rw [Book.accept, stands]
        exact reflects
      | pending | conflict => simp [Standing.row, Delivery.receipt] at status
    | refused found status message =>
      rw [stored, Option.some.injEq] at found
      subst found
      cases standing with
      | conflict =>
        rw [Book.accept, stands]
        exact reflects
      | pending | accepted | duplicate =>
        simp [Standing.row, Delivery.receipt, acceptedReceipt] at status
    | settled found status settles =>
      rw [stored, Option.some.injEq] at found
      subst found
      cases standing with
      | pending =>
        exact reflects.settlePending reachable apart own known stands attempts fresh stored settles
      | accepted | duplicate | conflict =>
        simp [Standing.row, Delivery.receipt, acceptedReceipt] at status

/-- The books after one more turn. -/
def Book.turned (arrivals : ι → Arrival) (books : Int × Int → Book ι) (next : Turn ι)
    (session : Int × Int) : Book ι :=
  if (arrivals next.arrival).session = session then (books session).turn arrivals next
  else books session

/-- An acceptance keeps a desk. -/
theorem Desk.Kept.accept (kept : desk.Kept arrivals books) {arrival : ι} {receiptId : UUID}
    (known : desk.receiptOf arrival = some receiptId) {env : Surroundings}
    (unused : Unused env desk.db) :
    (desk.accept arrivals env arrival).Kept arrivals
      (Book.turned arrivals books (.accept arrival)) := by
  obtain ⟨reachable, apart, reflects⟩ := kept
  rw [Desk.accept, known]
  dsimp only
  have later := reachable.call env (.acceptPacketAndCreateJob receiptId (arrivals arrival).values
    (arrivals arrival).maxAttempts (arrivals arrival).actorIdentity)
  obtain ⟨attempt, happened⟩ := acceptPacketAndCreateJob_outcome receiptId
    { maxAttempts := (arrivals arrival).maxAttempts
      actorIdentity := (arrivals arrival).actorIdentity, now := env.now } env.uuid4 desk.db
    (arrivals arrival).range (arrivals arrival).positive.2 (arrivals arrival).attempts
  change AcceptOutcome desk.db receiptId (arrivals arrival).values (env.uuid4 attempt) _
    ((RepoCall.acceptPacketAndCreateJob receiptId (arrivals arrival).values
      (arrivals arrival).maxAttempts (arrivals arrival).actorIdentity).exec env desk.db) at happened
  generalize (RepoCall.acceptPacketAndCreateJob receiptId (arrivals arrival).values
    (arrivals arrival).maxAttempts (arrivals arrival).actorIdentity).exec env desk.db = outcome
    at happened later
  have touches := happened.touches
  refine ⟨later, apart, ?_⟩
  intro other
  -- The session of the delivery turns a page of its book.
  by_cases same : (arrivals arrival).session = (arrivals other).session
  · have turned : Book.turned arrivals books (.accept arrival) (arrivals other).session =
        (books (arrivals other).session).accept arrivals arrival := if_pos same
    rw [turned]
    exact (reflects other).accept reachable apart same known (arrivals arrival).attempts
      (unused attempt).2 happened
  · -- The rows of another session are none of those that are touched.
    have turned : Book.turned arrivals books (.accept arrival) (arrivals other).session =
        books (arrivals other).session := if_neg same
    rw [turned]
    exact (reflects other).elsewhere apart known same touches

/-- A later desk where one more delivery has been recorded. -/
structure Desk.Hands (arrivals : ι → Arrival) (desk later : Desk ι) (arrival : ι)
    (receiptId : UUID) : Prop where
  absent : desk.receiptOf arrival = none
  unowned : (arrivals arrival).delivery.canonicalRequestId.bind desk.db.identities.get? = none
  fresh : desk.db.receipts.get? receiptId = none
  handed : later.receiptOf = Function.update desk.receiptOf arrival (some receiptId)
  receipts : later.db.receipts =
    desk.db.receipts.insert ((arrivals arrival).delivery.receipt receiptId none)
  packets : later.db.packets = desk.db.packets
  states : later.db.states = desk.db.states
  jobs : later.db.jobs = desk.db.jobs
  identities : later.db.identities =
    (arrivals arrival).delivery.canonicalRequestId.elim desk.db.identities fun requestId =>
      desk.db.identities.insert
        ⟨requestId, receiptId, sha256Hex (arrivals arrival).delivery.rawBody⟩

namespace Desk.Hands
variable {later : Desk ι} {arrival : ι} {receiptId : UUID}

/-- The new receipt is stored as it was delivered. -/
theorem stored (hands : desk.Hands arrivals later arrival receiptId) :
    later.db.receipts.get? receiptId =
      some ((arrivals arrival).delivery.receipt receiptId none) := by
  -- The new receipt is the one under its identifier.
  rw [hands.receipts, Table.get?_insert hands.fresh]
  exact if_pos rfl

/-- Receipts that were handed out before stay where they are. -/
theorem before (hands : desk.Hands arrivals later arrival receiptId)
    (kept : desk.Kept arrivals books) {other : ι} {otherId : UUID}
    (given : desk.receiptOf other = some otherId) :
    later.receiptOf other = some otherId ∧
      later.db.receipts.get? otherId = desk.db.receipts.get? otherId := by
  -- The identifier that is handed out is fresh, so it is none of those before.
  constructor
  · rw [hands.handed, Function.update_of_ne, given]
    intro same
    rw [same, hands.absent] at given
    cases given
  · rw [hands.receipts, Table.get?_insert hands.fresh, if_neg]
    intro same
    obtain ⟨receipt, found⟩ := kept.present given
    rw [← same, show ((arrivals arrival).delivery.receipt receiptId none).receiptId = receiptId
      from rfl, hands.fresh] at found
    cases found

/-- The new receipt is none of those that were handed out. -/
theorem new (hands : desk.Hands arrivals later arrival receiptId) (kept : desk.Kept arrivals books)
    {other : ι} (given : desk.receiptOf other = some receiptId) : False := by
  -- An identifier that was given out has a receipt, and this one had none.
  obtain ⟨receipt, found⟩ := kept.present given
  rw [hands.fresh] at found
  cases found

/-- Two deliveries share a receipt only if both are the new one or neither is. -/
theorem apart (hands : desk.Hands arrivals later arrival receiptId) (kept : desk.Kept arrivals books)
    (first second : ι) (id : UUID) (given : later.receiptOf first = some id)
    (also : later.receiptOf second = some id) : first = second := by
  -- A receipt from before has another identifier than the new one.
  rw [hands.handed] at given also
  rcases update_eq_some.mp given with ⟨firstNew, named⟩ | ⟨-, before⟩
  · rcases update_eq_some.mp also with ⟨secondNew, -⟩ | ⟨-, before⟩
    · exact firstNew.trans secondNew.symm
    · exact (hands.new kept (before.trans named.symm)).elim
  · rcases update_eq_some.mp also with ⟨-, named⟩ | ⟨-, alsoBefore⟩
    · exact (hands.new kept (before.trans named.symm)).elim
    · exact kept.apart first second id before alsoBefore

/-- The session of the delivery has a pending receipt more in its book. -/
theorem own (hands : desk.Hands arrivals later arrival receiptId) (kept : desk.Kept arrivals books)
    (reflects : Reflects arrivals desk session book) :
    Reflects arrivals later session (book.settle arrival .pending) := by
  -- Packets and state are those from before; the one standing that is new is pending.
  refine reflects.carry rfl rfl ?_ ?_ (fun _ _ => hands.before kept) ?_ ?_
  · rw [Database.sessionPackets, hands.packets, Database.sessionPackets]
  · rw [hands.states]
  · intro third placed absent
    by_cases same : third = arrival
    · subst same
      simp at absent
    · rw [Book.settle_standing, Function.update_of_ne same] at absent
      rw [hands.handed, Function.update_of_ne same]
      exact reflects.unrecorded third placed absent
  · intro third standing stands
    rw [Book.settle_standing] at stands
    rcases update_eq_some.mp stands with ⟨rfl, settled⟩ | ⟨-, before⟩
    · refine .inr ⟨(Option.some.inj settled).symm, receiptId, ?_, hands.stored⟩
      rw [hands.handed, Function.update_self]
    · exact .inl before

/-- The book of another session stays as it is. -/
theorem elsewhere (hands : desk.Hands arrivals later arrival receiptId)
    (kept : desk.Kept arrivals books) (reflects : Reflects arrivals desk session book)
    (other : (arrivals arrival).session ≠ session) : Reflects arrivals later session book := by
  -- No delivery of this session is the new one.
  refine reflects.carry rfl rfl ?_ ?_ (fun _ _ => hands.before kept) ?_ fun _ _ => .inl
  · rw [Database.sessionPackets, hands.packets, Database.sessionPackets]
  · rw [hands.states]
  · intro third placed absent
    have different : third ≠ arrival := fun mine => other (mine ▸ placed)
    rw [hands.handed, Function.update_of_ne different]
    exact reflects.unrecorded third placed absent

end Desk.Hands

/-- A recording hands out one of the identifiers that are generated for it. -/
theorem Desk.Kept.hands (kept : desk.Kept arrivals books) {arrival : ι}
    (allowed : desk.Allows arrivals (.record arrival)) {env : Surroundings}
    (unused : Unused env desk.db) : ∃ attempt,
      desk.Hands arrivals (desk.record arrivals env arrival) arrival (env.uuid4 attempt) := by
  -- Nobody owns the request identifier, so the call can only bring a new receipt.
  obtain ⟨absent, unowned⟩ := allowed
  obtain ⟨attempt, happened⟩ := recordDelivery_valid (arrivals arrival).delivery none env.uuid4
    desk.db (arrivals arrival).bounded (arrivals arrival).identified
  change RecordOutcome desk.db (arrivals arrival).delivery (env.uuid4 attempt)
    ((RepoCall.recordDelivery (arrivals arrival).delivery none).exec env desk.db) at happened
  rw [Desk.record]
  generalize (RepoCall.recordDelivery (arrivals arrival).delivery none).exec env desk.db = outcome
    at happened
  obtain ⟨after, rfl, receipts, packets, states, jobs, identities⟩ :=
    happened.brings kept.reachable.ledger (arrivals arrival).bounded (unused attempt).1 unowned
  exact ⟨attempt, absent, unowned, (unused attempt).1, rfl, receipts, packets, states, jobs,
    identities⟩

/-- The acceptance of a delivery that has a receipt is one call. -/
theorem Desk.turn_accept (desk : Desk ι) (env : Surroundings) {arrival : ι} {receiptId : UUID}
    (known : desk.receiptOf arrival = some receiptId) :
    desk.turn arrivals env (.accept arrival) = { desk with
      db := ((RepoCall.acceptPacketAndCreateJob receiptId (arrivals arrival).values
        (arrivals arrival).maxAttempts (arrivals arrival).actorIdentity).exec env desk.db).2 } := by
  -- The arrival was recorded, so its receipt is known.
  rw [Desk.turn, Desk.accept, known]

/-- A turn makes at most one call of the repository. -/
theorem Desk.turn_db (env : Surroundings) (next : Turn ι) :
    (desk.turn arrivals env next).db = desk.db ∨
      ∃ call : RepoCall, (desk.turn arrivals env next).db = (call.exec env desk.db).2 := by
  cases next with
  | record arrival =>
    -- The call is made in any case, and its tables are kept whatever it answers.
    refine .inr ⟨.recordDelivery (arrivals arrival).delivery none, ?_⟩
    rw [Desk.turn, Desk.record]
    generalize (RepoCall.recordDelivery (arrivals arrival).delivery none).exec env desk.db = outcome
    obtain ⟨answer, db⟩ := outcome
    cases answer <;> rfl
  | accept arrival =>
    rw [Desk.turn, Desk.accept]
    split
    next => exact .inl rfl
    next receiptId known => exact .inr ⟨_, rfl⟩

/-- A recording keeps a desk. -/
theorem Desk.Kept.record (kept : desk.Kept arrivals books) {arrival : ι}
    (allowed : desk.Allows arrivals (.record arrival)) {env : Surroundings}
    (unused : Unused env desk.db) :
    (desk.record arrivals env arrival).Kept arrivals
      (Book.turned arrivals books (.record arrival)) := by
  obtain ⟨attempt, hands⟩ := kept.hands allowed unused
  have reachable : Reachable (desk.record arrivals env arrival).db := by
    rcases desk.turn_db env (.record arrival) with same | ⟨call, made⟩
    · exact (congrArg Reachable same).mpr kept.reachable
    · exact (congrArg Reachable made).mpr (kept.reachable.call env call)
  refine ⟨reachable, hands.apart kept, fun other => ?_⟩
  -- Only the session of the delivery turns a page of its book.
  by_cases same : (arrivals arrival).session = (arrivals other).session
  · have turned : Book.turned arrivals books (.record arrival) (arrivals other).session =
        (books (arrivals other).session).settle arrival .pending := if_pos same
    rw [turned]
    exact hands.own kept (kept.reflects other)
  · have turned : Book.turned arrivals books (.record arrival) (arrivals other).session =
        books (arrivals other).session := if_neg same
    rw [turned]
    exact hands.elsewhere kept (kept.reflects other) same

/-- The book of a session after one more turn. -/
theorem Book.after_append (turns : List (Turn ι)) (next : Turn ι) :
    Book.after arrivals session (turns ++ [next]) =
      Book.turned arrivals (fun session => Book.after arrivals session turns) next session := by
  -- The last turn is kept by the filter exactly if it is of the session.
  unfold Book.after Book.own Book.turned
  rw [List.filter_append, List.foldl_append]
  by_cases same : (arrivals next.arrival).session = session
  · rw [if_pos same, List.filter_cons_of_pos (by simpa using same)]
    rfl
  · rw [if_neg same, List.filter_cons_of_neg (by simpa using same)]
    rfl

/-- The sessions of a reception are new. -/
structure Opens (arrivals : ι → Arrival) (start : Database) : Prop where
  reachable : Reachable start
  empty : ∀ arrival, ∀ packet ∈ start.packets, packet.session ≠ (arrivals arrival).session

/-- Every run keeps its desk, with the books of the turns so far. -/
theorem Desk.Run.kept {start : Database} (opens : Opens arrivals start) {turns : List (Turn ι)}
    (run : Desk.Run arrivals start turns desk) :
    desk.Kept arrivals fun session => Book.after arrivals session turns := by
  -- By induction on the run, with the books of the turns so far.
  induction run with
  | start =>
    refine ⟨opens.reachable, nofun, fun arrival => ?_⟩
    have unused : ¬∃ packet ∈ start.packets, packet.session = (arrivals arrival).session := by
      rintro ⟨packet, stored, same⟩
      exact opens.empty arrival packet stored same
    refine ⟨sessionPackets_eq_nil unused, nofun, ?_, fun _ _ _ => rfl, nofun⟩
    apply Table.get?_eq_none.mpr
    intro state stored same
    exact unused ((opens.reachable.accounting.sessions _).mpr ⟨state, stored, same⟩)
  | @turn turns desk before env unused next allowed ih =>
    have books : (fun session => Book.after arrivals session (turns ++ [next])) =
        Book.turned arrivals (fun session => Book.after arrivals session turns) next := by
      funext session
      exact Book.after_append turns next
    rw [books]
    cases next with
    | record arrival => exact ih.record allowed unused
    | accept arrival =>
      obtain ⟨receiptId, known⟩ := Option.isSome_iff_exists.mp allowed
      exact ih.accept known unused

namespace Desk.Follows
variable {alone : Desk ι}

/-- A turn of another session is followed by doing nothing. -/
theorem idle (follows : Desk.Follows arrivals session desk alone) {env : Surroundings}
    {next : Turn ι} (foreign : (arrivals next.arrival).session ≠ session) :
    Desk.Follows arrivals session (desk.turn arrivals env next) alone := by
  have grown : Extends desk.db (desk.turn arrivals env next).db := by
    rcases desk.turn_db env next with same | ⟨call, made⟩
    · exact (congrArg (Extends desk.db) same).mpr (.refl _)
    · exact (congrArg (Extends desk.db) made).mpr (RepoCall.exec_effect _ _ call).extends
  refine ⟨fun arrival own => ?_, follows.within.extends grown⟩
  rw [follows.handed arrival own]
  -- The turn hands out at most a receipt of its own delivery.
  cases next with
  | record other =>
    have different : arrival ≠ other := fun same => foreign (same ▸ own)
    rw [Desk.turn, Desk.record]
    split
    next => exact (Function.update_of_ne different ..).symm
    next => rfl
  | accept other =>
    rw [Desk.turn, Desk.accept]
    split <;> rfl

/-- A recording of the session is followed by the same one, under the same identifier. -/
theorem record (follows : Desk.Follows arrivals session desk alone) {later after : Desk ι}
    {arrival : ι} {receiptId : UUID} (hands : desk.Hands arrivals later arrival receiptId)
    (copies : alone.Hands arrivals after arrival receiptId) :
    Desk.Follows arrivals session later after where
  handed other own := by
    rw [hands.handed, copies.handed]
    by_cases same : other = arrival
    · rw [same, Function.update_self, Function.update_self]
    · rw [Function.update_of_ne same, Function.update_of_ne same]
      exact follows.handed other own
  within := by
    refine ⟨?_, ?_, ?_⟩
    · rw [hands.receipts, copies.receipts]
      exact follows.within.receipts.insert rfl copies.fresh hands.fresh
    · rw [hands.jobs, copies.jobs]
      exact follows.within.jobs
    · rw [hands.identities, copies.identities]
      have unowned := hands.unowned
      have free := copies.unowned
      -- The delivery takes possession of its request identifier, if it has one.
      cases named : (arrivals arrival).delivery.canonicalRequestId with
      | none => exact follows.within.identities
      | some requestId =>
        rw [named] at unowned free
        exact follows.within.identities.insert rfl free unowned

end Desk.Follows

/-- A session has as many packets as its book has entries. -/
theorem Desk.Run.packets_length {start : Database} (opens : Opens arrivals start)
    {turns : List (Turn ι)} (run : Desk.Run arrivals start turns desk) (arrival : ι) :
    (desk.db.sessionPackets (arrivals arrival).session).length =
      (Book.after arrivals (arrivals arrival).session turns).entries.length := by
  -- The packets of the session are the entries of its book.
  rw [((run.kept opens).reflects arrival).packets, List.length_map]

/-- The own turns of a session have the book of all turns. -/
theorem Book.after_own (turns : List (Turn ι)) :
    Book.after arrivals session (Book.own arrivals session turns) =
      Book.after arrivals session turns := by
  -- A book reads the turns of its own session only.
  unfold Book.after Book.own
  rw [List.filter_filter]
  simp only [Bool.and_self]

/-- An acceptance of the session can be repeated at the desk that has only the turns of the session. -/
theorem Desk.Run.accept_alone {start : Database} (opens : Opens arrivals start)
    {turns : List (Turn ι)} (run : Desk.Run arrivals start turns desk) {alone : Desk ι}
    {first arrival : ι} (own : (arrivals arrival).session = (arrivals first).session)
    (rerun : Desk.Run arrivals start (Book.own arrivals (arrivals first).session turns) alone)
    (follows : Desk.Follows arrivals (arrivals first).session desk alone) {env : Surroundings}
    (unused : Unused env desk.db) (allowed : desk.Allows arrivals (.accept arrival)) :
    ∃ copied, Unused copied alone.db ∧ Desk.Follows arrivals (arrivals first).session
      (desk.turn arrivals env (.accept arrival)) (alone.turn arrivals copied (.accept arrival)) := by
  obtain ⟨receiptId, known⟩ := Option.isSome_iff_exists.mp allowed
  have given : alone.receiptOf arrival = some receiptId :=
    (follows.handed arrival own).trans known
  have also : alone.Allows arrivals (.accept arrival) := follows.allows own allowed
  obtain ⟨attempt, happened⟩ := acceptPacketAndCreateJob_outcome receiptId
    { maxAttempts := (arrivals arrival).maxAttempts
      actorIdentity := (arrivals arrival).actorIdentity, now := env.now } env.uuid4 desk.db
    (arrivals arrival).range (arrivals arrival).positive.2 (arrivals arrival).attempts
  -- The job that the one desk may have created has the identifier that the other is given.
  have fresh := follows.unused unused attempt
  obtain ⟨_, copied⟩ := acceptPacketAndCreateJob_outcome receiptId
    { maxAttempts := (arrivals arrival).maxAttempts
      actorIdentity := (arrivals arrival).actorIdentity, now := env.now }
    (fun _ => env.uuid4 attempt) alone.db
    (arrivals arrival).range (arrivals arrival).positive.2 (arrivals arrival).attempts
  have later := run.turn env unused _ allowed
  have laterAlone := rerun.turn _ fresh _ also
  refine ⟨_, fresh, ?_⟩
  -- Both desks have the packets of one book, before the turn and after it.
  have before : (alone.db.sessionPackets (arrivals first).session).length =
      (desk.db.sessionPackets (arrivals first).session).length := by
    rw [rerun.packets_length opens, run.packets_length opens, Book.after_own]
  have turned : ∀ part, Book.after arrivals (arrivals first).session (part ++ [.accept arrival]) =
      (Book.after arrivals (arrivals first).session part).accept arrivals arrival := fun part =>
    (Book.after_append part _).trans (if_pos own)
  have lengths := laterAlone.packets_length opens first
  rw [turned, Book.after_own, ← turned, ← later.packets_length opens first] at lengths
  rw [desk.turn_accept env known, alone.turn_accept _ given] at lengths ⊢
  exact ⟨follows.handed, follows.accept own (RepoCall.exec_effect _ _ _).extends happened copied
    before lengths⟩

/-- The turns of one session are a run by themselves. -/
theorem Desk.Run.alone {start : Database} (opens : Opens arrivals start) {turns : List (Turn ι)}
    (run : Desk.Run arrivals start turns desk) (first : ι) : ∃ alone,
      Desk.Run arrivals start (Book.own arrivals (arrivals first).session turns) alone ∧
        Desk.Follows arrivals (arrivals first).session desk alone := by
  -- By induction on the run: the other desk takes the turns of the session and skips the others.
  induction run with
  | start => exact ⟨{ db := start }, .start, fun _ _ => rfl, fun _ => id, fun _ => id, fun _ => id⟩
  | @turn turns desk before env unused next allowed ih =>
    obtain ⟨alone, rerun, follows⟩ := ih
    unfold Book.own at rerun ⊢
    rw [List.filter_append]
    by_cases own : (arrivals next.arrival).session = (arrivals first).session
    · rw [List.filter_cons_of_pos (by simpa using own)]
      have also := follows.allows own allowed
      cases next with
      | record arrival =>
        obtain ⟨attempt, hands⟩ := (before.kept opens).hands allowed unused
        have fresh := follows.unused unused attempt
        obtain ⟨_, copies⟩ := (rerun.kept opens).hands also fresh
        exact ⟨_, rerun.turn _ fresh _ also, follows.record hands copies⟩
      | accept arrival =>
        obtain ⟨copied, fresh, followed⟩ := before.accept_alone opens own rerun follows unused allowed
        exact ⟨_, rerun.turn copied fresh _ also, followed⟩
    · rw [List.filter_cons_of_neg (by simpa using own)]
      exact ⟨alone, (List.append_nil _).symm ▸ rerun, follows.idle own⟩

end Turns

/-- Two receipts of one delivery, in two runs. -/
def SameDelivery (desk other : Desk ι) (receiptId otherId : UUID) : Prop :=
  ∃ arrival, desk.receiptOf arrival = some receiptId ∧ other.receiptOf arrival = some otherId

/-- Two packets that differ in the identifier of their source at most. -/
def SamePacket (desk other : Desk ι) (packet copy : LogicalTelemetryPacket) : Prop :=
  SameDelivery desk other packet.sourceReceiptId copy.sourceReceiptId ∧
    copy = { packet with sourceReceiptId := copy.sourceReceiptId }

/-- Two receipts that differ in generated identifiers at most. -/
def SameReceipt (desk other : Desk ι) (receipt copy : TelemetryDeliveryReceipt) : Prop :=
  SameDelivery desk other receipt.receiptId copy.receiptId ∧
    Option.Rel (SameDelivery desk other) receipt.duplicateOfReceiptId copy.duplicateOfReceiptId ∧
    copy = { receipt with
      receiptId := copy.receiptId, duplicateOfReceiptId := copy.duplicateOfReceiptId }

/-- A session ended the same way in two runs, up to generated identifiers. -/
structure SameSession (arrivals : ι → Arrival) (session : Int × Int) (desk other : Desk ι) :
    Prop where
  packets : List.Forall₂ (SamePacket desk other) (desk.db.sessionPackets session)
    (other.db.sessionPackets session)
  state : other.db.states.get? session = desk.db.states.get? session
  receipts : ∀ arrival, (arrivals arrival).session = session →
    Option.Rel (SameReceipt desk other) (desk.receipt arrival) (other.receipt arrival)

/-- Two desks with one book of a session have the same rows of the session. -/
theorem Reflects.same {other : Desk ι} {session : Int × Int} {book : Book ι}
    (reflects : Reflects arrivals desk session book)
    (mirrors : Reflects arrivals other session book) : SameSession arrivals session desk other where
  packets := by
    rw [reflects.packets, mirrors.packets, List.forall₂_map_left_iff, List.forall₂_map_right_iff,
      List.forall₂_same]
    intro entry member
    obtain ⟨-, receiptId, known⟩ := reflects.placed entry member
    obtain ⟨-, otherId, given⟩ := mirrors.placed entry member
    rw [BookEntry.row, BookEntry.row, known, given]
    exact ⟨⟨entry.source, known, given⟩, rfl⟩
  state := mirrors.state.trans reflects.state.symm
  receipts arrival placed := by
    unfold Desk.receipt
    -- A delivery has a receipt at both desks or at neither.
    cases stands : book.standing arrival with
    | none =>
      rw [reflects.unrecorded arrival placed stands, mirrors.unrecorded arrival placed stands]
      exact .none
    | some standing =>
      obtain ⟨receiptId, known, found, origins⟩ := reflects.recorded arrival placed standing stands
      obtain ⟨otherId, given, copied, named⟩ := mirrors.recorded arrival placed standing stands
      rw [known, given, Option.bind_some, Option.bind_some, found, copied]
      refine .some ⟨?_, ?_, ?_⟩
      · rw [Standing.row_receiptId, Standing.row_receiptId]
        exact ⟨arrival, known, given⟩
      · rw [Standing.row_duplicateOf, Standing.row_duplicateOf]
        cases repeated : standing.origin with
        | none => exact .none
        | some origin =>
          obtain ⟨originId, first⟩ := origins origin repeated
          obtain ⟨copyId, second⟩ := named origin repeated
          rw [Option.bind_some, Option.bind_some, first, second]
          exact .some ⟨origin, first, second⟩
      · cases standing <;> rfl

section
variable [DecidableEq ι]

/-- Runs with the same turns of a session end it the same way. -/
theorem Desk.Run.same {start first : Database} (opens : Opens arrivals start)
    (restarts : Opens arrivals first) {turns others : List (Turn ι)} {other : Desk ι}
    (run : Desk.Run arrivals start turns desk) (rerun : Desk.Run arrivals first others other)
    (arrival : ι) (same : Book.own arrivals (arrivals arrival).session others =
      Book.own arrivals (arrivals arrival).session turns) :
    SameSession arrivals (arrivals arrival).session desk other := by
  -- The same turns leave the same book, and each desk has the rows of its book.
  have reflects := (run.kept opens).reflects arrival
  have mirrors := (rerun.kept restarts).reflects arrival
  have book : Book.after arrivals (arrivals arrival).session others =
      Book.after arrivals (arrivals arrival).session turns := congrArg (List.foldl _ _) same
  rw [book] at mirrors
  exact reflects.same mirrors

/--
Boot sessions do not interfere.

The turns of a session are a run by themselves, in which it ends as in the whole run, and two
neighbouring turns of different sessions can be swapped without a difference to any session, up to
generated identifiers.
-/
theorem sessions_do_not_interfere {start first : Database} (opens : Opens arrivals start)
    (restarts : Opens arrivals first) {turns : List (Turn ι)}
    (run : Desk.Run arrivals start turns desk) (arrival : ι) {other : Desk ι} :
    (∃ alone, Desk.Run arrivals start (Book.own arrivals (arrivals arrival).session turns) alone) ∧
    (Desk.Run arrivals first (Book.own arrivals (arrivals arrival).session turns) other →
      SameSession arrivals (arrivals arrival).session desk other) ∧
    ∀ before after left right, turns = before ++ left :: right :: after →
      (arrivals left.arrival).session ≠ (arrivals right.arrival).session →
      Desk.Run arrivals first (before ++ right :: left :: after) other →
        SameSession arrivals (arrivals arrival).session desk other := by
  refine ⟨?_, ?_, ?_⟩
  · obtain ⟨alone, rerun, -⟩ := run.alone opens arrival
    exact ⟨alone, rerun⟩
  -- The turns of the session are its own turns of the run that has no others.
  · intro alone
    apply run.same opens restarts alone
    unfold Book.own
    rw [List.filter_filter]
    simp only [Bool.and_self]
  · intro before after left right split different swapped
    subst split
    apply run.same opens restarts swapped
    -- At most one of the two turns is of the session.
    simp only [Book.own, List.filter_append, List.filter_cons]
    congr 1
    by_cases mine : (arrivals left.arrival).session = (arrivals arrival).session
    · have foreign : (arrivals right.arrival).session ≠ (arrivals arrival).session :=
        fun same => different (mine.trans same.symm)
      simp only [mine, foreign, decide_true, decide_false, if_true, Bool.false_eq_true, if_false]
    · simp only [mine, decide_false, Bool.false_eq_true, if_false]

end

/-- The values of one packet of payload 1. -/
def sampleValues (bootId sequenceNumber : Int) : DecodedTelemetryValues where
  protocolVersion := 1
  payloadId := 1
  bootId := bootId
  sequenceNumber := sequenceNumber
  sampleTimestampUs := 0
  temperatureCentiC := 0
  voltageMv := 0
  operatingMode := 0
  faultFlags := 0

/-- A delivery of one packet of payload 1. -/
def sampleArrival (body : UInt8) (bootId sequenceNumber : Int) (positive : 0 < bootId)
    (range : 0 ≤ sequenceNumber ∧ sequenceNumber ≤ maxUint32) : Arrival where
  delivery := anonymousDelivery [body]
  values := sampleValues bootId sequenceNumber
  maxAttempts := 5
  actorIdentity := "ground-api"
  bounded := show 1 ≤ 1024 by decide
  identified := rfl
  positive := ⟨show (0 : Int) < 1 by decide, positive⟩
  range := range
  attempts := show (0 : Int) < 5 by decide

/-- The first packets of two boot sessions. -/
def twoBoots (arrival : Fin 2) : Arrival :=
  if arrival = 0 then sampleArrival 1 7 5 (by decide) (by decide)
  else sampleArrival 2 8 3 (by decide) (by decide)

/-- The sessions of two boots are new to the empty database. -/
theorem twoBoots_open : Opens twoBoots .empty where
  reachable := .empty
  empty _ _ stored := absurd stored (Table.not_mem_empty _)

/-- A desk after turns whose surroundings generate one identifier each. -/
def deskAfter (arrivals : Fin 2 → Arrival) (turns : List (UUID × Turn (Fin 2))) : Desk (Fin 2) :=
  turns.foldl (fun desk next => desk.turn arrivals (surroundingsWith next.1) next.2)
    { db := .empty }

/-- One more turn of such a run. -/
theorem deskAfter_run {arrivals : Fin 2 → Arrival} {turns : List (UUID × Turn (Fin 2))}
    (before : Desk.Run arrivals .empty (turns.map (·.2)) (deskAfter arrivals turns))
    (next : UUID × Turn (Fin 2))
    (possible : ((deskAfter arrivals turns).db.receipts.get? next.1 = none ∧
      (deskAfter arrivals turns).db.jobs.get? next.1 = none) ∧
      (deskAfter arrivals turns).Allows arrivals next.2) :
    Desk.Run arrivals .empty ((turns ++ [next]).map (·.2)) (deskAfter arrivals (turns ++ [next])) := by
  -- The last turn of the fold is the last turn of the run.
  rw [List.map_append, deskAfter, List.foldl_append]
  exact before.turn (surroundingsWith next.1) (fun _ => possible.1) next.2 possible.2

/-- The first boot ends as it does alone, although the second one is accepted before it. -/
theorem first_boot_undisturbed : SameSession twoBoots (1, 7)
    (deskAfter twoBoots [(1, .record 0), (2, .record 1), (3, .accept 1), (4, .accept 0)])
    (deskAfter twoBoots [(5, .record 0), (6, .accept 0)]) := by
  -- Both runs are given turn by turn, each with its identifiers.
  have begun : Desk.Run twoBoots .empty (([] : List (UUID × Turn (Fin 2))).map (·.2))
      (deskAfter twoBoots []) := .start
  have run := deskAfter_run (deskAfter_run (deskAfter_run (deskAfter_run begun (1, .record 0)
    (by decide +kernel)) (2, .record 1) (by decide +kernel)) (3, .accept 1) (by decide +kernel))
    (4, .accept 0) (by decide +kernel)
  have alone := deskAfter_run (deskAfter_run begun (5, .record 0) (by decide +kernel))
    (6, .accept 0) (by decide +kernel)
  exact (sessions_do_not_interfere twoBoots_open twoBoots_open run 0).2.1 alone

end

end Cislunar
