import Cislunar.Proofs.Telemetry.Evidence
import Mathlib.Data.Int.ModEq

/-!
Sequence accounting: each sequence state is the sum of the packets of its session.

Accepted packets that advanced the mark and counted gaps add up to the mark, modulo 2^32.
-/

namespace Cislunar

open Foundation

/-- A mask of 32 ones is the remainder modulo 2^32, for negative numbers too. -/
theorem land_maxUint32 (value : Int) : Int.land value maxUint32 = value % 4294967296 := by
  cases value with
  | ofNat magnitude =>
    have masked : magnitude &&& 4294967295 = magnitude % 4294967296 :=
      Nat.and_two_pow_sub_one_eq_mod magnitude 32
    show ((magnitude &&& 4294967295 : Nat) : Int) = (magnitude : Int) % 4294967296
    rw [masked]
    rfl
  | negSucc below =>
    -- The complement of the low bits is what is missing to 2^32.
    have masked : Nat.ldiff 4294967295 below = 2 ^ 32 - (below % 2 ^ 32 + 1) := by
      refine Nat.eq_of_testBit_eq fun bit => ?_
      rw [Nat.testBit_ldiff, Nat.testBit_two_pow_sub_succ (Nat.mod_lt _ (by decide)),
        Nat.testBit_mod_two_pow]
      have ones : Nat.testBit 4294967295 bit = decide (bit < 32) :=
        Nat.testBit_two_pow_sub_one 32 bit
      rw [ones]
      by_cases low : bit < 32 <;> simp [low]
    show ((Nat.ldiff 4294967295 below : Nat) : Int) = Int.negSucc below % 4294967296
    rw [masked, Int.negSucc_eq]
    omega

/-- The forward distance is the difference modulo 2^32. -/
theorem forwardDistance_eq (sequenceNumber highWaterSequence : Int) :
    forwardDistance sequenceNumber highWaterSequence =
      (sequenceNumber - highWaterSequence) % 4294967296 :=
  land_maxUint32 _

/-- A packet of a session that has a mark stands one ahead, further ahead, or behind. -/
theorem sequencePosition_some {sequenceNumber missingBefore : Int} {state : TelemetrySequenceState}
    {disposition : PacketDisposition}
    (position : sequencePosition sequenceNumber (some state) = some (disposition, missingBefore)) :
    let distance := forwardDistance sequenceNumber state.highWaterSequence
    (disposition = .inOrder ∧ missingBefore = 0 ∧ distance = 1) ∨
      (disposition = .gap ∧ missingBefore = distance - 1 ∧ distance ≠ 0) ∨
      (disposition = .late ∧ missingBefore = 0) := by
  -- One case per branch of the comparison with the mark; equality has none.
  simp only [sequencePosition] at position
  split_ifs at position with onMark next near <;> simp only [Option.some.injEq, Prod.mk.injEq] at position
  · exact Or.inl ⟨position.1.symm, position.2.symm, next⟩
  · exact Or.inr (Or.inl ⟨position.1.symm, position.2.symm, onMark⟩)
  · exact Or.inr (Or.inr ⟨position.1.symm, position.2.symm⟩)

/-- The packets of a session, in order of acceptance. -/
def Database.sessionPackets (db : Database) (session : Int × Int) : List LogicalTelemetryPacket :=
  db.packets.rows.filter fun packet => packet.session = session

/-- The packets of a session that were late. -/
def Database.latePackets (db : Database) (session : Int × Int) : List LogicalTelemetryPacket :=
  (db.sessionPackets session).filter fun packet => packet.sequenceDisposition = .late

/-- A sequence state agrees with the packets of its session. -/
structure Accounted (db : Database) (state : TelemetrySequenceState) : Prop where
  accepted : state.acceptedPacketCount = (db.sessionPackets state.session).length
  missing : state.missingPacketCount =
    ((db.sessionPackets state.session).map (·.missingBefore)).sum
  mark : ∃ packet ∈ db.packets, packet.packetId = state.lastHighWaterPacketId ∧
    packet.session = state.session ∧ packet.values.sequenceNumber = state.highWaterSequence
  balance : state.acceptedPacketCount - (db.latePackets state.session).length +
    state.missingPacketCount ≡ state.highWaterSequence + 1 [ZMOD 4294967296]

/-- All sequence states agree with the packets, and sessions with packets are those with a state. -/
structure Accounting (db : Database) : Prop where
  states : ∀ state ∈ db.states, Accounted db state
  sessions : ∀ session, (∃ packet ∈ db.packets, packet.session = session) ↔
    ∃ state ∈ db.states, state.session = session
  range : ∀ packet ∈ db.packets,
    0 ≤ packet.values.sequenceNumber ∧ packet.values.sequenceNumber ≤ maxUint32

/-- The empty database has nothing to account for. -/
theorem Accounting.empty : Accounting .empty where
  states _ member := absurd member (Table.not_mem_empty _)
  sessions _ :=
    ⟨fun ⟨_, member, _⟩ => absurd member (Table.not_mem_empty _),
      fun ⟨_, member, _⟩ => absurd member (Table.not_mem_empty _)⟩
  range _ member := absurd member (Table.not_mem_empty _)

/-- Accounting looks at packets and sequence states only. -/
theorem Accounting.congr {db after : Database} (accounting : Accounting db)
    (packets : after.packets = db.packets) (states : after.states = db.states) :
    Accounting after := by
  -- All parts are read off the packets of the session.
  obtain ⟨agree, sessions, range⟩ := accounting
  refine ⟨fun state member => ?_, ?_, ?_⟩
  · obtain ⟨accepted, missing, mark, balance⟩ := agree state (states ▸ member)
    have same : ∀ session, after.sessionPackets session = db.sessionPackets session := by
      intro session
      rw [Database.sessionPackets, packets, Database.sessionPackets]
    have late : ∀ session, after.latePackets session = db.latePackets session := by
      intro session
      rw [Database.latePackets, same, Database.latePackets]
    exact ⟨by rw [same, accepted], by rw [same, missing], packets ▸ mark, by rw [late]; exact balance⟩
  · rw [packets, states]
    exact sessions
  · rw [packets]
    exact range

/-- A session without packets has no packet to sum over. -/
theorem sessionPackets_eq_nil {db : Database} {session : Int × Int}
    (unused : ¬∃ packet ∈ db.packets, packet.session = session) :
    db.sessionPackets session = [] := by
  -- A packet that passed the filter would be of the session.
  rw [Database.sessionPackets, List.filter_eq_nil_iff]
  intro packet member same
  exact unused ⟨packet, member, of_decide_eq_true same⟩

section Growth
variable {db after : Database} {packet : LogicalTelemetryPacket}

/-- The session of a new packet grows by it. -/
theorem sessionPackets_grown (unused : db.packets.get? packet.packetId = none)
    (grown : after.packets = db.packets.insert packet) :
    after.sessionPackets packet.session = db.sessionPackets packet.session ++ [packet] := by
  -- The new packet is last, and it passes the filter.
  rw [Database.sessionPackets, grown, Table.rows_insert unused, List.filter_append,
    Database.sessionPackets]
  simp

/-- Every other session stays the same. -/
theorem sessionPackets_grown_of_ne {session : Int × Int}
    (unused : db.packets.get? packet.packetId = none)
    (grown : after.packets = db.packets.insert packet) (other : packet.session ≠ session) :
    after.sessionPackets session = db.sessionPackets session := by
  -- The new packet does not pass the filter.
  rw [Database.sessionPackets, grown, Table.rows_insert unused, List.filter_append,
    Database.sessionPackets]
  simp [other]

/-- A packet that is stored stays stored. -/
theorem mem_packets_grown {other : LogicalTelemetryPacket}
    (unused : db.packets.get? packet.packetId = none)
    (grown : after.packets = db.packets.insert packet) :
    other ∈ after.packets ↔ other ∈ db.packets ∨ other = packet := by
  rw [grown, Table.mem_insert unused]

/-- A state of another session agrees with its packets as before. -/
theorem Accounted.grown_of_ne {state : TelemetrySequenceState} (accounted : Accounted db state)
    (unused : db.packets.get? packet.packetId = none)
    (grown : after.packets = db.packets.insert packet) (other : packet.session ≠ state.session) :
    Accounted after state := by
  -- The new packet is none of the session.
  have same := sessionPackets_grown_of_ne unused grown other
  obtain ⟨accepted, missing, ⟨mark, member, names⟩, balance⟩ := accounted
  refine ⟨by rw [same, accepted], by rw [same, missing],
    ⟨mark, (mem_packets_grown unused grown).mpr (Or.inl member), names⟩, ?_⟩
  rw [Database.latePackets, same]
  exact balance

/-- The late packets of a session after one more packet. -/
theorem latePackets_grown (unused : db.packets.get? packet.packetId = none)
    (grown : after.packets = db.packets.insert packet) :
    ((after.latePackets packet.session).length : Int) =
      (db.latePackets packet.session).length +
        if packet.sequenceDisposition = .late then 1 else 0 := by
  -- The new packet is counted exactly when it was late.
  rw [Database.latePackets, sessionPackets_grown unused grown, List.filter_append,
    List.length_append, Database.latePackets]
  by_cases late : packet.sequenceDisposition = .late <;> simp [late]

/-- The first packet of a session opens its account. -/
theorem Accounted.first {receipt : TelemetryDeliveryReceipt} {values : DecodedTelemetryValues}
    (new : packet = newPacket receipt values .first values.sequenceNumber)
    (unused : db.packets.get? packet.packetId = none)
    (grown : after.packets = db.packets.insert packet)
    (empty : db.sessionPackets packet.session = []) :
    Accounted after (firstState values values.sequenceNumber) := by
  -- The new packet is the only one of its session, and it is not late.
  have only := sessionPackets_grown unused grown
  have late := latePackets_grown unused grown
  have none : db.latePackets packet.session = [] := by rw [Database.latePackets, empty]; rfl
  rw [empty, List.nil_append] at only
  rw [none, show packet.sequenceDisposition = .first by rw [new]; rfl] at late
  have session : (firstState values values.sequenceNumber).session = packet.session := by
    rw [new]
    rfl
  refine ⟨?_, ?_, ⟨packet, (mem_packets_grown unused grown).mpr (Or.inr rfl), ?_, session.symm, ?_⟩,
    ?_⟩
  · rw [session, only]
    rfl
  · rw [session, only, new]
    simp [firstState, newPacket]
  · rw [new]
    rfl
  · rw [new]
    rfl
  · rw [session, late]
    show (1 : Int) - (0 + 0) + values.sequenceNumber ≡ values.sequenceNumber + 1 [ZMOD 4294967296]
    rw [add_zero, sub_zero, add_comm]

/-- One more packet of a session with a mark keeps its account. -/
theorem Accounted.count {receipt : TelemetryDeliveryReceipt} {values : DecodedTelemetryValues}
    {state : TelemetrySequenceState} {disposition : PacketDisposition} {missingBefore : Int}
    (accounted : Accounted db state)
    (new : packet = newPacket receipt values disposition missingBefore)
    (session : state.session = packet.session)
    (position : sequencePosition values.sequenceNumber (some state) =
      some (disposition, missingBefore))
    (unused : db.packets.get? packet.packetId = none)
    (grown : after.packets = db.packets.insert packet) :
    Accounted after (state.count values disposition missingBefore) := by
  have more := sessionPackets_grown unused grown
  have late := latePackets_grown unused grown
  rw [show packet.sequenceDisposition = disposition by rw [new]; rfl] at late
  have joined : packet ∈ after.packets := (mem_packets_grown unused grown).mpr (Or.inr rfl)
  obtain ⟨accepted, missing, ⟨mark, member, named, placed, at_⟩, balance⟩ := accounted
  rw [session] at accepted missing placed balance
  have kept : mark ∈ after.packets := (mem_packets_grown unused grown).mpr (Or.inl member)
  have sum : ((after.sessionPackets packet.session).map (·.missingBefore)).sum =
      state.missingPacketCount + missingBefore := by
    rw [more, List.map_append, List.sum_append, ← missing, new]
    simp [newPacket]
  have length : ((after.sessionPackets packet.session).length : Int) =
      state.acceptedPacketCount + 1 := by
    rw [more, List.length_append, accepted]
    simp
  have counts : ∀ (counted : TelemetrySequenceState), counted.session = state.session →
      counted.acceptedPacketCount = state.acceptedPacketCount + 1 →
      counted.acceptedPacketCount = ((after.sessionPackets counted.session).length : Int) := by
    intro counted same one
    rw [same, session, length, one]
  rcases sequencePosition_some position with
    ⟨rfl, rfl, next⟩ | ⟨rfl, ahead, off⟩ | ⟨rfl, rfl⟩
  · -- One ahead: the mark moves by one and so does the count.
    refine ⟨counts _ rfl rfl, ?_, ⟨packet, joined, ?_, ?_, ?_⟩, ?_⟩
    · show state.missingPacketCount + 0 = ((after.sessionPackets state.session).map _).sum
      rw [session, sum]
    · rw [new]; rfl
    · exact session.symm
    · rw [new]; rfl
    · show state.acceptedPacketCount + 1 - ((after.latePackets state.session).length : Int) +
        (state.missingPacketCount + 0) ≡ values.sequenceNumber + 1 [ZMOD 4294967296]
      rw [forwardDistance_eq] at next
      rw [session, late, if_neg (by decide)]
      simp only [Int.ModEq] at balance ⊢
      omega
  · -- Further ahead: the distance is one packet and the gap before it.
    refine ⟨counts _ rfl rfl, ?_, ⟨packet, joined, ?_, ?_, ?_⟩, ?_⟩
    · show state.missingPacketCount + missingBefore =
        ((after.sessionPackets state.session).map _).sum
      rw [session, sum]
    · rw [new]; rfl
    · exact session.symm
    · rw [new]; rfl
    · show state.acceptedPacketCount + 1 - ((after.latePackets state.session).length : Int) +
        (state.missingPacketCount + missingBefore) ≡ values.sequenceNumber + 1 [ZMOD 4294967296]
      rw [forwardDistance_eq] at ahead
      rw [session, late, if_neg (by decide), ahead]
      simp only [Int.ModEq] at balance ⊢
      omega
  · -- Behind: a late packet is counted on both sides and leaves the mark alone.
    refine ⟨counts _ rfl rfl, ?_, ⟨mark, kept, named, ?_, at_⟩, ?_⟩
    · show state.missingPacketCount = ((after.sessionPackets state.session).map _).sum
      rw [session, sum, add_zero]
    · exact placed.trans session.symm
    · show state.acceptedPacketCount + 1 - ((after.latePackets state.session).length : Int) +
        state.missingPacketCount ≡ state.highWaterSequence + 1 [ZMOD 4294967296]
      rw [session, late, if_pos rfl]
      simp only [Int.ModEq] at balance ⊢
      omega

end Growth

/-- A packet accepted into a session keeps the accounts of all sessions. -/
theorem Accounting.addPacket {db : Database} {receipt : TelemetryDeliveryReceipt}
    {values : DecodedTelemetryValues} {sequenceState : Option TelemetrySequenceState}
    {disposition : PacketDisposition} {missingBefore : Int} {jobId : UUID}
    {options : AcceptanceOptions} (accounting : Accounting db)
    (tracked : db.states.get? (values.payloadId, values.bootId) = sequenceState)
    (position : sequencePosition values.sequenceNumber sequenceState =
      some (disposition, missingBefore))
    (packetAdmitted : db.AdmitsPacket (newPacket receipt values disposition missingBefore))
    (stateAdmitted : sequenceState = none → db.AdmitsState (firstState values missingBefore)) :
    Accounting
      (db.addPacket receipt values sequenceState disposition missingBefore jobId options) := by
  -- A session without a state is opened by its first packet; in another one the state is counted
  -- on. All other sessions stay as they are.
  have unused := packetAdmitted.1
  have range : ∀ packet ∈ (db.addPacket receipt values sequenceState disposition missingBefore
      jobId options).packets,
      0 ≤ packet.values.sequenceNumber ∧ packet.values.sequenceNumber ≤ maxUint32 := by
    intro packet member
    rcases (mem_packets_grown unused rfl).mp member with old | rfl
    · exact accounting.range packet old
    · exact packetAdmitted.2.2.2.2.2
  cases sequenceState with
  | none =>
    obtain ⟨rfl, rfl⟩ : disposition = .first ∧ missingBefore = values.sequenceNumber := by
      simpa [sequencePosition, eq_comm] using position
    have fresh := (stateAdmitted rfl).1
    have mem : ∀ state, state ∈ (db.addPacket receipt values none .first values.sequenceNumber
        jobId options).states ↔ state ∈ db.states ∨ state = firstState values values.sequenceNumber :=
      fun state => Table.mem_insert fresh
    have absent : ¬∃ packet ∈ db.packets, packet.session = (values.payloadId, values.bootId) := by
      rw [accounting.sessions]
      rintro ⟨state, member, same⟩
      exact Table.get?_eq_none.mp tracked state member same
    refine ⟨fun state member => ?_, fun session => ?_, range⟩
    · rcases (mem state).mp member with old | rfl
      · refine (accounting.states state old).grown_of_ne unused rfl fun same => ?_
        exact Table.get?_eq_none.mp tracked state old same.symm
      · exact .first rfl unused rfl (sessionPackets_eq_nil absent)
    · constructor
      · rintro ⟨packet, member, rfl⟩
        rcases (mem_packets_grown unused rfl).mp member with old | rfl
        · obtain ⟨state, among, same⟩ := (accounting.sessions _).mp ⟨packet, old, rfl⟩
          exact ⟨state, (mem state).mpr (Or.inl among), same⟩
        · exact ⟨_, (mem _).mpr (Or.inr rfl), rfl⟩
      · rintro ⟨state, member, rfl⟩
        rcases (mem state).mp member with old | rfl
        · obtain ⟨packet, among, same⟩ := (accounting.sessions _).mpr ⟨state, old, rfl⟩
          exact ⟨packet, (mem_packets_grown unused rfl).mpr (Or.inl among), same⟩
        · exact ⟨_, (mem_packets_grown unused rfl).mpr (Or.inr rfl), rfl⟩
  | some state =>
    obtain ⟨known, named⟩ := Table.get?_eq_some.mp tracked
    have session : (state.count values disposition missingBefore).session = state.session := by
      rw [TelemetrySequenceState.count]
      split_ifs <;> rfl
    have mem : ∀ row, row ∈ (db.addPacket receipt values (some state) disposition missingBefore
        jobId options).states ↔ row = state.count values disposition missingBefore ∨
          (row ∈ db.states ∧ row.session ≠ state.session) := by
      intro row
      rw [← session]
      exact Table.mem_set_of_mem known session.symm
    refine ⟨fun row member => ?_, fun wanted => ?_, range⟩
    · rcases (mem row).mp member with rfl | ⟨old, other⟩
      · exact (accounting.states state known).count rfl named position unused rfl
      · refine (accounting.states row old).grown_of_ne unused rfl fun same => other ?_
        exact same.symm.trans named.symm
    · constructor
      · rintro ⟨packet, member, rfl⟩
        by_cases same : packet.session = state.session
        · exact ⟨_, (mem _).mpr (Or.inl rfl), session.trans same.symm⟩
        · rcases (mem_packets_grown unused rfl).mp member with old | rfl
          · obtain ⟨row, among, equal⟩ := (accounting.sessions _).mp ⟨packet, old, rfl⟩
            exact ⟨row, (mem row).mpr (Or.inr ⟨among, equal ▸ same⟩), equal⟩
          · exact absurd named.symm same
      · rintro ⟨row, member, rfl⟩
        rcases (mem row).mp member with rfl | ⟨old, other⟩
        · refine ⟨_, (mem_packets_grown unused rfl).mpr (Or.inr rfl), ?_⟩
          exact named.symm.trans session.symm
        · obtain ⟨packet, among, equal⟩ := (accounting.sessions _).mpr ⟨row, old, rfl⟩
          exact ⟨packet, (mem_packets_grown unused rfl).mpr (Or.inl among), equal⟩

/-- One call keeps the accounts. -/
theorem Effect.accounting {db after : Database} (effect : Effect db after)
    (accounting : Accounting db) : Accounting after := by
  -- An acceptance adds one packet and moves its state; no other effect touches the two tables.
  cases effect with
  | accepted member status tracked position packetAdmitted stateAdmitted jobAdmitted =>
    exact accounting.addPacket tracked position packetAdmitted stateAdmitted
  | _ => exact accounting.congr rfl rfl

/-- Whole histories keep the accounts. -/
theorem Reachable.accounting {db : Database} (reachable : Reachable db) : Accounting db := by
  -- On the calls, by the effect of each one.
  induction reachable with
  | empty => exact .empty
  | call env call _ ih => exact (call.exec_effect env _).accounting ih

/-- A sequence number that stands on the mark of its session already has its packet. -/
theorem Accounting.packet_on_mark {db : Database} (accounting : Accounting db)
    {values : DecodedTelemetryValues} {state : TelemetrySequenceState}
    (range : 0 ≤ values.sequenceNumber ∧ values.sequenceNumber ≤ maxUint32)
    (tracked : db.states.get? (values.payloadId, values.bootId) = some state)
    (onMark : forwardDistance values.sequenceNumber state.highWaterSequence = 0) :
    ∃ packet ∈ db.packets, packet.values.sourceKey = values.sourceKey := by
  obtain ⟨known, named⟩ := Table.get?_eq_some.mp tracked
  obtain ⟨packet, member, -, placed, marked⟩ := (accounting.states state known).mark
  have bounds := accounting.range packet member
  refine ⟨packet, member, ?_⟩
  -- Two numbers below 2^32 at distance zero are one number.
  have equal : packet.values.sequenceNumber = values.sequenceNumber := by
    rw [forwardDistance_eq] at onMark
    simp only [maxUint32] at range bounds
    omega
  obtain ⟨payload, boot⟩ := Prod.mk.inj (placed.trans named)
  simp only [DecodedTelemetryValues.sourceKey, payload, boot, equal]

/-- No acceptance finds its packet on a mark without a packet. -/
theorem AcceptOutcome.ne_stateConflict {db : Database} {receiptId jobId : UUID}
    {values : DecodedTelemetryValues} {options : AcceptanceOptions}
    {outcome : Except StorageError PacketAcceptanceResult × Database}
    (happened : AcceptOutcome db receiptId values jobId options outcome)
    (accounting : Accounting db)
    (range : 0 ≤ values.sequenceNumber ∧ values.sequenceNumber ≤ maxUint32)
    (receipt : TelemetryDeliveryReceipt) : outcome.1 ≠ .ok (stateConflictResult receipt) := by
  -- The other outcomes answer with another status or name a packet; a number on the mark has its
  -- packet.
  intro answered
  cases happened with
  | missing | refused => cases answered
  | replayed found status =>
    have same := congrArg (·.validationStatus) (Except.ok.inj answered)
    rcases status with status | status <;>
      simp [replayedAcceptance, stateConflictResult, status] at same
  | settled found status settles =>
    cases settles with
    | duplicated => cases congrArg (·.validationStatus) (Except.ok.inj answered)
    | conflicted => cases congrArg (·.packetId) (Except.ok.inj answered)
    | accepted => cases congrArg (·.validationStatus) (Except.ok.inj answered)
    | integrity => cases answered
    | stateConflicted unused tracked onMark =>
      obtain ⟨packet, member, same⟩ := accounting.packet_on_mark range tracked onMark
      exact packetBySource_eq_none.mp unused packet member same

/--
The sequence accounting holds after every history of calls.

The count is the number of packets of the session, the mark is a packet of it, the missing count is
the sum of its gaps, and all of them balance modulo 2^32. A session has packets exactly when it has
a state, and a sequence number on the mark has its packet, so no state conflict is ever found.
-/
theorem sequenceAccounting_holds (history : List (Surroundings × RepoCall)) :
    let db := databaseAfter history
    (∀ state ∈ db.states,
      state.acceptedPacketCount = (db.sessionPackets state.session).length ∧
      (∃ packet ∈ db.packets, packet.packetId = state.lastHighWaterPacketId ∧
        packet.session = state.session ∧
        packet.values.sequenceNumber = state.highWaterSequence) ∧
      state.missingPacketCount =
        ((db.sessionPackets state.session).map (·.missingBefore)).sum ∧
      state.acceptedPacketCount - (db.latePackets state.session).length +
        state.missingPacketCount ≡ state.highWaterSequence + 1 [ZMOD 2 ^ 32]) ∧
    (∀ session, (∃ packet ∈ db.packets, packet.session = session) ↔
      ∃ state ∈ db.states, state.session = session) ∧
    (∀ env receiptId values maxAttempts actorIdentity receipt,
      ((RepoCall.acceptPacketAndCreateJob receiptId values maxAttempts actorIdentity).exec
        env db).1 ≠ .ok (stateConflictResult receipt)) := by
  -- The balance is part of the invariant of reachable databases.
  have accounting := (reachable_databaseAfter history).accounting
  refine ⟨fun state member => ?_, accounting.sessions, ?_⟩
  · obtain ⟨accepted, missing, mark, balance⟩ := accounting.states state member
    exact ⟨accepted, mark, missing, balance⟩
  · intro env receiptId values maxAttempts actorIdentity receipt
    rcases acceptPacketAndCreateJob_serially receiptId values
        { maxAttempts := maxAttempts, actorIdentity := actorIdentity, now := env.now } env.uuid4
        (databaseAfter history) with ⟨_, failed⟩ | ⟨range, -, _, happened⟩
    · rw [RepoCall.exec, RepoCall.program, failed]
      exact fun impossible => by cases impossible
    · exact happened.ne_stateConflict accounting range receipt

end Cislunar
