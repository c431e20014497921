import Cislunar.Proofs.Telemetry.Accounting
import Cislunar.Proofs.Telemetry.Ledger
import Cislunar.Telemetry.Postgres
import Mathlib.Data.Int.Interval

/-!
The counts of the telemetry tables stay within their columns.

A session has at most one packet for each sequence number, and a packet counts at most the numbers
before it as missing.
-/

namespace Cislunar

open Foundation

/-- The range of an `INTEGER` column. -/
theorem fitsInteger_iff {value : Int} :
    fitsInteger value = true ↔ -2147483648 ≤ value ∧ value ≤ 2147483647 := by
  rw [fitsInteger, decide_eq_true_iff]

/-- The range of a `BIGINT` column. -/
theorem fitsBigInteger_iff {value : Int} : fitsBigInteger value = true ↔
    -9223372036854775808 ≤ value ∧ value ≤ 9223372036854775807 := by
  rw [fitsBigInteger, decide_eq_true_iff]

/-- What the counts of a database are bounded by. -/
structure CountsBounded (db : Database) : Prop where
  packets : ∀ packet ∈ db.packets, 0 ≤ packet.missingBefore ∧ packet.missingBefore ≤ maxUint32
  states : ∀ state ∈ db.states, 0 ≤ state.missingPacketCount ∧
    state.missingPacketCount ≤ maxUint32 + (state.acceptedPacketCount - 1) * (halfUint32Range - 1)

/-- Bounds of counts look at packets and sequence states only. -/
theorem CountsBounded.congr {db after : Database} (bounded : CountsBounded db)
    (packets : after.packets = db.packets) (states : after.states = db.states) :
    CountsBounded after := by
  -- The bounds speak of the packets and the states only.
  refine ⟨?_, ?_⟩
  · rw [packets]
    exact bounded.packets
  · rw [states]
    exact bounded.states

/-- The first packet of a session may miss all numbers before it, a later one half of them. -/
theorem missing_of_position {sequenceNumber missingBefore : Int}
    {sequenceState : Option TelemetrySequenceState} {disposition : PacketDisposition}
    (range : 0 ≤ sequenceNumber ∧ sequenceNumber ≤ maxUint32)
    (position : sequencePosition sequenceNumber sequenceState = some (disposition, missingBefore)) :
    0 ≤ missingBefore ∧ missingBefore ≤ maxUint32 ∧
      (sequenceState ≠ none → missingBefore < halfUint32Range) := by
  cases sequenceState with
  | none =>
    obtain ⟨-, rfl⟩ : disposition = .first ∧ missingBefore = sequenceNumber := by
      simpa [sequencePosition, eq_comm] using position
    exact ⟨range.1, range.2, fun present => absurd rfl present⟩
  | some state =>
    -- The distance lies between 0 and 2^32, and a gap is less than half of that.
    have distance := forwardDistance_eq sequenceNumber state.highWaterSequence
    simp only [sequencePosition] at position
    split_ifs at position with onMark next near
    · cases position
      exact ⟨le_rfl, by decide, fun _ => by decide⟩
    · cases position
      simp only [maxUint32, halfUint32Range] at *
      omega
    · cases position
      exact ⟨le_rfl, by decide, fun _ => by decide⟩

/-- One call keeps the bounds. -/
theorem Effect.countsBounded {db after : Database} (effect : Effect db after)
    (bounded : CountsBounded db) : CountsBounded after := by
  cases effect with
  | @accepted receipt values sequenceState disposition missingBefore jobId options member status
      tracked position packetAdmitted stateAdmitted jobAdmitted =>
    obtain ⟨positive, small, gap⟩ := missing_of_position packetAdmitted.2.2.2.2.2 position
    refine ⟨fun packet stored => ?_, fun state stored => ?_⟩
    · rcases (Table.mem_insert packetAdmitted.1).mp stored with old | rfl
      · exact bounded.packets packet old
      · exact ⟨positive, small⟩
    -- Only the state of the session counts the packet.
    · cases sequenceState with
      | none =>
        rcases (Table.mem_insert (stateAdmitted rfl).1).mp stored with old | rfl
        · exact bounded.states state old
        · refine ⟨positive, ?_⟩
          simpa [firstState] using small
      | some known =>
        have among := (Table.get?_eq_some.mp tracked).1
        obtain ⟨least, most⟩ := bounded.states known among
        have step := gap (Option.some_ne_none known)
        rcases Table.mem_set.mp stored with ⟨rfl, -⟩ | ⟨old, -⟩
        · have counted : (known.count values disposition missingBefore).missingPacketCount ≤
              known.missingPacketCount + missingBefore ∧
              0 ≤ (known.count values disposition missingBefore).missingPacketCount ∧
              (known.count values disposition missingBefore).acceptedPacketCount =
                known.acceptedPacketCount + 1 := by
            rw [TelemetrySequenceState.count]
            split_ifs <;> exact ⟨by dsimp only; omega, by dsimp only; omega, rfl⟩
          obtain ⟨above, below, grown⟩ := counted
          rw [grown]
          refine ⟨below, ?_⟩
          simp only [halfUint32Range] at *
          omega
        · exact bounded.states state old
  | _ => exact bounded.congr rfl rfl

/-- Whole histories keep the bounds. -/
theorem Reachable.countsBounded {db : Database} (reachable : Reachable db) : CountsBounded db := by
  -- On the calls, each of which has one of the listed effects.
  induction reachable with
  | empty =>
    exact ⟨fun _ member => absurd member (Table.not_mem_empty _),
      fun _ member => absurd member (Table.not_mem_empty _)⟩
  | call env call _ ih => exact (call.exec_effect env _).countsBounded ih

/-- A session has at most as many packets as there are sequence numbers. -/
theorem Reachable.sessionPackets_length {db : Database} (reachable : Reachable db)
    (session : Int × Int) : ((db.sessionPackets session).length : Int) ≤ maxUint32 + 1 := by
  -- The packets of a session have different numbers, all of them below 2^32.
  have member : ∀ packet ∈ db.sessionPackets session,
      packet ∈ db.packets ∧ packet.session = session := by
    intro packet listed
    obtain ⟨stored, placed⟩ := List.mem_filter.mp listed
    exact ⟨stored, of_decide_eq_true placed⟩
  have distinct : ((db.sessionPackets session).map (·.values.sequenceNumber)).Nodup := by
    refine List.Nodup.map_on ?_ ((List.Nodup.of_map _ db.packets.nodup).filter _)
    intro first listed second also same
    obtain ⟨stored, placed⟩ := member first listed
    obtain ⟨among, beside⟩ := member second also
    obtain ⟨payload, boot⟩ := Prod.mk.inj (placed.trans beside.symm)
    refine reachable.ledger.sourceUnique first stored second among ?_
    simp only [DecodedTelemetryValues.sourceKey, payload, boot, same]
  have within : ((db.sessionPackets session).map (·.values.sequenceNumber)).toFinset ⊆
      Finset.Icc 0 maxUint32 := by
    intro number listed
    obtain ⟨packet, among, rfl⟩ := List.mem_map.mp (List.mem_toFinset.mp listed)
    exact Finset.mem_Icc.mpr (reachable.accounting.range packet (member packet among).1)
  have count := Finset.card_le_card within
  rw [List.toFinset_card_of_nodup distinct, List.length_map, Int.card_Icc] at count
  simp only [maxUint32] at count ⊢
  omega

/--
Where every packet came from values in range, every number of the packets and states is in range.

So a statement that writes decoded values never fails for a number.
-/
theorem Reachable.inRange {db : Database} (reachable : Reachable db)
    (decoded : ∀ packet ∈ db.packets, packet.values.inRange = true) :
    (∀ packet ∈ db.packets, packet.inRange = true) ∧ ∀ state ∈ db.states, state.inRange = true := by
  have bounded := reachable.countsBounded
  refine ⟨fun packet member => ?_, fun state member => ?_⟩
  · obtain ⟨positive, small⟩ := bounded.packets packet member
    simp only [maxUint32] at small
    rw [LogicalTelemetryPacket.inRange, decoded packet member, Bool.true_and]
    exact fitsBigInteger_iff.mpr ⟨by omega, by omega⟩
  · -- The names of a state and its mark are those of a packet, and its counts are bounded.
    obtain ⟨accepted, -, ⟨packet, stored, -, placed, marked⟩, -⟩ :=
      reachable.accounting.states state member
    obtain ⟨payload, boot⟩ := Prod.mk.inj placed
    obtain ⟨least, most⟩ := bounded.states state member
    have length := reachable.sessionPackets_length state.session
    have good := decoded packet stored
    rw [← accepted] at length
    simp only [DecodedTelemetryValues.inRange, Bool.and_eq_true] at good
    rw [TelemetrySequenceState.inRange, ← payload, ← boot, ← marked]
    simp only [maxUint32, halfUint32Range] at most length
    have counted : fitsBigInteger state.acceptedPacketCount = true :=
      fitsBigInteger_iff.mpr ⟨by omega, by omega⟩
    have missed : fitsBigInteger state.missingPacketCount = true :=
      fitsBigInteger_iff.mpr ⟨by omega, by omega⟩
    simp only [good, counted, missed, Bool.and_self]

end Cislunar
