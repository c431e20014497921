import Cislunar.Foundation.Runs
import Cislunar.Proofs.Services.Recovery
import Cislunar.Proofs.Telemetry.QueueEntries

/-!
One text names a packet in the tables, in the queue and in the paths of the operator.

Two formatters write it and two expressions check it; all four agree on the numbers that a frame can
carry, so every accepted packet can be queued and no two packets share a name.
-/

namespace Cislunar

open Foundation

/-- Taking eight digits is taking one piece of an expression. -/
theorem dropUpperHex8_eq (text : List Char) :
    dropUpperHex8 text = (Piece.repeated 8 isUpperHex).take text := rfl

/-- The expression of the operator's paths accepts what the queue accepts. -/
theorem fullmatch_messageIdPattern (text : String) :
    fullmatch messageIdPattern text.toList = matchesPacketId text := by
  -- From left to right the expression takes the text apart; the other way its parts are given in
  -- the order in which the function of the queue checks them.
  apply Bool.eq_iff_iff.mpr
  rw [messageIdPattern]
  simp only [fullmatch_cons, fullmatch_nil, take_literal, take_textEnd]
  constructor
  · rintro ⟨_, start, _, payload, boots, rfl, sequences, boot, _, rfl, left, sequence,
      ⟨_, ⟨rfl, rfl⟩, -⟩⟩
    obtain ⟨front, rfl, pair, digits⟩ := take_repeated.mp payload
    obtain ⟨tens, ones, rfl⟩ := List.length_eq_two.mp pair
    have tensDigit := digits tens (by simp)
    have onesDigit := digits ones (by simp)
    have whole : text.toList =
        'T' :: 'L' :: 'M' :: '-' :: 'P' :: tens :: ones :: '-' :: 'B' :: boots := start
    unfold matchesPacketId
    split
    next _ _ _ shape =>
      cases whole.symm.trans shape
      rw [dropUpperHex8_eq, boot, tensDigit, onesDigit]
      exact decide_eq_true sequence
    next other => exact absurd whole (other tens ones boots)
  · intro matched
    unfold matchesPacketId at matched
    split at matched
    next tens ones boot shape =>
      rw [Bool.and_eq_true, Bool.and_eq_true] at matched
      obtain ⟨⟨tensDigit, onesDigit⟩, rest⟩ := matched
      split at rest
      next sequence taken =>
        refine ⟨tens :: ones :: '-' :: 'B' :: boot, shape, '-' :: 'B' :: boot, ?_, boot, rfl,
          '-' :: 'S' :: sequence, taken, sequence, rfl, [], of_decide_eq_true rest,
          [], ⟨rfl, rfl⟩, rfl⟩
        apply take_repeated.mpr
        refine ⟨[tens, ones], rfl, rfl, fun char member => ?_⟩
        rcases List.mem_pair.mp member with rfl | rfl
        · exact tensDigit
        · exact onesDigit
      next => cases rest
    next => cases matched

/-- The numbers that an identifier can name. -/
structure PacketNumbers (payloadId bootId sequenceNumber : Int) : Prop where
  payload : 1 ≤ payloadId ∧ payloadId ≤ 99
  boot : 0 ≤ bootId ∧ bootId ≤ uint32Max
  sequence : 0 ≤ sequenceNumber ∧ sequenceNumber ≤ uint32Max

namespace PacketNumbers
variable {payloadId bootId sequenceNumber : Int}

/-- Nameable numbers are natural. -/
theorem naturals (numbers : PacketNumbers payloadId bootId sequenceNumber) :
    0 ≤ payloadId ∧ 0 ≤ bootId ∧ 0 ≤ sequenceNumber :=
  ⟨by linarith [numbers.payload.1], numbers.boot.1, numbers.sequence.1⟩

/-- `format_packet_id` takes all of them. -/
theorem formatPacketId_eq (numbers : PacketNumbers payloadId bootId sequenceNumber) :
    formatPacketId payloadId bootId sequenceNumber =
      .ok (packetIdText payloadId bootId sequenceNumber) := by
  -- The three checks pass for numbers of a packet.
  have payload : 0 ≤ payloadId ∧ payloadId ≤ 99 := ⟨numbers.naturals.1, numbers.payload.2⟩
  simp [formatPacketId, payload, numbers.boot, numbers.sequence, require, bind, Except.bind, pure,
    Except.pure]

/-- The queue complains about none of them. -/
theorem wellFormed (numbers : PacketNumbers payloadId bootId sequenceNumber) :
    packetIdComplaint (packetIdText payloadId bootId sequenceNumber) = none :=
  packetIdComplaint_packetIdText ⟨numbers.naturals.1, numbers.payload.2⟩ numbers.boot
    numbers.sequence

end PacketNumbers

/-- A text that nobody complains about matches the expression of the queue. -/
theorem matchesPacketId_of_wellFormed {packetId : String}
    (wellFormed : packetIdComplaint packetId = none) : matchesPacketId packetId = true := by
  -- The first complaint of the check is about the pattern.
  unfold packetIdComplaint at wellFormed
  dsimp only at wellFormed
  split_ifs at wellFormed
  next matched => simpa using matched

/-- A text is the identifier of some numbers for everyone who writes or reads it. -/
structure Identifies (packetId : String) (payloadId bootId sequenceNumber : Int) : Prop where
  /-- `DecodedTelemetryValues.packet_id`. -/
  values : ∀ values : DecodedTelemetryValues,
    values.sourceKey = (payloadId, bootId, sequenceNumber) → values.packetId = packetId
  /-- `TelemetryFrame.packet_id`. -/
  frame : ∀ {Mode : Type} (frame : TelemetryFrame Mode), frame.payloadId = payloadId →
    frame.bootId = bootId → frame.sequenceNumber = sequenceNumber → frame.packetId = .ok packetId
  determines : ∀ payload boot sequence, PacketNumbers payload boot sequence →
    formatPacketId payload boot sequence = .ok packetId →
    payload = payloadId ∧ boot = bootId ∧ sequence = sequenceNumber
  accepted : fullmatch messageIdPattern packetId.toList = true
  queued : ∀ jobId : UUID, ∃ message : QueueMessage,
    QueueMessage.ofTexts jobId.toText packetId.toList = .ok message ∧ message.jobId = jobId ∧
      message.packetId = packetId ∧
      ∀ spareLevels, QueueMessage.fromJsonBytes spareLevels message.toJsonBytes = .ok message

/-- Nameable numbers have an identifier. -/
theorem PacketNumbers.identified {payloadId bootId sequenceNumber : Int}
    (numbers : PacketNumbers payloadId bootId sequenceNumber) :
    Identifies (packetIdText payloadId bootId sequenceNumber) payloadId bootId sequenceNumber where
  values values same := by
    obtain ⟨payload, boot, sequence⟩ := Prod.mk.inj same |>.imp_right Prod.mk.inj
    rw [DecodedTelemetryValues.packetId, payload, boot, sequence]
  frame frame payload boot sequence := by
    rw [TelemetryFrame.packetId, payload, boot, sequence, numbers.formatPacketId_eq]
  determines payload boot sequence others same := by
    -- Natural numbers are determined by their padded digits.
    rw [others.formatPacketId_eq] at same
    exact packetIdText_injective others.naturals numbers.naturals (Except.ok.inj same)
  accepted := by
    rw [fullmatch_messageIdPattern]
    exact matchesPacketId_of_wellFormed numbers.wellFormed
  queued jobId := ⟨_, QueueMessage.ofTexts_eq_ok jobId numbers.wellFormed, rfl, rfl,
    fun spareLevels => QueueMessage.fromJsonBytes_toJsonBytes spareLevels _⟩

/-- A request that is answered wherever the other processes have left the stores, or not at all. -/
def Ground.Replies (request : Request) (_before : Ground) (reply : Except Failure request.Reply)
    (after : Ground) : Prop :=
  ∃ uuid4 fault between, Ground.perform uuid4 fault between request = (reply, after)

/-- Queueing a well-formed identifier never ends with a `QueueMessageError`. -/
theorem queueOne_ne_message {jobId : UUID} {packetId : String}
    (wellFormed : packetIdComplaint packetId = none) {held : Option TelemetryProcessingJob}
    {before after : Ground} {outcome : Except Failure Bool}
    (run : Runs Ground.Replies (queueOne jobId packetId held) before outcome after) (text : String) :
    outcome ≠ .error (.queue (.message text)) := by
  -- The only message that could fail is the one built here, and it is well formed. What is left are
  -- the errors of the two calls.
  rw [queueOne, QueueMessage.new_eq_ok jobId wellFormed] at run
  rcases run.of_bind with ⟨error, rfl, enqueue⟩ | ⟨-, middle, -, mark⟩
  · obtain ⟨uuid4, fault, between, performed⟩ := enqueue.of_call
    rcases (Ground.perform_queue performed).2 with unreachable | ⟨-, answered⟩
    · cases unreachable
      simp
    · have happened := enqueue_outcome between.queue ⟨jobId, packetId, wellFormed⟩
      generalize (QueueCall.enqueue _).exec between.queue = scripted at happened answered
      cases happened with
      | added unmarked => cases answered
      | present marked => cases answered
      | conflict marked different other =>
        cases answered
        simp
  · obtain ⟨uuid4, fault, between, performed⟩ := mark.of_call
    rcases (Ground.perform_repository performed).2 with unreachable | ⟨-, answered⟩
    · rw [unreachable]
      simp
    · rw [answered]
      cases ((RepoCall.markJobQueued jobId jobId.str "ground-api").execHolding
        ⟨uuid4, between.clock⟩ { job := held } between.database).1 <;> simp [Except.mapError]

/--
Packet identifiers are faithful and can always be queued.

Both formatters give numbers one text, which determines them and which both expressions accept; queue
messages survive their serialization, which determines them too. In every state that a run of the
ground system reaches, queueing a stored packet never raises `QueueMessageError`, and values that have
the identifier of a stored packet have its source key.
-/
theorem packet_identifiers_faithful {payloadId bootId sequenceNumber : Int}
    (numbers : PacketNumbers payloadId bootId sequenceNumber) {config : GroundConfig}
    (run : Relation.ReflTransGen GroundStep GroundConfig.initial config) :
    (∃ packetId, Identifies packetId payloadId bootId sequenceNumber) ∧
      (∀ first second : QueueMessage, first ≠ second → first.toJsonBytes ≠ second.toJsonBytes) ∧
      ∀ packet ∈ config.state.database.packets,
        (∀ jobId held before outcome after,
          Runs Ground.Replies (queueOne jobId packet.packetId held) before outcome after →
            ∀ text, outcome ≠ .error (.queue (.message text))) ∧
        ∀ values : DecodedTelemetryValues,
          PacketNumbers values.payloadId values.bootId values.sequenceNumber →
            values.packetId = packet.packetId → values.sourceKey = packet.values.sourceKey := by
  -- Stored packets have the identifier of their numbers in every state that a run reaches.
  have backed := tablesBacked_of_run run
  refine ⟨⟨_, numbers.identified⟩, fun first second different same =>
    different (QueueMessage.toJsonBytes_injective same), fun packet stored => ⟨?_, ?_⟩⟩
  · intro jobId held before outcome after queued
    exact queueOne_ne_message (backed.packetId_wellFormed stored) queued
  · intro values others same
    have consistent := backed.ledger.packets packet stored
    have range := backed.accounting.range packet stored
    rw [consistent.identifier] at same
    obtain ⟨payload, boot, sequence⟩ := packetIdText_injective others.naturals
      ⟨consistent.positive.1.le, consistent.positive.2.le, range.1⟩ same
    rw [DecodedTelemetryValues.sourceKey, payload, boot, sequence]
    rfl

/-- The packet of the golden vector has the identifier of its numbers and can be queued. -/
theorem delivered_packet_identified :
    (∃ packetId, Identifies packetId 1 42 1) ∧
      ∃ packet ∈ (GroundConfig.after deliverySchedule).state.database.packets,
        ∀ jobId held before outcome after,
          Runs Ground.Replies (queueOne jobId packet.packetId held) before outcome after →
            ∀ text, outcome ≠ .error (.queue (.message text)) := by
  -- The schedule delivers one packet; its source key is evaluated.
  have numbers : PacketNumbers 1 42 1 := ⟨by decide, by decide, by decide⟩
  have faithful := packet_identifiers_faithful numbers (GroundConfig.after_run deliverySchedule)
  have sources : (GroundConfig.after deliverySchedule).state.database.packets.rows.map
      (·.values.sourceKey) = [(1, 42, 1)] := by decide +kernel
  obtain ⟨packet, member, -⟩ := List.mem_map.mp (sources ▸ List.mem_cons_self)
  exact ⟨faithful.1, packet, member, (faithful.2.2 packet member).1⟩

end Cislunar
