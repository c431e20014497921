import Cislunar.Proofs.Services.Verdicts

/-!
A receipt in sequence conflict holds bytes that decode to the identifier of a packet whose source holds
other bytes.

Where no two of the delivered bodies decode to one identifier, no receipt is in conflict with the
packet that it names.
-/

namespace Cislunar

open Foundation Ground

/-- A body decodes to a frame with an identifier, at some time of receipt. -/
def Names (rawBody : Bytes) (packetId : String) : Prop :=
  ∃ receivedAt frame, decodeTelemetry zlibCrc32 rawBody (.utc receivedAt) = .ok frame ∧
    (telemetryValues frame).packetId = packetId

/-- A packet is named by the bytes of its source. -/
theorem TablesBacked.names {ground : Ground} (backed : TablesBacked ground)
    {packet : LogicalTelemetryPacket} (stored : packet ∈ ground.database.packets)
    {source : TelemetryDeliveryReceipt} (present : source ∈ ground.database.receipts)
    (link : source.receiptId = packet.sourceReceiptId) : Names source.rawBody packet.packetId := by
  -- The packet was decoded from the receipt it links to, and keys are unique.
  obtain ⟨_, ⟨receipt, member, key, rfl⟩, time, frame, -, decodes, same⟩ :=
    backed.decoded packet stored
  obtain rfl : receipt = source := Table.eq_of_key member present (key.trans link.symm)
  exact ⟨time, frame, decodes, same ▸ (backed.ledger.packets packet stored).identifier.symm⟩

/-- A process that delivers one of certain bodies, if any. -/
def Process.Delivers (bodies : Bytes → Prop) : Process → Prop
  | gateway _ vendor => bodies vendor.body
  | startup | worker _ _ => True

/-- Any process may start at any time, as long as it delivers one of certain bodies. -/
def startsDelivery (bodies : Bytes → Prop) (_ : Nat) (_ : Ground)
    (program : Service (Option Response)) : Prop :=
  ∃ process : Process, process.Delivers bodies ∧ process.program = program

/-- The steps of the ground system while certain bodies are delivered. -/
abbrev DeliveryStep (bodies : Bytes → Prop) : GroundConfig → GroundConfig → Prop :=
  Step groundMachine (startsDelivery bodies) Ground.Ticks

section Runs
variable {bodies : Bytes → Prop}

/-- Who delivers what may be delivered presents it. -/
theorem Process.Delivers.presents {process : Process} (delivers : process.Delivers bodies) :
    process.Presents fun vendor => bodies vendor.body := by
  -- Only the gateway has a request.
  cases process with
  | gateway used vendor => exact fun _ => delivers
  | startup | worker => trivial

/-- What is delivered justifies the requests of the processes. -/
theorem loading_deliveryStep (bodies : Bytes → Prop) :
    Loading (fun vendor => bodies vendor.body) groundMachine (startsDelivery bodies) Ground.Ticks :=
  .ground (fun _ _ _ ⟨process, delivers, same⟩ => ⟨process, delivers.presents, same⟩)
    fun _ _ => Ground.Ticks.tables

/-- Deliveries of bodies that decode to different identifiers never meet a sequence conflict. -/
theorem unconflicted_of_run (distinct : ∀ first second packetId, bodies first → bodies second →
      Names first packetId → Names second packetId → first = second) {config : GroundConfig}
    (run : Relation.ReflTransGen (DeliveryStep bodies) GroundConfig.initial config)
    {receipt : TelemetryDeliveryReceipt} (member : receipt ∈ config.state.database.receipts) :
    ¬(receipt.validationStatus = .conflict ∧
      receipt.rejectionReason = some "SEQUENCE_CONFLICT") := by
  rintro ⟨status, reason⟩
  have loading := loading_deliveryStep bodies
  have backed : TablesBacked config.state := (loading.run run).1.1
  have judged := judged_of_run loading run
  rcases (backed.ledger.receipts receipt member).conflict status with
    ⟨-, packet, stored, source, present, named, -, link, -, different⟩ | ⟨other, -⟩
  · -- Both bodies name the packet, so they are the same, which is no conflict.
    obtain ⟨_, _, delivered, -, deserves⟩ := judged receipt member
    obtain ⟨_, _, also, -, deserves'⟩ := judged source present
    obtain ⟨-, packetId, named', frame, decodes, brings⟩ :=
      deserves.found (Or.inr (Or.inr ⟨reason, status⟩))
    obtain rfl : packetId = packet.packetId := Option.some.inj (named'.symm.trans named)
    rw [deserves.brought.body] at delivered decodes
    rw [deserves'.brought.body] at also
    exact different (distinct _ _ _ also delivered (backed.names stored present link)
      ⟨_, frame, decodes, brings⟩)
  · rw [reason] at other
    simp at other

end Runs

end Cislunar
