import Cislunar.Proofs.Services.CanonicalUuid
import Cislunar.Proofs.Services.Deliveries
import Cislunar.Proofs.Services.VendorFrames
import Cislunar.Proofs.Services.VendorLink

/-!
What the gateway makes of the frames that the vendor hands to it.

Handlers of the vendor, the simulator, the network and every process of the ground take their turns in
any order; a frame is still judged once, for what it is, whatever becomes of its handoffs.
-/

namespace Cislunar

open Foundation

/-- A rejection is for the damage, or for an undamaged sample that lies too far ahead. -/
def FailureMode.Explains (mode : FailureMode) (reason : TelemetryRejectionReason) : Prop :=
  mode.breaks = some reason ∨ mode.breaks = Option.none ∧ reason = .timestampTooFarInFuture

/-- Every answer of the simulator carries one of its frames. -/
theorem PayloadHost.Numbered.carries {host : PayloadHost}
    {frames : List (TelemetryFrame OperatingMode)} (numbered : host.Numbered frames)
    {answer : Bytes × String} (member : answer ∈ host.returned) :
    ∃ frame ∈ frames, Carries frame answer := by
  -- The answers and the frames are listed in the same order.
  obtain ⟨index, within, rfl⟩ := List.mem_iff_getElem.mp member
  have within' : index < frames.length := numbered.carried.length_eq ▸ within
  exact ⟨_, List.getElem_mem within', numbered.carried.get within' within⟩

/-- The identifier of a frame is the one of its values. -/
theorem packetId_of_frame {frame : TelemetryFrame OperatingMode} {packetId : String}
    (named : frame.packetId = .ok packetId) : (telemetryValues frame).packetId = packetId := by
  -- The name is formatted only once its numbers have been checked.
  rw [TelemetryFrame.packetId, formatPacketId] at named
  simp only [check_bind_eq_ok, require_eq_ok] at named
  exact Except.ok.inj named.2.2.2

namespace VendorLink
variable {system : Machine Nat Failure Request Request.Reply Ground} {settings : GroundSettings}
  {vendor : VendorSettings} {link : VendorLink}

/-- Whatever happens besides the handlers of the vendor, the agreement is kept. -/
theorem Moves.keeps (good : link.Good system settings vendor) {after : VendorLink}
    (moved : Moves system settings link after) :
    after.Good system settings vendor ∧ ∀ thread, link.Grows system thread after := by
  -- One case per kind of event. A gateway that the vendor did not start has no valid token.
  cases moved with
  | ground step => exact good.step step
  | @start place process free foreign =>
    refine good.start free ?_
    cases process with
    | gateway used request => exact ⟨foreign.1, fun token => absurd token foreign.2⟩
    | startup | worker => trivial
  | ends request writable timestampUs =>
    exact good.simulate (.makeFrame request writable timestampUs false) none nofun
  | restart readable writable => exact good.simulate (.restart readable writable) none nofun

/-- At first nothing was handed off. -/
theorem good_initial (boot : Option Bytes) : Good system settings vendor (.initial boot) where
  run _ _ := .refl
  posts _ _ given := nomatch given
  numbered := PayloadHost.numbered_after boot []
  last := nofun
  distinct := .nil
  versions := nofun
  handoffs := nofun
  repeated id := ⟨vendor.handoff [] id, 0, by decide, rfl⟩

/-- What backs a submission stays. -/
theorem kept_backs (thread : Nat) (submission : Submission) :
    Kept (linkProtocol system settings vendor) thread (Backs system settings vendor submission) := by
  -- The identifier that was drawn stays drawn, and the answer that was told stays told.
  rintro before after ⟨draws, id, drawn, same, answer, told, rest⟩ grows valid
  obtain ⟨entry, issued, named⟩ := List.mem_map.mp drawn
  exact ⟨grows.draws draws, id, List.mem_map.mpr ⟨entry, grows.issued entry issued, named⟩, same,
    answer, kept_told _ answer before after told grows valid, rest⟩

/-- In every run the agreement holds, and every submission that returned is backed. -/
theorem sound_of_run {boot : Option Bytes} {config : VendorConfig}
    (run : Relation.ReflTransGen (LinkStep system settings vendor) (VendorConfig.initial boot) config) :
    Sound (machine settings) (linkProtocol system settings vendor) (fun _ outcome link =>
      ∀ submission, outcome = .ok submission → link.Backs system settings vendor submission) config := by
  -- The invariant is the agreement of vendor and ground; each submission is backed when it returns
  -- and stays so.
  have started : Sound (machine settings) (linkProtocol system settings vendor) (fun _ outcome link =>
      ∀ submission, outcome = .ok submission → link.Backs system settings vendor submission)
      (VendorConfig.initial boot) :=
    ⟨good_initial boot, fun thread program running => by cases running⟩
  refine Sound.run ?_ ?_ (fun _ _ good moved => moved.keeps good) started run
  · intro thread outcome before after backed grows valid submission same
    exact kept_backs thread submission before after (backed submission same) grows valid
  · rintro thread link _ - ⟨request, rfl⟩
    exact submitTelemetry_backs request link trivial

section Receipts
variable {answer : Bytes × String} {mode : FailureMode} {raw : Bytes} {id : UUID}

/-- A frame whose bytes decode is not damaged, and its identifier is the one that it decodes to. -/
theorem Good.names (good : link.Good system settings vendor) (member : answer ∈ link.host.returned)
    {packetId : String} (names : Names (applyWireFailure answer.1 mode) packetId) :
    mode.breaks = none ∧ answer.2 = packetId := by
  -- A damaged frame is rejected, and an intact one decodes to what was encoded.
  obtain ⟨frames, numbered⟩ := good.numbered
  obtain ⟨frame, -, encoded, named⟩ := numbered.carries member
  obtain ⟨receivedAt, decoded, decodes, rfl⟩ := names
  cases breaks : mode.breaks with
  | some reason =>
    obtain ⟨detail, rejected⟩ := applyWireFailure_rejected encoded breaks (.utc receivedAt)
    cases rejected.symm.trans decodes
  | none =>
    rw [applyWireFailure_intact breaks] at decodes
    obtain rfl := encodeTelemetry_injective encoded (encodeTelemetry_of_decodeTelemetry decodes)
    exact ⟨rfl, (packetId_of_frame named).symm⟩

/-- Frames with one identifier are the same. -/
theorem Good.same_frame (good : link.Good system settings vendor) {first second : Bytes × String}
    (left : first ∈ link.host.returned) (right : second ∈ link.host.returned)
    (same : first.2 = second.2) : first.1 = second.1 := by
  -- Every frame of the host names the identifier that it was returned with.
  obtain ⟨frames, numbered⟩ := good.numbered
  have names : ∀ answer ∈ link.host.returned, Names answer.1 answer.2 := by
    intro answer member
    obtain ⟨frame, -, encoded, named⟩ := numbered.carries member
    exact ⟨_, frame, decodeTelemetry_own encoded, packetId_of_frame named⟩
  exact numbered.distinct (List.mem_map_of_mem left) (List.mem_map_of_mem right)
    (names first left) (same ▸ names second right)

/-- A handoff that arrives is judged for its body alone. -/
theorem Good.complaint (good : link.Good system settings vendor) {request : VendorRequest}
    (posted : link.Posted request) (receivedAt : Time) :
    request.complaint receivedAt = bytesComplaint request.body receivedAt := by
  -- Both headers are those of a handoff, and they pass.
  obtain ⟨handoff, made, chunks, -, rfl⟩ := posted
  obtain ⟨id, drawn, ⟨raw, -⟩, -, rfl⟩ := good.handoffs handoff made
  have identified : canonicalUuid4 ((vendor.handoff raw id).arriving chunks).requestId = some id :=
    canonicalUuid4_eq_some_iff.mpr ⟨rfl, good.versions id drawn⟩
  have typed : isOctetStream ((vendor.handoff raw id).arriving chunks).contentType = true := by
    rw [show ((vendor.handoff raw id).arriving chunks).contentType =
      some "application/octet-stream" from rfl]
    decide
  exact VendorRequest.complaint_of_headers (by rw [typed]; decide) (by rw [identified]; nofun) receivedAt

/-- A receipt is of a frame that was handed off under an identifier, and is judged for what it is. -/
structure Conveyed (link : VendorLink) (row : TelemetryDeliveryReceipt) (id : UUID)
    (mode : FailureMode) (answer : Bytes × String) : Prop where
  issued : id ∈ link.identifiers
  returned : answer ∈ link.host.returned
  requestId : row.canonicalRequestId = some id
  body : row.rawBody = applyWireFailure answer.1 mode
  rejected : row.validationStatus = .rejected → ∃ reason : TelemetryRejectionReason,
    row.rejectionReason = some reason.value ∧ mode.Explains reason
  found : row.FindsPacket → mode.breaks = none ∧ row.logicalPacketId = some answer.2

/-- Bytes that are rejected are rejected for their damage, or for the time of their sample. -/
theorem Good.explains (good : link.Good system settings vendor) (member : answer ∈ link.host.returned)
    {receivedAt : Time} {reason : String}
    (complaint : bytesComplaint (applyWireFailure answer.1 mode) receivedAt = some reason) :
    ∃ broken : TelemetryRejectionReason, reason = broken.value ∧ mode.Explains broken := by
  -- A damage is what it is rejected for; an intact frame can only be too far ahead of the clock.
  obtain ⟨frames, numbered⟩ := good.numbered
  obtain ⟨frame, -, encoded, -⟩ := numbered.carries member
  rw [bytesComplaint] at complaint
  cases breaks : mode.breaks with
  | some broken =>
    obtain ⟨detail, rejects⟩ := applyWireFailure_rejected encoded breaks (.utc receivedAt)
    rw [rejects] at complaint
    exact ⟨broken, (Option.some.inj complaint).symm, Or.inl breaks⟩
  | none =>
    rw [applyWireFailure_intact breaks] at complaint
    rcases decodeTelemetry_encoded encoded receivedAt with decodes | ⟨-, detail, rejects⟩
    · rw [decodes] at complaint
      cases complaint
    · rw [rejects] at complaint
      exact ⟨_, (Option.some.inj complaint).symm, Or.inr ⟨breaks, rfl⟩⟩

/-- The processes of the link present handoffs that have arrived. -/
theorem Good.loading (good : link.Good groundMachine settings vendor) :
    Loading link.Posted groundMachine (fun thread _ program =>
      program = (link.process thread).program) Ground.Ticks :=
  .ground (fun thread _ _ same => ⟨link.process thread, (good.posts_process thread).presents,
    same.symm⟩) fun _ _ => Ground.Ticks.tables

/-- The tables of the ground are backed. -/
theorem Good.backed (good : link.Good groundMachine settings vendor) :
    TablesBacked link.ground.state :=
  (good.loading.run (good.run _ link.agrees_process)).1.1

/-- Every receipt has the verdict that a handoff deserves. -/
theorem Good.judged (good : link.Good groundMachine settings vendor)
    {row : TelemetryDeliveryReceipt} (member : row ∈ link.ground.state.database.receipts) :
    row.Judged link.Posted link.ground.state.clock :=
  judged_of_run good.loading (good.run _ link.agrees_process) row member

/-- Every receipt is of a frame that was handed off. -/
theorem Good.conveyed (good : link.Good groundMachine settings vendor)
    {row : TelemetryDeliveryReceipt} (member : row ∈ link.ground.state.database.receipts) :
    ∃ id mode answer, link.Conveyed row id mode answer := by
  obtain ⟨request, receivedAt, posted, -, deserves⟩ := good.judged member
  have complains := good.complaint posted receivedAt
  obtain ⟨handoff, made, chunks, whole, rfl⟩ := posted
  obtain ⟨id, drawn, sent, ⟨mode, answer, returned, rfl⟩, rfl⟩ := good.handoffs handoff made
  have version := good.versions id drawn
  replace whole : chunks.flatten = applyWireFailure answer.1 mode := whole
  have body : applyWireFailure answer.1 mode = row.rawBody :=
    whole.symm.trans deserves.brought.body
  refine ⟨id, mode, answer, drawn, returned, ?_, body.symm, fun status => ?_, fun finds => ?_⟩
  · rw [← deserves.brought.requestId]
    exact canonicalUuid4_eq_some_iff.mpr ⟨rfl, version⟩
  -- The first complaint is about the bytes, and only a damaged or an early frame has one.
  · obtain ⟨reason, complaint, given⟩ := deserves.rejected status
    have bytes := congrArg (bytesComplaint · receivedAt) whole
    obtain ⟨broken, named, explained⟩ :=
      good.explains returned (bytes.symm.trans (complains.symm.trans complaint))
    exact ⟨broken, given.trans (congrArg some named), explained⟩
  -- A receipt that has to do with a packet holds bytes that decode to its identifier.
  · obtain ⟨-, packetId, named, frame, decodes, same⟩ := deserves.found finds
    obtain ⟨breaks, rfl⟩ := good.names returned
      ⟨receivedAt, frame, (congrArg (decodeTelemetry zlibCrc32 · _) whole).symm.trans decodes, same⟩
    exact ⟨breaks, named⟩

/-- Handoffs under one identifier are the same. -/
theorem Good.same_handoff (good : link.Good system settings vendor) {first second : Handoff}
    (left : first ∈ link.handoffs) (right : second ∈ link.handoffs)
    (same : first.requestId = second.requestId) : first = second := by
  obtain ⟨id, -, sent, -, rfl⟩ := good.handoffs first left
  obtain ⟨handoff, count, -, times⟩ := good.repeated id
  -- Both are among the repetitions of one handoff.
  have among : ∀ other ∈ link.handoffs, other.requestId = id.str → other = handoff := by
    intro other member named
    have filtered : other ∈ link.under id := List.mem_filter.mpr ⟨member, decide_eq_true named⟩
    rw [times] at filtered
    exact (List.mem_replicate.mp filtered).2
  exact (among _ left rfl).trans (among second right same.symm).symm

/-- Receipts under one identifier have the same bytes. -/
theorem Good.same_body (good : link.Good groundMachine settings vendor)
    {first second : TelemetryDeliveryReceipt}
    (left : first ∈ link.ground.state.database.receipts)
    (right : second ∈ link.ground.state.database.receipts) {id : UUID}
    (named : first.canonicalRequestId = some id) (named' : second.canonicalRequestId = some id) :
    first.rawBody = second.rawBody := by
  -- Both receipts were brought by handoffs under the identifier, of which there is one.
  have sent : ∀ row ∈ link.ground.state.database.receipts, row.canonicalRequestId = some id →
      ∃ handoff ∈ link.handoffs, handoff.requestId = id.str ∧ handoff.content = row.rawBody := by
    intro row member named
    obtain ⟨request, _, ⟨handoff, made, chunks, whole, rfl⟩, -, deserves⟩ :=
      good.judged member
    have printed := (canonicalUuid4_eq_some_iff.mp
      (deserves.brought.requestId.trans named : canonicalUuid4 (some handoff.requestId) = _)).1
    exact ⟨handoff, made, printed.symm, whole.symm.trans deserves.brought.body⟩
  obtain ⟨handoff, made, printed, body⟩ := sent first left named
  obtain ⟨handoff', made', printed', body'⟩ := sent second right named'
  obtain rfl := good.same_handoff made made' (printed.trans printed'.symm)
  exact body.symm.trans body'

/-- No receipt is in conflict. -/
theorem Good.unconflicted (good : link.Good groundMachine settings vendor)
    {row : TelemetryDeliveryReceipt}
    (member : row ∈ link.ground.state.database.receipts) : row.validationStatus ≠ .conflict := by
  intro status
  have ledger := good.backed.ledger
  rcases (ledger.receipts row member).conflict status with
    ⟨reason, packet, stored, source, among, named, -, link', -, different⟩ |
      ⟨-, -, owner, owned, first, among, named, -, link', -, different⟩
  · -- Both receipts hold bytes that decode to the packet, so these are the bytes of one frame.
    obtain ⟨_, mode, answer, conveyed⟩ := good.conveyed member
    obtain ⟨_, mode', answer', conveyed'⟩ := good.conveyed among
    obtain ⟨breaks, same⟩ := conveyed.found (Or.inr (Or.inr ⟨reason, status⟩))
    have names := good.backed.names stored among link'
    rw [conveyed'.body] at names
    obtain ⟨breaks', same'⟩ := good.names conveyed'.returned names
    apply different
    rw [conveyed.body, conveyed'.body, applyWireFailure_intact breaks,
      applyWireFailure_intact breaks']
    exact good.same_frame conveyed'.returned conveyed.returned
      (same'.trans (Option.some.inj (named.symm.trans same)))
  · -- The identifier belongs to the first receipt, and there is one body under it.
    obtain ⟨origin, kept, key, named', -⟩ := ledger.identities owner owned
    obtain rfl : origin = first := Table.eq_of_key kept among (key.trans link'.symm)
    exact different (good.same_body among member named' named)

/-- Nobody is in conflict, so every identifier has one receipt. -/
theorem Good.unique (good : link.Good groundMachine settings vendor)
    {first second : TelemetryDeliveryReceipt}
    (left : first ∈ link.ground.state.database.receipts)
    (right : second ∈ link.ground.state.database.receipts) {id : UUID}
    (named : first.canonicalRequestId = some id) (named' : second.canonicalRequestId = some id) :
    first = second := by
  -- Two receipts under one identifier are the same unless one of them is in dispute.
  have ledger := good.backed.ledger
  have undisputed : ∀ row ∈ link.ground.state.database.receipts, ¬row.Disputes :=
    fun row among disputes => good.unconflicted among disputes.1
  rcases ledger.one_receipt left right named named' with disputes | disputes | same
  · exact absurd disputes (undisputed first left)
  · exact absurd disputes (undisputed second right)
  · exact same

end Receipts

end VendorLink

end Cislunar
