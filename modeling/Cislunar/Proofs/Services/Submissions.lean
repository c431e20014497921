import Cislunar.Proofs.Services.Forwarding
import Cislunar.Proofs.Services.Reports
import Mathlib.Tactic.NormNum

/-!
What the vendor may rely on: every frame is judged once, retries are exact, and what a submission
returns is true of the tables.
-/

namespace Cislunar

open Foundation

/--
Every receipt is of a frame of the vendor and is judged once, for what it is.

Submissions, losses, retries, restarts of the vendor and all processes of the ground interleave in any
order. No receipt is in conflict, and none shares its request identifier with another. The bytes of a
receipt are those of a frame as some failure mode leaves it: if it was rejected, then for this damage
or for a sample too far ahead, and if it was accepted or a duplicate, then the frame was undamaged and
the packet has its identifier.
-/
theorem frames_judged_once (settings : GroundSettings) (vendor : VendorSettings)
    (boot : Option Bytes) (config : VendorConfig)
    (run : Relation.ReflTransGen (VendorStep settings vendor) (VendorConfig.initial boot) config)
    (receipt : TelemetryDeliveryReceipt)
    (member : receipt ∈ config.state.ground.state.database.receipts) :
    receipt.validationStatus ≠ .conflict ∧
    ∃ id ∈ config.state.identifiers, receipt.canonicalRequestId = some id ∧
      (∀ other ∈ config.state.ground.state.database.receipts,
        other.canonicalRequestId = some id → other = receipt) ∧
      ∃ mode, ∃ answer ∈ config.state.host.returned,
        receipt.rawBody = applyWireFailure answer.1 mode ∧
        (receipt.validationStatus = .rejected → ∃ reason : TelemetryRejectionReason,
          receipt.rejectionReason = some reason.value ∧ mode.Explains reason) ∧
        (receipt.validationStatus = .accepted ∨ receipt.validationStatus = .duplicate →
          mode.breaks = none ∧ receipt.logicalPacketId = some answer.2) := by
  -- The receipt was brought by a handoff, which carries a frame of the host.
  have good := (VendorLink.sound_of_run run).1
  obtain ⟨id, mode, answer, conveyed⟩ := good.conveyed member
  exact ⟨good.unconflicted member, id, conveyed.issued, conveyed.requestId,
    fun other among named => good.unique among member named conveyed.requestId, mode, answer,
    conveyed.returned, conveyed.body, conveyed.rejected,
    fun settled => conveyed.found (settled.imp_right Or.inl)⟩

/-- The settings of a vendor whose token is right. -/
def sampleVendor : VendorSettings where
  vendorToken := "vendor"
  tokenPresent := by decide

/-- The request that makes the golden vector of a session in its first call. -/
def goldenTelemetry : TelemetryRequest where
  temperatureC := 284 / 10
  voltageV := 281 / 10
  operatingMode := .science
  failureMode := .skipSequence
  temperatureBounds := by norm_num
  voltageBounds := by norm_num

/-- The link after the vendor has started for the forty-second time. -/
def submissionLink : VendorLink where
  host := PayloadHost.perform { file := { initial := some (bootText 41) } } (.restart true true)
  ground := ⟨{ clock := 1784203201000000 }, fun _ => none⟩

/-- The submission has yet to begin. -/
def submissionStart : VendorConfig where
  state := submissionLink
  threads := Function.update (fun _ => none) 0 (some (submitTelemetry sampleVendor goldenTelemetry))

/-- The first handoff is lost, and the second one arrives. -/
def submissionChoices : List LinkChoice :=
  [.frame true 1784203200000000, .identifier 0x00000000000040008000000000000001, .lost,
    .arrives 0 [goldenFrame]]

/-- The handler of the gateway has been started. -/
def submissionSent : VendorConfig :=
  submissionStart.actAll (VendorLink.machine sampleSettings) 0 submissionChoices

/-- The turns of the handler until it has answered. -/
def submissionTurns : List currentMachine.Choice :=
  [1, 1, 2, 2, 2].map fun id => (fun _ => id, ⟨.none, trivial⟩)

/-- The ground after the handler has answered; no call decides on an outdated object. -/
def submissionGround : GroundConfig :=
  submissionSent.state.ground.actAll currentMachine 0 submissionTurns

/-- The answer waits for the vendor. -/
def submissionJudged : VendorConfig where
  state := { submissionSent.state with ground := submissionGround }
  threads := submissionSent.threads

/-- The submission has returned. -/
def submissionAnswered : VendorConfig :=
  submissionJudged.act (VendorLink.machine sampleSettings) 0 .answered

/-- What a submission has returned. -/
def submissionOf (config : VendorConfig) (thread : Nat) : Option Submission :=
  match config.threads thread with
  | some (.done submission) => some submission
  | _ => none

/-- A submission that has returned is done. -/
theorem threads_of_submissionOf {config : VendorConfig} {thread : Nat} {submission : Submission}
    (returned : submissionOf config thread = some submission) :
    config.threads thread = some (.done submission) := by
  -- Only a program that has ended has a submission.
  rw [submissionOf] at returned
  split at returned
  next finished => rw [finished, Option.some.inj returned]
  next => cases returned

/-- A run of the ground is a run of the link. -/
theorem ground_run {system : Machine Nat Failure Request Request.Reply Ground}
    {settings : GroundSettings} {vendor : VendorSettings} {config : VendorConfig}
    {next : GroundConfig}
    (run : Relation.ReflTransGen (Step system (fun _ _ _ => False) Ground.Ticks)
      config.state.ground next) :
    Relation.ReflTransGen (LinkStep system settings vendor) config
      ⟨{ config.state with ground := next }, config.threads⟩ := by
  -- By induction on the run of the ground.
  induction run with
  | refl => exact .refl
  | tail _ step ih => exact ih.tail (.environment (.ground step))

/-- The submission is a run of the link to every ground system that the handler acts in. -/
theorem submission_run {system : Machine Nat Failure Request Request.Reply Ground}
    (judged : Relation.ReflTransGen (Step system (fun _ _ _ => False) Ground.Ticks)
      submissionSent.state.ground submissionGround) :
    Relation.ReflTransGen (LinkStep system sampleSettings sampleVendor)
      (VendorConfig.initial (some (bootText 41))) submissionAnswered := by
  -- The simulator boots, the clock moves, the vendor sends, the ground acts, and the answer comes
  -- back.
  have ticked : Ground.Ticks GroundConfig.initial.state { clock := 1784203201000000 } :=
    ⟨1784203201000000, by decide, rfl⟩
  have linked : Relation.ReflTransGen (LinkStep system sampleSettings sampleVendor)
      (VendorConfig.initial (some (bootText 41))) ⟨submissionLink, fun _ => none⟩ :=
    (Relation.ReflTransGen.single (.environment (.restart true true))).tail
      (.environment (.ground (.environment ticked)))
  have started : Relation.ReflTransGen (LinkStep system sampleSettings sampleVendor)
      (VendorConfig.initial (some (bootText 41))) submissionStart :=
    linked.tail (.start rfl ⟨goldenTelemetry, rfl⟩)
  have sent : Relation.ReflTransGen (LinkStep system sampleSettings sampleVendor) submissionStart
      submissionSent := Config.actAll_run (VendorLink.machine sampleSettings) 0 submissionChoices
      submissionStart
  have answered : Relation.ReflTransGen (LinkStep system sampleSettings sampleVendor)
      submissionSent submissionJudged := ground_run judged
  exact ((started.trans sent).trans answered).trans
    (Config.act_run (VendorLink.machine sampleSettings) 0 LinkChoice.answered submissionJudged)

/-- The handler acts on current objects. -/
theorem submission_current : Relation.ReflTransGen
    (Step currentMachine (fun _ _ _ => False) Ground.Ticks) submissionSent.state.ground
      submissionGround :=
  Config.actAll_run currentMachine 0 submissionTurns submissionSent.state.ground

/-- So it acts in the ground system as it is. -/
theorem submission_acted : Relation.ReflTransGen
    (Step groundMachine (fun _ _ _ => False) Ground.Ticks) submissionSent.state.ground
      submissionGround :=
  Relation.ReflTransGen.mono (fun _ _ => Step.of_restrict) _ _ submission_current

/-- A frame whose first handoff was lost is accepted under its identifier. -/
theorem resent_frame_judged_once :
    ∃ receipt ∈ submissionAnswered.state.ground.state.database.receipts,
      receipt.rawBody = goldenFrame ∧ receipt.validationStatus = .accepted ∧
        receipt.validationStatus ≠ .conflict := by
  -- The receipt is evaluated.
  have shown : (submissionAnswered.state.ground.state.database.receipts.get? 1).map (fun receipt =>
      (receipt.rawBody, receipt.validationStatus)) = some (goldenFrame, .accepted) := by
    decide +kernel
  obtain ⟨receipt, stored, same⟩ := Option.map_eq_some_iff.mp shown
  obtain ⟨body, status⟩ := Prod.mk.inj same
  have member := (Table.get?_eq_some.mp stored).1
  exact ⟨receipt, member, body, status,
    (frames_judged_once sampleSettings sampleVendor _ submissionAnswered
      (submission_run submission_acted) receipt member).1⟩

/--
Retries of the vendor are exact.

However many submissions run at a time, all handoffs under one request identifier are the same
request, there are at most three of them, and none is made under an identifier that was not drawn for
it. Each carries the bytes of a frame of the simulator, damaged by a failure mode at most.
-/
theorem handoffs_repeated_exactly (settings : GroundSettings) (vendor : VendorSettings)
    (boot : Option Bytes) (config : VendorConfig)
    (run : Relation.ReflTransGen (VendorStep settings vendor) (VendorConfig.initial boot) config)
    (handoff : Handoff) (member : handoff ∈ config.state.handoffs) :
    ((∀ other ∈ config.state.handoffs, other.requestId = handoff.requestId → other = handoff) ∧
      (config.state.handoffs.filter (·.requestId = handoff.requestId)).length ≤ 3) ∧
    ∃ id ∈ config.state.identifiers, canonicalUuid4 (some handoff.requestId) = some id ∧
      ∃ mode, ∃ answer ∈ config.state.host.returned,
        handoff.content = applyWireFailure answer.1 mode := by
  -- The handoffs under an identifier are copies of one, and their number is the count of attempts.
  have good := (VendorLink.sound_of_run run).1
  obtain ⟨id, drawn, sent, ⟨mode, answer, returned, rfl⟩, rfl⟩ := good.handoffs handoff member
  refine ⟨⟨fun other among same => good.same_handoff among member same, ?_⟩, id, drawn, ?_, mode,
    answer, returned, rfl⟩
  · obtain ⟨repeated, count, few, times⟩ := good.repeated id
    show (config.state.under id).length ≤ 3
    rw [times, List.length_replicate]
    exact few
  · exact canonicalUuid4_eq_some_iff.mpr ⟨rfl, good.versions id drawn⟩

/-- A frame whose first handoff was lost was handed off twice. -/
theorem resent_frame_repeated : ∃ handoff ∈ submissionAnswered.state.handoffs,
    handoff.content = goldenFrame ∧
      (submissionAnswered.state.handoffs.filter (·.requestId = handoff.requestId)).length ≤ 3 := by
  -- The first handoff is evaluated.
  have shown : submissionAnswered.state.handoffs.head?.map (·.content) = some goldenFrame := by
    decide +kernel
  obtain ⟨handoff, first, content⟩ := Option.map_eq_some_iff.mp shown
  have member := List.mem_of_head? first
  exact ⟨handoff, member, content, (handoffs_repeated_exactly sampleSettings sampleVendor _
    submissionAnswered (submission_run submission_acted) handoff member).1.2⟩

/-- A handoff of a frame with the right token is not refused at the boundary. -/
theorem boundedBody_arriving {settings : GroundSettings} {vendor : VendorSettings} {raw : Bytes}
    {id : UUID} {chunks : List Bytes} (whole : chunks.flatten = raw) (length : raw.length = 28)
    (room : 28 ≤ settings.maxTelemetryBodyBytes) :
    boundedBody ((vendor.handoff raw id).arriving chunks) settings.maxTelemetryBodyBytes =
      .ok raw := by
  -- The length in the header is that of the body, which has the size of a frame.
  subst whole
  have size : ((vendor.handoff chunks.flatten id).arriving chunks).body.length = 28 := length
  refine boundedBody_eq (size.trans_le room) fun text same => ?_
  have shown : String.ofList (formatDecimal 1 (chunks.flatten.length : Int)) = text :=
    Option.some.inj same
  rw [size, ← shown, length]
  decide

/-- The rules of the format have other names than those of the headers. -/
theorem TelemetryRejectionReason.value_ne_header (reason : TelemetryRejectionReason) :
    ¬(reason.value = "INVALID_CONTENT_TYPE" ∨ reason.value = "INVALID_REQUEST_ID") := by
  -- The reasons are finitely many, and each is compared.
  cases reason <;> decide

/-- Where no call decides on an outdated object, what lasts is true for good. -/
theorem lasts_of_run {assign : Nat → Process} {fact : Ground → Prop}
    (lasting : Lasting Ground.Later fact) {earlier config : GroundConfig}
    (early : Relation.ReflTransGen (AssignedStep currentMachine assign) .initial earlier)
    (late : Relation.ReflTransGen (AssignedStep currentMachine assign) earlier config)
    (held : fact earlier.state) : fact config.state := by
  have kept : ∀ thread, Kept groundProtocol thread fact :=
    fun _ before after held later _ => lasting before after held later
  -- By induction on the run since then; every step of it is one of a sound system.
  induction late with
  | refl => exact held
  | tail past step ih =>
    refine (delivered_of_run (early.trans past)).step_keeps kept (fun before after valid ticks => ?_)
      (Step.fresh step) ih
    obtain ⟨agreed, later⟩ := valid.tick ticks
    exact ⟨agreed, fun _ => later⟩

/-- A link to the ground without outdated objects is a link to the ground. -/
theorem VendorLink.Good.current {settings : GroundSettings} {vendor : VendorSettings}
    {link : VendorLink} (good : link.Good currentMachine settings vendor) :
    link.Good groundMachine settings vendor :=
  { good with run := fun assign agrees =>
      Relation.ReflTransGen.mono (fun _ _ => Step.of_restrict) _ _ (good.run assign agrees) }

/--
What a submission returns is true of the tables from then on.

No call of the gateway decides on an object whose row has changed since it was loaded. Where the tokens
agree and the bound of the gateway leaves room for a frame, a submission that returns
reports 200, 202, 422, 500 or 503. With one of the first three it names a receipt that holds the bytes
that were sent. After 200 and 202 the frame was undamaged, its packet has the message identifier and
its job has been queued; after 422 the receipt is rejected for the damage or for a sample too far
ahead.
-/
theorem submissions_truthful (settings : GroundSettings) (vendor : VendorSettings)
    (boot : Option Bytes) (config : VendorConfig)
    (run : Relation.ReflTransGen (LinkStep currentMachine settings vendor)
      (VendorConfig.initial boot) config)
    (tokens : vendor.vendorToken = settings.vendorToken)
    (room : 28 ≤ settings.maxTelemetryBodyBytes) (thread : Nat) (submission : Submission)
    (returned : config.threads thread = some (.done submission)) :
    ∃ mode, ∃ answer ∈ config.state.host.returned,
      submission.raw = applyWireFailure answer.1 mode ∧ submission.messageId = answer.2 ∧
      (submission.groundStatus = 500 ∨ submission.groundStatus = 503 ∨
        ∃ receipt ∈ config.state.ground.state.database.receipts,
          receipt.rawBody = submission.raw ∧
          submission.groundResponse.lookup "receipt_id" = some (.text receipt.receiptId.str) ∧
          ((submission.groundStatus = 200 ∨ submission.groundStatus = 202) ∧
              mode.breaks = none ∧ receipt.logicalPacketId = some submission.messageId ∧
              Durable config.state.ground.state.database submission.raw ∨
            submission.groundStatus = 422 ∧ receipt.validationStatus = .rejected ∧
              ∃ reason : TelemetryRejectionReason, mode.Explains reason ∧
                receipt.rejectionReason = some reason.value)) := by
  obtain ⟨good, backed⟩ := VendorLink.sound_of_run run
  obtain ⟨⟨mode, answer, member, same⟩, id, drawn, -, told, tells, code, body⟩ :=
    backed thread _ returned submission rfl
  obtain ⟨raw, messageId⟩ := Prod.mk.inj same
  refine ⟨mode, answer, member, raw, messageId, ?_⟩
  rcases tells with ⟨chunks, place, response, whole, rfl, given, ran⟩ | rfl
  · replace whole : chunks.flatten = submission.raw := whole
    have agrees := config.state.agrees_process
    obtain ⟨earlier, early, finished, late⟩ := ran _ agrees
    -- What the handler has answered is true of the tables from then on.
    have reported := lasts_of_run (Process.lasting_reported _ _) early late
      ((reported_of_run early).2 place _ finished (some response) rfl)
    have answered := lasts_of_run (Process.lasting_answered _ _) early late
      ((delivered_of_run early).2 place _ finished (some response) rfl)
    have cross := (delivered_of_run (early.trans late)).1
    rw [agrees place _ given] at reported answered
    replace good := good.current
    rw [code, body]
    cases reported with
    | unavailable status => exact Or.inr (Or.inl status)
    | unauthorized _ _ wrong => exact absurd (congrArg some tokens) wrong
    | unbounded _ _ refused =>
      obtain ⟨frames, numbered⟩ := good.numbered
      obtain ⟨frame, -, encoded, -⟩ := numbered.carries member
      have length : submission.raw.length = 28 := raw ▸ applyWireFailure_length encoded mode
      rw [boundedBody_arriving whole length room] at refused
      cases refused
    | recorded record =>
      obtain ⟨row, ⟨-, found, among, evidence, verdict⟩, bytes, named, tells⟩ := record
      have key : found.receiptId = row.receiptId := congrArg (·.receiptId) evidence
      have content : found.rawBody = submission.raw :=
        ((congrArg (·.rawBody) evidence).trans bytes).trans whole
      refine Or.inr (Or.inr ⟨found, among, content, key ▸ named, ?_⟩)
      obtain ⟨request, receivedAt, posted, -, deserves⟩ := good.judged among
      have sent : request.body = applyWireFailure answer.1 mode :=
        (deserves.brought.body.trans content).trans raw
      cases tells.congr verdict with
      | conflict _ status => exact absurd status (good.unconflicted among)
      | taken success status packetId names =>
        obtain ⟨-, packet, names', frame, decodes, brings⟩ :=
          deserves.found (status.imp_right Or.inl)
        rw [sent] at decodes
        obtain ⟨breaks, named⟩ := good.names member ⟨receivedAt, frame, decodes, brings⟩
        refine Or.inl ⟨success, breaks, ?_, whole ▸ cross.durable (answered success)⟩
        rw [names', messageId, named]
      | rejected reason status rejected given =>
        obtain ⟨complaint, complains, same⟩ := deserves.rejected rejected
        rw [good.complaint posted, sent] at complains
        obtain ⟨broken, rfl, explained⟩ := good.explains member complains
        obtain rfl : reason = broken.value := Option.some.inj (given.symm.trans same)
        exact Or.inr ⟨status.resolve_right fun header => broken.value_ne_header header.2, rejected,
          broken, explained, same⟩
  · exact Or.inl code

/-- The submission of the golden vector returns 202, and its frame is in the tables. -/
theorem resent_frame_told : ∃ submission, submissionOf submissionAnswered 0 = some submission ∧
    submission.groundStatus = 202 ∧ submission.messageId = "TLM-P01-B0000002A-S00000001" ∧
      Durable submissionAnswered.state.ground.state.database submission.raw := by
  -- The submission is evaluated; of the outcomes only the acceptance answers 202.
  have shown : (submissionOf submissionAnswered 0).map (fun submission =>
      (submission.groundStatus, submission.messageId)) =
        some (202, "TLM-P01-B0000002A-S00000001") := by decide +kernel
  obtain ⟨submission, returned, same⟩ := Option.map_eq_some_iff.mp shown
  obtain ⟨status, messageId⟩ := Prod.mk.inj same
  refine ⟨submission, returned, status, messageId, ?_⟩
  obtain ⟨_, _, _, -, -, outcome⟩ := submissions_truthful sampleSettings sampleVendor _
    submissionAnswered (submission_run submission_current) rfl (by decide) 0 submission
    (threads_of_submissionOf returned)
  rw [status] at outcome
  rcases outcome with other | other | ⟨_, -, -, -, ⟨-, -, -, durable⟩ | ⟨other, -⟩⟩
  · cases other
  · cases other
  · exact durable
  · cases other

end Cislunar
