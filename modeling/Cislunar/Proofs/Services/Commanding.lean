import Cislunar.Foundation.Turns
import Cislunar.Proofs.Services.Mission

/-!
What the operators may rely on when they command the spacecraft.

Commands reach it only with their authority, it does nothing without them, what the ground says of a
command is true, and no history keeps a new command from being carried out.
-/

namespace Cislunar

open Foundation SpaceLink

namespace Mission

variable {settings : MissionSettings} {posts : Posts}

/--
Every datagram on the command link carries a command that was authorized and armed.

Handlers interleave in any order, fail, crash and are given their messages again and again, and either
link loses, repeats and reorders what is sent on it. Whatever the ground has sent then decodes to a
command that an operator has posted live with both tokens, whose name is in the table and whose
argument is in its range, which has a row in the database and whose creation has been audited.
-/
theorem uplink_authorized (settings : MissionSettings) (posts : Posts) (config : MissionConfig)
    (run : Relation.ReflTransGen (MissionStep settings posts) MissionConfig.initial config)
    (raw : Bytes) (sent : raw ∈ config.state.path.uplink) :
    ∃ (frame : CommandFrame) (request : CommandRequest) (definition : CommandDefinition)
      (row : CommandRow), decodeCommand raw = .ok frame ∧
      posts request (some settings.operatorToken) (some settings.commandArmToken) ∧
      request.dryRun = false ∧ commands.lookup request.name = some definition ∧
      frame.opcode = definition.opcode ∧ frame.argument = request.argument ∧
      definition.minimum ≤ frame.argument ∧ frame.argument ≤ definition.maximum ∧
      config.state.path.commands frame.commandId = some row ∧ Serves row request ∧
      createdAudit frame.commandId request ∈ config.state.path.auditEvents := by
  -- The datagram carries a published event, and events are published when they were authorized.
  have sane := sane_of_run run
  obtain ⟨event, published, issuedNs, encoded⟩ := sane.uplink raw sent
  obtain ⟨request, row, definition, posted, live, valid, same, present, serves, audited⟩ :=
    sane.messages _ published
  obtain ⟨listed, within⟩ := validateCommand_eq_ok.mp valid
  have opcode : event.opcode = definition.opcode := by rw [same]
  have argument : event.argument = request.argument := by rw [same]
  refine ⟨_, request, definition, row, decodeCommand_encodeCommand encoded, posted, live, listed,
    opcode, argument, ?_, ?_, present, serves, audited⟩
  · exact within.1.trans_eq argument.symm
  · exact argument.trans_le within.2

/-- A control that was set has the argument of a live command that was posted with both tokens. -/
theorem SetBy.posted {mission : Mission} (sane : Sane settings posts mission) {name : String}
    {initial value : Int} (set : SetBy mission name initial value) :
    value = initial ∨ ∃ request definition,
      posts request (some settings.operatorToken) (some settings.commandArmToken) ∧
      request.dryRun = false ∧ request.name = name ∧ request.argument = value ∧
      commands.lookup name = some definition ∧ definition.minimum ≤ value ∧
      value ≤ definition.maximum := by
  -- What set the control is a published event, which was authorized.
  rcases set with unset | ⟨event, published, rfl, rfl⟩
  · exact .inl unset
  · obtain ⟨request, row, definition, posted, live, valid, same, -, -, -⟩ :=
      sane.messages _ published
    obtain ⟨listed, within⟩ := validateCommand_eq_ok.mp valid
    have argument : request.argument = event.argument := by rw [same]
    have name : request.name = event.name := by rw [same]
    rw [argument] at within
    rw [name] at listed
    exact .inr ⟨request, definition, posted, live, name, argument, listed, within⟩

/--
The spacecraft does what it was commanded to do and nothing else.

In every run its mode and its wheel speed are those it started with or those that a live command set
which was posted with both tokens, so they never leave their ranges; its fault flags are clear or show
an anomaly. It has rejected no command, and every answer it remembers is that to a live command that
was posted with both tokens.
-/
theorem spacecraft_obeys (settings : MissionSettings) (posts : Posts) (config : MissionConfig)
    (run : Relation.ReflTransGen (MissionStep settings posts) MissionConfig.initial config) :
    let spacecraft := config.state.spacecraft
    ((0 ≤ spacecraft.mode ∧ spacecraft.mode ≤ 3) ∧
        (-6000 ≤ spacecraft.wheelRpm ∧ spacecraft.wheelRpm ≤ 6000) ∧
        (spacecraft.faultFlags = 0 ∨ spacecraft.faultFlags = 1)) ∧
      (spacecraft.mode = 1 ∨ ∃ request,
        posts request (some settings.operatorToken) (some settings.commandArmToken) ∧
        request.dryRun = false ∧ request.name = "SET_MODE" ∧
        request.argument = spacecraft.mode) ∧
      (spacecraft.wheelRpm = 1200 ∨ ∃ request,
        posts request (some settings.operatorToken) (some settings.commandArmToken) ∧
        request.dryRun = false ∧ request.name = "SET_WHEEL_RPM" ∧
        request.argument = spacecraft.wheelRpm) ∧
      ∀ commandId ack, spacecraft.commandResults commandId = some ack →
        ack.commandId = commandId ∧ ack.status = 0 ∧ ∃ request row,
          posts request (some settings.operatorToken) (some settings.commandArmToken) ∧
          request.dryRun = false ∧ request.argument = ack.appliedValue ∧
          config.state.path.commands commandId = some row ∧ Serves row request := by
  -- Each control is as at the start or was set by a command whose argument is in its range.
  have sane := sane_of_run run
  have table : commands.lookup "SET_MODE" = some ⟨1, 0, 3⟩ ∧
      commands.lookup "SET_WHEEL_RPM" = some ⟨2, -6000, 6000⟩ := by decide
  have mode := sane.spacecraft.mode.posted sane
  have wheel := sane.spacecraft.wheelRpm.posted sane
  refine ⟨⟨?_, ?_, sane.spacecraft.faultFlags⟩, ?_, ?_, fun commandId ack known => ?_⟩
  · rcases mode with start | ⟨request, definition, -, -, -, -, listed, low, high⟩
    · rw [start]
      decide
    · rw [table.1] at listed
      cases listed
      exact ⟨low, high⟩
  · rcases wheel with start | ⟨request, definition, -, -, -, -, listed, low, high⟩
    · rw [start]
      decide
    · rw [table.2] at listed
      cases listed
      exact ⟨low, high⟩
  · rcases mode with start | ⟨request, -, posted, live, name, argument, -⟩
    · exact .inl start
    · exact .inr ⟨request, posted, live, name, argument⟩
  · rcases wheel with start | ⟨request, -, posted, live, name, argument, -⟩
    · exact .inl start
    · exact .inr ⟨request, posted, live, name, argument⟩
  · obtain ⟨rfl, event, published, same, accepted, applied⟩ := sane.memory commandId ack known
    obtain ⟨request, row, definition, posted, live, -, event_eq, present, serves, -⟩ :=
      sane.messages _ published
    rw [same] at present
    exact ⟨rfl, accepted, request, row, posted, live, by rw [applied, event_eq], present, serves⟩

/--
What the database says of a command is true.

In every run a row says that it was a dry run if and only if it is one, no row says that a command was
rejected, and a row that says that its command was acknowledged stands for an acknowledgement that
the spacecraft has sent, with the status of an accepted command and the argument of the row.
-/
theorem status_truthful (settings : MissionSettings) (posts : Posts) (config : MissionConfig)
    (run : Relation.ReflTransGen (MissionStep settings posts) MissionConfig.initial config)
    (commandId : Int) (row : CommandRow)
    (present : config.state.path.commands commandId = some row) :
    (row.status = .dryRunValidated ↔ row.dryRun = true) ∧ row.status ≠ .rejected ∧
      (row.status = .acked →
        row.statusDetail = some ("spacecraft applied_value=" ++ shown row.argument) ∧
        ∃ raw ∈ config.state.downlink, ∃ packet ack, decodeSpacePacket raw = .ok packet ∧
          decodeAck packet = .ok ack ∧ ack.commandId = commandId ∧ ack.status = 0 ∧
          ack.appliedValue = row.argument) := by
  -- Each part is read off the invariant of rows.
  have standing := (sane_of_run run).rows commandId row present
  refine ⟨⟨fun validated => ?_, standing.dry⟩, standing.unrejected, fun acked => ?_⟩
  · cases dry : row.dryRun with
    | true => rfl
    | false => exact absurd validated (standing.live dry)
  · obtain ⟨detail, ack, ⟨raw, sent, packet, decoded, read⟩, same, accepted, applied⟩ :=
      standing.acked acked
    exact ⟨detail, raw, sent, packet, ack, decoded, read, same, accepted, applied⟩

section Completion
variable {thread : Nat}

/-- A request that reaches its service is answered with its effect. -/
theorem callPath_runs {request : PathRequest} {mission : Mission} {answer : request.Reply}
    {path : CommandPath} (choice : PathChoice) (reachable : choice.fault = .none)
    (effect : mission.path.effect choice request = some (answer, path)) :
    Runs (machine.Does thread) (callPath request) mission (.ok answer)
      { mission with path := path } := by
  -- Without a fault the answer is that of the effect.
  refine Runs.call ⟨choice, ?_⟩
  show (Option.map _ (Option.map _ _)) = _
  rw [effect, Option.map_some, reachable]
  rfl

/-- The path after a live request was accepted. -/
def accepted (path : CommandPath) (commandId : Int) (request : CommandRequest)
    (definition : CommandDefinition) : CommandPath where
  commands := Function.update path.commands commandId
    (some ⟨request.name, request.argument, false, .queued, request.operatorId, none⟩)
  auditEvents := path.auditEvents ++ [createdAudit commandId request]
  stream := path.stream ++ [.dispatch ⟨commandId, request.name, definition.opcode, request.argument,
    request.operatorId⟩]
  uplink := path.uplink

/-- A live request with both tokens is accepted. -/
theorem createCommand_runs {mission : Mission} {commandId : Int} {request : CommandRequest}
    {definition : CommandDefinition} (live : request.dryRun = false)
    (valid : validateCommand request.name request.argument = .ok definition)
    (fresh : mission.path.commands commandId = none) :
    Runs (machine.Does thread) (PathProcess.createCommand settings request
        (some settings.operatorToken) (some settings.commandArmToken)).program mission (.ok ())
      { mission with path := accepted mission.path commandId request definition } := by
  -- The tokens agree and the identifier is free, so the row, its audit and its event are made in
  -- turn.
  let row : CommandRow := ⟨request.name, request.argument, false, .queued, request.operatorId, none⟩
  have inserted : mission.path.effect { commandId := commandId } (.insertCommand row) =
      some (commandId, { mission.path with
        commands := Function.update mission.path.commands commandId (some row) }) := by
    rw [CommandPath.effect, fresh]
  have handled : Runs (machine.Does thread) (createCommand settings request
      (some settings.operatorToken) (some settings.commandArmToken)) mission (.ok commandId)
      { mission with path := accepted mission.path commandId request definition } := by
    rw [createCommand, valid]
    show Runs _ (if _ then _ else if _ then _ else _) _ _ _
    rw [if_neg (fun wrong => wrong.2 rfl), if_neg (fun wrong => wrong.2 rfl), live]
    refine Runs.bind (callPath_runs _ rfl inserted) ?_
    refine Runs.bind (callPath_runs {} rfl rfl) ?_
    exact Runs.bind (callPath_runs {} rfl rfl) (.done _ _)
  exact Runs.bind handled (.done () _)

/-- The path after a command was sent and reported. -/
def dispatched (path : CommandPath) (settings : MissionSettings) (event : DispatchEvent)
    (raw : Bytes) : CommandPath :=
  { path with
    uplink := path.uplink ++ [raw]
    stream := path.stream ++ [.status ⟨event.commandId, .dispatched, some ("UDP target " ++
      settings.commandTargetHost ++ ":" ++ shown settings.commandTargetPort)⟩] }

/-- A command that can be packed is sent. -/
theorem dispatchCommand_runs {mission : Mission} {event : DispatchEvent} {nowNs : Int} {raw : Bytes}
    (encoded : encodeCommand ⟨event.commandId, event.opcode, event.argument, nowNs⟩ = .ok raw) :
    Runs (machine.Does thread) (PathProcess.dispatchCommand settings event).program mission (.ok ())
      { mission with path := dispatched mission.path settings event raw } := by
  -- The time, the datagram, the report and the settlement, one after the other.
  refine Runs.tryCatch _ ?_
  refine Runs.bind (callPath_runs { nowNs := nowNs } rfl rfl) ?_
  dsimp only
  rw [encoded]
  refine Runs.bind (Runs.ofExcept _ _) ?_
  refine Runs.bind (callPath_runs {} rfl rfl) ?_
  refine Runs.bind (callPath_runs {} rfl rfl) ?_
  exact callPath_runs {} rfl rfl

/-- The message that is published of an acknowledgement. -/
def envelopeOf (packet : SpacePacket) (ack : CommandAck) : AckEnvelope :=
  ⟨packet.apid, packet.sequenceCount, 0, "", ack⟩

/-- An acknowledgement that is heard is published. -/
theorem ingestDatagram_runs {mission : Mission} {raw : Bytes} {packet : SpacePacket} {ack : CommandAck}
    (decoded : decodeSpacePacket raw = .ok packet) (read : decodeAck packet = .ok ack) :
    Runs (machine.Does thread) (PathProcess.ingestDatagram raw "").program mission (.ok ())
      { mission with path := { mission.path with
        stream := mission.path.stream ++ [.commandAck (envelopeOf packet ack)] } } := by
  -- The packet decodes as an acknowledgement, which has its APID.
  have kind : packet.apid = apidCommandAck := by
    rw [decodeAck, check_bind_eq_ok] at read
    exact check_eq_ok.mp read.1
  refine Runs.tryCatch _ ?_
  rw [decoded]
  refine Runs.bind (Runs.ofExcept _ _) ?_
  refine Runs.bind (callPath_runs {} rfl rfl) ?_
  rw [if_pos kind, read]
  refine Runs.bind (Runs.ofExcept _ _) ?_
  exact callPath_runs {} rfl rfl

/-- The row of a command that the spacecraft has acknowledged. -/
def settled (row : CommandRow) (ack : CommandAck) : CommandRow :=
  { row with
    status := .acked
    statusDetail := some ("spacecraft applied_value=" ++ shown ack.appliedValue) }

/-- The path after a command was acknowledged. -/
def acknowledged (path : CommandPath) (envelope : AckEnvelope) (row : CommandRow) : CommandPath :=
  { path with
    commands := Function.update path.commands envelope.data.commandId
      (some (settled row envelope.data))
    auditEvents := path.auditEvents ++ [⟨"spacecraft", "COMMAND_ACK", "command",
      shown envelope.data.commandId, .message (.commandAck envelope)⟩] }

/-- A row that is there is acknowledged. -/
theorem processAck_runs {mission : Mission} {envelope : AckEnvelope} {row : CommandRow}
    (present : mission.path.commands envelope.data.commandId = some row)
    (positive : envelope.data.status = 0) :
    Runs (machine.Does thread) (PathProcess.processAck envelope).program mission (.ok ())
      { mission with path := acknowledged mission.path envelope row } := by
  -- The update, the audit and the settlement, one after the other.
  have updated : mission.path.effect {} (.updateCommand .acked
      (some ("spacecraft applied_value=" ++ shown envelope.data.appliedValue))
      envelope.data.commandId) = some (1, { mission.path with
        commands := Function.update mission.path.commands envelope.data.commandId
          (some (settled row envelope.data)) }) := by
    rw [CommandPath.effect, present]
    rfl
  refine Runs.tryCatch _ ?_
  rw [if_pos positive]
  refine Runs.bind (callPath_runs _ rfl updated) ?_
  refine Runs.bind (callPath_runs {} rfl rfl) ?_
  exact callPath_runs {} rfl rfl

/-- A new command is executed, remembered and acknowledged. -/
theorem receive_new (mission : Mission) (nowNs : Int) {raw : Bytes} {frame : CommandFrame}
    (decoded : decodeCommand raw = .ok frame)
    (fresh : mission.spacecraft.commandResults frame.commandId = none)
    (fits : List.Forall₂ Struct.Code.Holds ackPayload [frame.commandId,
      (mission.spacecraft.toControls.execute frame).1, frame.argument, nowNs])
    (count : 0 ≤ mission.spacecraft.ackSequence ∧ mission.spacecraft.ackSequence ≤ maxSequence) :
    ∃ rawAck packet, (mission.receive nowNs raw).downlink = mission.downlink ++ [rawAck] ∧
      decodeSpacePacket rawAck = .ok packet ∧
      decodeAck packet = .ok ⟨frame.commandId, (mission.spacecraft.toControls.execute frame).1,
        frame.argument, nowNs⟩ ∧
      (mission.receive nowNs raw).path = mission.path ∧
      (mission.receive nowNs raw).spacecraft.toControls =
        (mission.spacecraft.toControls.execute frame).2 ∧
      (mission.receive nowNs raw).spacecraft.commandResults frame.commandId =
        some ⟨frame.commandId, (mission.spacecraft.toControls.execute frame).1, frame.argument,
          nowNs⟩ := by
  -- The command is executed as it is not remembered, and its acknowledgement can be packed.
  let ack : CommandAck := ⟨frame.commandId, (mission.spacecraft.toControls.execute frame).1,
    frame.argument, nowNs⟩
  obtain ⟨rawAck, encoded, chained⟩ := @decodeAck_encodeAck mission.spacecraft.ackSequence ack count fits
  obtain ⟨packet, framed, read⟩ := bind_eq_ok.mp chained
  have applied : mission.spacecraft.apply nowNs raw = (.ok ack, { mission.spacecraft with
      toControls := (mission.spacecraft.toControls.execute frame).2
      commandResults := Function.update mission.spacecraft.commandResults frame.commandId
        (some ack) }) := by
    rw [SpacecraftState.apply, decoded]
    dsimp only
    rw [fresh]
  have sent : mission.receive nowNs raw = { mission with
      spacecraft := { mission.spacecraft with
        toControls := (mission.spacecraft.toControls.execute frame).2
        ackSequence := Int.land (mission.spacecraft.ackSequence + 1) 0x3FFF
        commandResults := Function.update mission.spacecraft.commandResults frame.commandId
          (some ack) }
      downlink := mission.downlink ++ [rawAck] } := by
    rw [receive, SpacecraftState.datagramReceived, applied]
    dsimp only
    rw [encoded]
    rfl
  rw [sent]
  exact ⟨rawAck, packet, rfl, framed, read, rfl, rfl, Function.update_self ..⟩

end Completion

/--
Whatever has happened, a new command can still be carried out.

From every state that a run can reach, a live request that is valid and presents both tokens, under
any identifier that the database has not used and a frame can hold, has a continuation in which it is
created, dispatched, executed and acknowledged. The controls of the spacecraft are then those that
executing its frame on the controls before leads to.
-/
theorem command_completes (settings : MissionSettings) (posts : Posts) (config : MissionConfig)
    (run : Relation.ReflTransGen (MissionStep settings posts) MissionConfig.initial config)
    (request : CommandRequest) (definition : CommandDefinition) (commandId nowNs : Int)
    (posted : posts request (some settings.operatorToken) (some settings.commandArmToken))
    (live : request.dryRun = false)
    (valid : validateCommand request.name request.argument = .ok definition)
    (fresh : config.state.path.commands commandId = none)
    (range : 0 ≤ commandId ∧ commandId < 2 ^ 32) (clock : 0 ≤ nowNs ∧ nowNs < 2 ^ 64) :
    ∃ later, Relation.ReflTransGen (MissionStep settings posts) config later ∧
      (∃ row, later.state.path.commands commandId = some row ∧ Serves row request ∧
        row.status = .acked) ∧
      (∃ ack, later.state.spacecraft.commandResults commandId = some ack ∧ ack.status = 0 ∧
        ack.appliedValue = request.argument) ∧
      later.state.spacecraft.toControls = (config.state.spacecraft.toControls.execute
        ⟨commandId, definition.opcode, request.argument, nowNs⟩).2 := by
  have sane := sane_of_run run
  have bounded : config.Bounded := Config.Bounded.run ⟨0, fun _ _ => rfl⟩ run
  obtain ⟨listed, within⟩ := validateCommand_eq_ok.mp valid
  let event : DispatchEvent :=
    ⟨commandId, request.name, definition.opcode, request.argument, request.operatorId⟩
  let frame : CommandFrame := ⟨commandId, definition.opcode, request.argument, nowNs⟩
  -- The spacecraft has not met the identifier, since what it remembers has a row.
  have unmet : config.state.spacecraft.commandResults commandId = none := by
    cases known : config.state.spacecraft.commandResults commandId with
    | none => rfl
    | some ack =>
      obtain ⟨same, other, published, named, -⟩ := sane.memory commandId ack known
      obtain ⟨_, row, _, -, -, -, -, present, -⟩ := sane.messages _ published
      rw [named, same, fresh] at present
      cases present
  have clockFits : Struct.Code.uint64.Holds nowNs := by
    show 0 ≤ nowNs ∧ nowNs < 0 + 256 ^ 8
    omega
  have fits : List.Forall₂ Struct.Code.Holds [.uint32, .uint8, .int32, .uint64]
    [commandId, definition.opcode, request.argument, 0] := frame_fits listed within range
  obtain _ | ⟨idFits, _ | ⟨opcodeFits, _ | ⟨argumentFits, _⟩⟩⟩ := fits
  obtain ⟨raw, encoded⟩ := @exists_encodeCommand frame
    (.cons idFits (.cons opcodeFits (.cons argumentFits (.cons clockFits .nil))))
  -- The command is created and dispatched.
  let path₁ := accepted config.state.path commandId request definition
  let path₂ := dispatched path₁ settings event raw
  obtain ⟨config₁, run₁, at₁, bounded₁⟩ : ∃ config₁,
      Relation.ReflTransGen (MissionStep settings posts) config config₁ ∧
      config₁.state = { config.state with path := path₁ } ∧ config₁.Bounded :=
    bounded.completes rfl (fun _ => ⟨.createCommand settings request _ _, ⟨rfl, posted⟩, rfl⟩)
      fun _ => createCommand_runs live valid fresh
  obtain ⟨config₂, run₂, at₂, bounded₂⟩ : ∃ config₂,
      Relation.ReflTransGen (MissionStep settings posts) config₁ config₂ ∧
      config₂.state = { config.state with path := path₂ } ∧ config₂.Bounded :=
    bounded₁.completes at₁ (fun _ => ⟨.dispatchCommand settings event,
        ⟨rfl, List.mem_append_right _ (List.mem_singleton.mpr rfl)⟩, rfl⟩)
      fun _ => dispatchCommand_runs encoded
  -- It arrives at a spacecraft that has not met it, which executes and acknowledges it.
  have positive : (config.state.spacecraft.toControls.execute frame).1 = 0 :=
    (execute_accepts_iff listed rfl _).mpr within
  obtain ⟨rawAck, packet, heard, decoded, read, path, controls, remembered⟩ :=
    receive_new { config.state with path := path₂ } nowNs (decodeCommand_encodeCommand encoded) unmet
      (.cons idFits (.cons (by dsimp only; rw [positive]; decide) (.cons argumentFits
        (.cons clockFits .nil)))) sane.spacecraft.ackSequence
  let mission₃ := Mission.receive { config.state with path := path₂ } nowNs raw
  have arrived : MissionStep settings posts config₂ ⟨mission₃, config₂.threads⟩ := by
    refine .environment ?_
    rw [at₂]
    exact .command nowNs (List.mem_append_right _ (List.mem_singleton.mpr rfl))
  -- The acknowledgement is heard, published and written to the row.
  let ack : CommandAck := ⟨commandId, (config.state.spacecraft.toControls.execute frame).1,
    request.argument, nowNs⟩
  let path₄ : CommandPath := { mission₃.path with
    stream := mission₃.path.stream ++ [.commandAck (envelopeOf packet ack)] }
  obtain ⟨config₄, run₄, at₄, bounded₄⟩ : ∃ config₄,
      Relation.ReflTransGen (MissionStep settings posts) ⟨mission₃, config₂.threads⟩ config₄ ∧
      config₄.state = { mission₃ with path := path₄ } ∧ config₄.Bounded := by
    refine Config.Bounded.completes (Config.Bounded.step bounded₂ arrived) rfl
      (fun _ => ⟨.ingestDatagram rawAck "", .inl ?_, rfl⟩) fun _ => ingestDatagram_runs decoded read
    rw [heard]
    exact List.mem_append_right _ (List.mem_singleton.mpr rfl)
  let row : CommandRow := ⟨request.name, request.argument, false, .queued, request.operatorId, none⟩
  have present : path₄.commands commandId = some row := by
    show mission₃.path.commands commandId = some row
    rw [path]
    exact Function.update_self ..
  obtain ⟨config₅, run₅, at₅, -⟩ : ∃ config₅,
      Relation.ReflTransGen (MissionStep settings posts) config₄ config₅ ∧
      config₅.state = { mission₃ with path := acknowledged path₄ (envelopeOf packet ack) row } ∧
      config₅.Bounded :=
    bounded₄.completes at₄ (fun _ => ⟨.processAck (envelopeOf packet ack),
        List.mem_append_right _ (List.mem_singleton.mpr rfl), rfl⟩)
      fun _ => processAck_runs present positive
  refine ⟨config₅, ((run₁.trans run₂).tail arrived).trans (run₄.trans run₅), ?_, ?_, ?_⟩
  · refine ⟨settled row ack, ?_, ⟨rfl, rfl, live.symm, rfl⟩, rfl⟩
    rw [at₅]
    exact Function.update_self ..
  · rw [at₅]
    exact ⟨ack, remembered, positive, rfl⟩
  · rw [at₅]
    exact controls

section Sample

/-- The name that an operator has by default is neither empty nor too long. -/
theorem localOperator_fits : 1 ≤ "local-operator".length ∧ "local-operator".length ≤ 80 := by
  decide

/-- A live request for the third mode. -/
def modeRequest : CommandRequest where
  name := "SET_MODE"
  argument := 2
  dryRun := false
  operatorIdLength := localOperator_fits

/-- Whoever asks for anything has posted it. -/
def anyPosts : Posts := fun _ _ _ => True

/-- What a handler chooses where nothing fails, once for each of its turns. -/
def untroubled (turns : Nat) : List machine.Choice :=
  List.replicate turns ({} : PathChoice)

/-- The creation of the command. -/
def modeCreation : PathProcess :=
  .createCommand {} modeRequest (some "local-operator-token") (some "local-arm-token")

/-- The dispatch of the command. -/
def modeDispatch : PathProcess :=
  .dispatchCommand {} ⟨1, "SET_MODE", 1, 2, "local-operator"⟩

/-- The request is accepted. -/
def modeCreated : MissionConfig :=
  MissionConfig.initial.launch machine 0 modeCreation.program (untroubled 3)

/-- The command is dispatched. -/
def modeDispatched : MissionConfig :=
  modeCreated.launch machine 1 modeDispatch.program (untroubled 4)

/-- The datagram of the command. -/
def modeFrame : Bytes := (encodeCommand ⟨1, 1, 2, 0⟩).toOption.getD []

/-- The command is executed. -/
def modeReceived : MissionConfig :=
  ⟨modeDispatched.state.receive 0 modeFrame, modeDispatched.threads⟩

/-- The datagram of its acknowledgement. -/
def modeAck : Bytes := (encodeAck 0 ⟨1, 0, 2, 0⟩).toOption.getD []

/-- The ingest of the acknowledgement. -/
def modeIngest : PathProcess := .ingestDatagram modeAck ""

/-- The processing of the acknowledgement. -/
def modeProcess : PathProcess := .processAck ⟨101, 0, 0, "", ⟨1, 0, 2, 0⟩⟩

/-- The acknowledgement is heard. -/
def modeHeard : MissionConfig := modeReceived.launch machine 2 modeIngest.program (untroubled 2)

/-- The acknowledgement is written to the row. -/
def modeAcked : MissionConfig := modeHeard.launch machine 3 modeProcess.program (untroubled 3)

/-- The command is created, dispatched, executed and acknowledged in a run of the mission. -/
theorem modeAcked_run :
    Relation.ReflTransGen (MissionStep {} anyPosts) MissionConfig.initial modeAcked := by
  -- Each handler has a place of its own.
  have second : modeCreated.threads 1 = none := by
    rw [modeCreated, Config.launch_other (by omega)]
    rfl
  have unused : ∀ place, 2 ≤ place → modeReceived.threads place = none := by
    intro place later
    rw [modeReceived]
    dsimp only
    rw [modeDispatched, Config.launch_other (by omega), modeCreated,
      Config.launch_other (by omega)]
    rfl
  have fourth : modeHeard.threads 3 = none := by
    rw [modeHeard, Config.launch_other (by omega)]
    exact unused 3 (by decide)
  have created : Relation.ReflTransGen (MissionStep {} anyPosts) MissionConfig.initial modeCreated :=
    Config.launch_run rfl ⟨modeCreation, ⟨rfl, trivial⟩, rfl⟩ _
  have published : BusMessage.dispatch ⟨1, "SET_MODE", 1, 2, "local-operator"⟩ ∈
      modeCreated.state.path.stream := by decide +kernel
  have dispatched : Relation.ReflTransGen (MissionStep {} anyPosts) modeCreated modeDispatched :=
    Config.launch_run second ⟨modeDispatch, ⟨rfl, published⟩, rfl⟩ _
  have sent : modeFrame ∈ modeDispatched.state.path.uplink := by decide +kernel
  have received : MissionStep {} anyPosts modeDispatched modeReceived :=
    .environment (.command 0 sent)
  have answered : modeAck ∈ modeReceived.state.downlink := by decide +kernel
  have heard : Relation.ReflTransGen (MissionStep {} anyPosts) modeReceived modeHeard :=
    Config.launch_run (unused 2 (by decide)) ⟨modeIngest, .inl answered, rfl⟩ _
  have ingested : BusMessage.commandAck ⟨101, 0, 0, "", ⟨1, 0, 2, 0⟩⟩ ∈
      modeHeard.state.path.stream := by decide +kernel
  have acked : Relation.ReflTransGen (MissionStep {} anyPosts) modeHeard modeAcked :=
    Config.launch_run fourth ⟨modeProcess, ingested, rfl⟩ _
  exact ((created.trans dispatched).tail received).trans (heard.trans acked)

end Sample

/-- The datagram of a command for the third mode has a live request and a row behind it. -/
theorem mode_command_authorized : ∃ frame request row, decodeCommand modeFrame = .ok frame ∧
    request.dryRun = false ∧ frame.argument = request.argument ∧
    modeAcked.state.path.commands frame.commandId = some row ∧ Serves row request := by
  -- The run is evaluated for the frame on the uplink only.
  obtain ⟨frame, request, definition, row, decoded, -, live, -, -, argument, -, -, present, serves,
    -⟩ := uplink_authorized {} anyPosts modeAcked modeAcked_run modeFrame (by decide +kernel)
  exact ⟨frame, request, row, decoded, live, argument, present, serves⟩

/-- The spacecraft is in the mode that was asked for. -/
theorem mode_command_obeyed : modeAcked.state.spacecraft.mode = 2 ∧
    ∃ request : CommandRequest, request.dryRun = false ∧ request.name = "SET_MODE" ∧
      request.argument = 2 := by
  -- The mode is evaluated; it is not that of the start, so it was commanded.
  have mode : modeAcked.state.spacecraft.mode = 2 := by decide +kernel
  refine ⟨mode, ?_⟩
  rcases (spacecraft_obeys {} anyPosts modeAcked modeAcked_run).2.1 with
    start | ⟨request, -, live, name, argument⟩
  · rw [mode] at start
    cases start
  · exact ⟨request, live, name, argument.trans mode⟩

/-- The row of the command says so, and the spacecraft has said it. -/
theorem mode_command_truthful : ∃ raw ∈ modeAcked.state.downlink, ∃ packet ack,
    decodeSpacePacket raw = .ok packet ∧ decodeAck packet = .ok ack ∧ ack.commandId = 1 ∧
      ack.status = 0 ∧ ack.appliedValue = 2 := by
  -- The run is evaluated for the row of its command only.
  have stored : modeAcked.state.path.commands 1 = some ⟨"SET_MODE", 2, false, .acked,
      "local-operator", some "spacecraft applied_value=2"⟩ := by decide +kernel
  exact ((status_truthful {} anyPosts modeAcked modeAcked_run 1 _ stored).2.2 rfl).2

/-- After one command another can be completed. -/
theorem second_command_completes : ∃ later,
    Relation.ReflTransGen (MissionStep {} anyPosts) modeAcked later ∧
      later.state.spacecraft.toControls = ⟨0, 1200, 0⟩ := by
  -- The mode command of the first run is followed by a second one; its controls are evaluated.
  obtain ⟨later, run, -, -, controls⟩ := command_completes {} anyPosts modeAcked modeAcked_run
    { name := "SET_MODE", argument := 0, dryRun := false } ⟨1, 0, 3⟩ 2 0 trivial rfl
    (by decide) (by decide +kernel) (by decide) (by decide)
  refine ⟨later, run, controls.trans ?_⟩
  decide +kernel

end Mission

end Cislunar
