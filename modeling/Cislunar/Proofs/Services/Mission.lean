import Cislunar.Foundation.Keeps
import Cislunar.Proofs.Common.Health
import Cislunar.Proofs.Services.SpacecraftSim
import Cislunar.Services.Mission

/-!
What holds of the whole command path, from the operator to the spacecraft and back.

Every datagram that the ground sends stands for a request that was valid, live, authorized and armed.
The spacecraft does nothing else, and what the ground says of a command has been said by it.
-/

namespace Cislunar

open Foundation SpaceLink

namespace Mission

variable {settings : MissionSettings} {posts : Posts}

/-- A row that was inserted for a request. -/
structure Serves (row : CommandRow) (request : CommandRequest) : Prop where
  name : row.name = request.name
  argument : row.argument = request.argument
  dryRun : row.dryRun = request.dryRun
  operatorId : row.operatorId = request.operatorId

/-- The audit event that `create_command` writes. -/
def createdAudit (commandId : Int) (request : CommandRequest) : CommandAudit :=
  ⟨request.operatorId, "COMMAND_CREATED", "command", shown commandId, .request request⟩

/-- A message for the dispatcher that a valid, live, authorized and armed request stands behind. -/
def Authorized (settings : MissionSettings) (posts : Posts) (mission : Mission)
    (event : DispatchEvent) : Prop :=
  ∃ (request : CommandRequest) (row : CommandRow) (definition : CommandDefinition),
    posts request (some settings.operatorToken) (some settings.commandArmToken) ∧
    request.dryRun = false ∧
    validateCommand request.name request.argument = .ok definition ∧
    event = ⟨event.commandId, request.name, definition.opcode, request.argument,
      request.operatorId⟩ ∧
    mission.path.commands event.commandId = some row ∧ Serves row request ∧
    createdAudit event.commandId request ∈ mission.path.auditEvents

/-- What an acknowledgement says agrees with a command that was sent. -/
def Vouched (mission : Mission) (ack : CommandAck) : Prop :=
  ∃ event, .dispatch event ∈ mission.path.stream ∧ event.commandId = ack.commandId ∧
    ack.status = 0 ∧ ack.appliedValue = event.argument

/-- The spacecraft has sent an acknowledgement. -/
def Heard (mission : Mission) (ack : CommandAck) : Prop :=
  ∃ raw ∈ mission.downlink, ∃ packet, decodeSpacePacket raw = .ok packet ∧
    decodeAck packet = .ok ack

/-- What a message of the stream promises. -/
def Honest (settings : MissionSettings) (posts : Posts) (mission : Mission) : BusMessage → Prop
  | .dispatch event => Authorized settings posts mission event
  | .status report => (report.status = .dispatched ∨ report.status = .dispatchError) ∧
      ∃ event, .dispatch event ∈ mission.path.stream ∧ event.commandId = report.commandId
  | .commandAck envelope => Heard mission envelope.data

/-- A datagram that carries a command of the stream. -/
def Carries (mission : Mission) (raw : Bytes) : Prop :=
  ∃ event, .dispatch event ∈ mission.path.stream ∧
    ∃ issuedNs, encodeCommand ⟨event.commandId, event.opcode, event.argument, issuedNs⟩ = .ok raw

/-- What the status of a row tells. -/
structure Standing (mission : Mission) (commandId : Int) (row : CommandRow) : Prop where
  dry : row.dryRun = true → row.status = .dryRunValidated
  live : row.dryRun = false → row.status ≠ .dryRunValidated
  acked : row.status = .acked →
    row.statusDetail = some ("spacecraft applied_value=" ++ shown row.argument) ∧
    ∃ ack, Heard mission ack ∧ ack.commandId = commandId ∧ ack.status = 0 ∧
      ack.appliedValue = row.argument
  unrejected : row.status ≠ .rejected

/-- A control is as it was at the start or as a command of the stream has set it. -/
def SetBy (mission : Mission) (name : String) (initial value : Int) : Prop :=
  value = initial ∨ ∃ event, .dispatch event ∈ mission.path.stream ∧ event.name = name ∧
    event.argument = value

/-- The controls are as commanded, and the next acknowledgement has a number that fits. -/
structure Commanded (mission : Mission) (state : SpacecraftState) : Prop where
  mode : SetBy mission "SET_MODE" 1 state.mode
  wheelRpm : SetBy mission "SET_WHEEL_RPM" 1200 state.wheelRpm
  faultFlags : state.faultFlags = 0 ∨ state.faultFlags = 1
  ackSequence : 0 ≤ state.ackSequence ∧ state.ackSequence ≤ maxSequence

/-- What holds between any two steps of the mission. -/
structure Sane (settings : MissionSettings) (posts : Posts) (mission : Mission) : Prop where
  rows : ∀ commandId row, mission.path.commands commandId = some row →
    Standing mission commandId row
  messages : ∀ message ∈ mission.path.stream, Honest settings posts mission message
  uplink : ∀ raw ∈ mission.path.uplink, Carries mission raw
  memory : ∀ commandId ack, mission.spacecraft.commandResults commandId = some ack →
    ack.commandId = commandId ∧ Vouched mission ack
  downlink : ∀ ack, Heard mission ack → Vouched mission ack
  spacecraft : Commanded mission mission.spacecraft

/-- Nothing that was stored, published or sent is lost. -/
structure Later (before after : Mission) : Prop where
  rows : ∀ commandId row, before.path.commands commandId = some row →
    ∃ later, after.path.commands commandId = some later ∧
      ∀ request, Serves row request → Serves later request
  auditEvents : ∀ audit ∈ before.path.auditEvents, audit ∈ after.path.auditEvents
  stream : ∀ message ∈ before.path.stream, message ∈ after.path.stream
  downlink : ∀ raw ∈ before.downlink, raw ∈ after.downlink

section Monotone
variable {before middle after : Mission}

/-- A mission is later than itself. -/
theorem Later.refl (mission : Mission) : Later mission mission where
  rows _ row present := ⟨row, present, fun _ => id⟩
  auditEvents _ := id
  stream _ := id
  downlink _ := id

/-- Missions grow in several steps. -/
theorem Later.trans (early : Later before middle) (late : Later middle after) :
    Later before after where
  rows commandId row present := by
    -- Every row serves what it served in the middle.
    obtain ⟨kept, among, serves⟩ := early.rows commandId row present
    obtain ⟨last, still, serves'⟩ := late.rows commandId kept among
    exact ⟨last, still, fun request held => serves' request (serves request held)⟩
  auditEvents audit member := late.auditEvents audit (early.auditEvents audit member)
  stream message member := late.stream message (early.stream message member)
  downlink raw member := late.downlink raw (early.downlink raw member)

/-- What was authorized stays authorized. -/
theorem Authorized.later {event : DispatchEvent} (held : Authorized settings posts before event)
    (later : Later before after) : Authorized settings posts after event := by
  -- A row of the command table stays with its request, and audit events stay.
  obtain ⟨request, row, definition, posted, live, valid, same, present, serves, audited⟩ := held
  obtain ⟨kept, among, still⟩ := later.rows _ row present
  exact ⟨request, kept, definition, posted, live, valid, same, among, still request serves,
    later.auditEvents _ audited⟩

/-- What was vouched for stays vouched for. -/
theorem Vouched.later {ack : CommandAck} (held : Vouched before ack) (later : Later before after) :
    Vouched after ack := by
  -- The stream only grows.
  obtain ⟨event, sent, rest⟩ := held
  exact ⟨event, later.stream _ sent, rest⟩

/-- What was heard stays heard. -/
theorem Heard.later {ack : CommandAck} (held : Heard before ack) (later : Later before after) :
    Heard after ack := by
  -- The downlink only grows.
  obtain ⟨raw, sent, rest⟩ := held
  exact ⟨raw, later.downlink raw sent, rest⟩

/-- An honest message stays honest. -/
theorem Honest.later {message : BusMessage} (held : Honest settings posts before message)
    (later : Later before after) : Honest settings posts after message := by
  -- One case per kind of message.
  cases message with
  | dispatch event => exact Authorized.later held later
  | status report =>
    obtain ⟨reported, event, sent, same⟩ := held
    exact ⟨reported, event, later.stream _ sent, same⟩
  | commandAck envelope => exact Heard.later held later

/-- What a datagram carries was published and stays so. -/
theorem Carries.later {raw : Bytes} (held : Carries before raw) (later : Later before after) :
    Carries after raw := by
  -- The stream only grows.
  obtain ⟨event, sent, rest⟩ := held
  exact ⟨event, later.stream _ sent, rest⟩

/-- A row that stands keeps standing. -/
theorem Standing.later {commandId : Int} {row : CommandRow} (held : Standing before commandId row)
    (later : Later before after) : Standing after commandId row where
  dry := held.dry
  live := held.live
  acked settled := by
    obtain ⟨detail, ack, heard, rest⟩ := held.acked settled
    exact ⟨detail, ack, heard.later later, rest⟩
  unrejected := held.unrejected

/-- What set a control was published and stays so. -/
theorem SetBy.later {name : String} {initial value : Int} (held : SetBy before name initial value)
    (later : Later before after) : SetBy after name initial value := by
  -- The stream only grows.
  rcases held with unset | ⟨event, sent, rest⟩
  · exact .inl unset
  · exact .inr ⟨event, later.stream _ sent, rest⟩

/-- The controls stay commanded. -/
theorem Commanded.later {state : SpacecraftState} (held : Commanded before state)
    (later : Later before after) : Commanded after state where
  mode := held.mode.later later
  wheelRpm := held.wheelRpm.later later
  faultFlags := held.faultFlags
  ackSequence := held.ackSequence

/-- The mission stays sane where what is new obeys the rules. -/
theorem Sane.moved (sane : Sane settings posts before) (later : Later before after)
    (rows : ∀ commandId row, after.path.commands commandId = some row →
      before.path.commands commandId = some row ∨ Standing after commandId row)
    (messages : ∀ message ∈ after.path.stream,
      message ∈ before.path.stream ∨ Honest settings posts after message)
    (uplink : ∀ raw ∈ after.path.uplink, raw ∈ before.path.uplink ∨ Carries after raw)
    (memory : ∀ commandId ack, after.spacecraft.commandResults commandId = some ack →
      before.spacecraft.commandResults commandId = some ack ∨
        (ack.commandId = commandId ∧ Vouched after ack))
    (downlink : ∀ ack, Heard after ack → Heard before ack ∨ Vouched after ack)
    (spacecraft : after.spacecraft = before.spacecraft ∨ Commanded after after.spacecraft) :
    Sane settings posts after where
  rows commandId row present := by
    -- What is old keeps its justification.
    rcases rows commandId row present with old | new
    · exact (sane.rows commandId row old).later later
    · exact new
  messages message member := by
    rcases messages message member with old | new
    · exact (sane.messages message old).later later
    · exact new
  uplink raw member := by
    rcases uplink raw member with old | new
    · exact (sane.uplink raw old).later later
    · exact new
  memory commandId ack known := by
    rcases memory commandId ack known with old | new
    · obtain ⟨same, vouched⟩ := sane.memory commandId ack old
      exact ⟨same, vouched.later later⟩
    · exact new
  downlink ack heard := by
    rcases downlink ack heard with old | new
    · exact (sane.downlink ack old).later later
    · exact new
  spacecraft := by
    rcases spacecraft with same | new
    · rw [same]
      exact sane.spacecraft.later later
    · exact new

end Monotone

/-- Threads expect of each other that nothing is lost. -/
def missionProtocol (settings : MissionSettings) (posts : Posts) :
    Protocol Nat PathFailure PathRequest PathRequest.Reply Mission where
  invariant := Sane settings posts
  rely _ := Later
  action _ _ _ _ _ := True
  rely_refl _ := Later.refl
  rely_trans _ _ _ _ := Later.trans

/-- A handler that keeps a fact about the mission. -/
abbrev Handles (settings : MissionSettings) (posts : Posts) {α : Type} (thread : Nat)
    (fact : Mission → Prop) (service : PathService α) (post : α → Mission → Prop) : Prop :=
  Keeps (missionProtocol settings posts) machine thread fact service post

section Handlers
variable {thread : Nat} {fact : Mission → Prop}

/-- A request keeps the mission sane where its effect does. -/
theorem callPath_handles {request : PathRequest} {post : request.Reply → Mission → Prop}
    (lasting : Lasting Later fact)
    (each : ∀ mission, Sane settings posts mission → fact mission → ∀ choice answer path,
      mission.path.effect choice request = some (answer, path) →
        Sane settings posts { mission with path := path } ∧
          Later mission { mission with path := path } ∧ post answer { mission with path := path }) :
    Handles settings posts thread fact (callPath request) post := by
  -- The effect takes place unless the connection fails before it; a connection that fails
  -- afterwards still raises.
  refine Keeps.call (fun before after held moved _ => lasting before after held moved) ?_
  intro before sane held choice reply after performed
  obtain ⟨⟨answered, path⟩, executed, same⟩ := Option.map_eq_some_iff.mp performed
  obtain ⟨rfl, rfl⟩ := Prod.mk.inj same
  obtain ⟨⟨answer, path'⟩, effect, same⟩ := Option.map_eq_some_iff.mp executed
  obtain ⟨sane', later, reached⟩ := each before sane held choice answer path' effect
  cases fault : choice.fault with
  | before =>
    rw [fault] at same
    cases same
    exact ⟨⟨sane, fun _ _ => .refl before, trivial⟩, held, fun _ same => by cases same⟩
  | none =>
    rw [fault] at same
    cases same
    refine ⟨⟨sane', fun _ _ => later, trivial⟩, lasting _ _ held later, fun value same => ?_⟩
    cases same
    exact reached
  | after =>
    rw [fault] at same
    cases same
    exact ⟨⟨sane', fun _ _ => later, trivial⟩, lasting _ _ held later, fun _ same => by cases same⟩

/-- Requests that leave the mission as it is. -/
theorem idle_handles {request : PathRequest} (lasting : Lasting Later fact)
    (idle : ∀ choice path answer path', CommandPath.effect choice path request =
      some (answer, path') → path' = path) :
    Handles settings posts thread fact (callPath request) fun _ _ => True := by
  -- The path stays, so the mission does.
  refine callPath_handles lasting fun mission sane held choice answer path effect => ?_
  rw [idle _ _ _ _ effect]
  exact ⟨sane, .refl mission, trivial⟩

/-- A message may be published when it is honest. -/
theorem publish_handles {message : BusMessage} (lasting : Lasting Later fact)
    (honest : ∀ mission, Sane settings posts mission → fact mission →
      Honest settings posts mission message) :
    Handles settings posts thread fact (callPath (.publish message)) fun _ _ => True := by
  -- The message is the only one that is new.
  refine callPath_handles lasting fun mission sane held choice answer path effect => ?_
  cases effect
  have later : Later mission { mission with
      path := { mission.path with stream := mission.path.stream ++ [message] } } :=
    { Later.refl mission with stream := fun _ member => List.mem_append_left _ member }
  refine ⟨sane.moved later (fun _ _ => .inl) (fun other member => ?_) (fun _ => .inl)
    (fun _ _ => .inl) (fun _ => .inl) (.inl rfl), later, trivial⟩
  rcases List.mem_append.mp member with old | new
  · exact .inl old
  · rw [List.mem_singleton.mp new]
    exact .inr ((honest mission sane held).later later)

/-- An audit event may always be written. -/
theorem insertAudit_handles {event : CommandAudit} (lasting : Lasting Later fact) :
    Handles settings posts thread fact (callPath (.insertAudit event))
      fun _ mission => event ∈ mission.path.auditEvents := by
  -- Nothing is asked of audit events, so nothing new has to obey a rule.
  refine callPath_handles lasting fun mission sane held choice answer path effect => ?_
  cases effect
  have later : Later mission { mission with
      path := { mission.path with auditEvents := mission.path.auditEvents ++ [event] } } :=
    { Later.refl mission with auditEvents := fun _ member => List.mem_append_left _ member }
  exact ⟨sane.moved later (fun _ _ => .inl) (fun _ => .inl) (fun _ => .inl) (fun _ _ => .inl)
    (fun _ => .inl) (.inl rfl), later, List.mem_append_right _ (List.mem_singleton.mpr rfl)⟩

/-- A datagram may be sent when it carries a command. -/
theorem sendto_handles {raw : Bytes} (lasting : Lasting Later fact)
    (carries : ∀ mission, Sane settings posts mission → fact mission → Carries mission raw) :
    Handles settings posts thread fact (callPath (.sendto raw)) fun _ _ => True := by
  -- The datagram is the only one that is new.
  refine callPath_handles lasting fun mission sane held choice answer path effect => ?_
  cases effect
  have later : Later mission { mission with
      path := { mission.path with uplink := mission.path.uplink ++ [raw] } } :=
    { Later.refl mission with }
  refine ⟨sane.moved later (fun _ _ => .inl) (fun _ => .inl) (fun other member => ?_)
    (fun _ _ => .inl) (fun _ => .inl) (.inl rfl), later, trivial⟩
  rcases List.mem_append.mp member with old | new
  · exact .inl old
  · rw [List.mem_singleton.mp new]
    exact .inr ((carries mission sane held).later later)

/-- A row may be inserted as its creator leaves it. -/
theorem insertCommand_handles {row : CommandRow} (request : CommandRequest) (lasting : Lasting Later fact)
    (serves : Serves row request)
    (created : row.status = if row.dryRun then .dryRunValidated else .queued) :
    Handles settings posts thread fact (callPath (.insertCommand row)) fun commandId mission =>
      ∃ kept, mission.path.commands commandId = some kept ∧ Serves kept request := by
  refine callPath_handles lasting fun mission sane held choice answer path effect => ?_
  rw [CommandPath.effect] at effect
  split at effect
  next => cases effect
  next free =>
    cases effect
    have later : Later mission { mission with path := { mission.path with
        commands := Function.update mission.path.commands choice.commandId (some row) } } := by
      refine { Later.refl mission with rows := fun other old present => ?_ }
      have different : other ≠ choice.commandId := by
        rintro rfl
        rw [free] at present
        cases present
      exact ⟨old, (Function.update_of_ne different ..).trans present, fun _ => id⟩
    refine ⟨sane.moved later (fun other found present => ?_) (fun _ => .inl) (fun _ => .inl)
      (fun _ _ => .inl) (fun _ => .inl) (.inl rfl), later, row, Function.update_self .., serves⟩
    rcases update_eq_some.mp present with ⟨-, same⟩ | ⟨-, old⟩
    · -- The status of a new row says whether it is a dry run, and no more.
      cases same
      refine .inr ⟨fun dry => ?_, fun live => ?_, fun acked => ?_, fun rejected => ?_⟩ <;>
        cases run : row.dryRun <;> simp_all
    · exact .inl old

/-- A row may be updated where the new status tells the truth. -/
theorem updateCommand_handles {status : CommandStatus} {detail : Option String} {commandId : Int}
    (lasting : Lasting Later fact)
    (truthful : ∀ mission, Sane settings posts mission → fact mission → ∀ row,
      mission.path.commands commandId = some row →
        Standing mission commandId { row with status := status, statusDetail := detail }) :
    Handles settings posts thread fact (callPath (.updateCommand status detail commandId))
      fun _ _ => True := by
  -- Without a row there is nothing to write. The written row serves what the old one served, since
  -- its request is not updated.
  refine callPath_handles lasting fun mission sane held choice answer path effect => ?_
  rw [CommandPath.effect] at effect
  split at effect
  next absent =>
    cases effect
    exact ⟨sane, .refl mission, trivial⟩
  next row present =>
    cases effect
    have later : Later mission { mission with path := { mission.path with
        commands := Function.update mission.path.commands commandId
          (some { row with status := status, statusDetail := detail }) } } := by
      refine { Later.refl mission with rows := fun other old among => ?_ }
      by_cases same : other = commandId
      · subst same
        rw [present] at among
        cases among
        exact ⟨_, Function.update_self .., fun request held => { held with }⟩
      · exact ⟨old, (Function.update_of_ne same ..).trans among, fun _ => id⟩
    refine ⟨sane.moved later (fun other found among => ?_) (fun _ => .inl) (fun _ => .inl)
      (fun _ _ => .inl) (fun _ => .inl) (.inl rfl), later, trivial⟩
    rcases update_eq_some.mp among with ⟨rfl, same⟩ | ⟨-, old⟩
    · cases same
      exact .inr ((truthful mission sane held row present).later later)
    · exact .inl old

end Handlers

section Facts
variable {first second : Mission → Prop}

/-- What was published stays in the stream. -/
theorem lasting_stream (message : BusMessage) :
    Lasting Later fun mission => message ∈ mission.path.stream :=
  fun _ _ held later => later.stream message held

/-- The row of a request stays the row of that request. -/
theorem lasting_serves (commandId : Int) (request : CommandRequest) :
    Lasting Later fun mission => ∃ kept, mission.path.commands commandId = some kept ∧
      Serves kept request := by
  -- A row stays with the request it serves.
  rintro before after ⟨kept, present, serves⟩ later
  obtain ⟨last, among, still⟩ := later.rows commandId kept present
  exact ⟨last, among, still request serves⟩

/-- Audit events stay. -/
theorem lasting_audit (event : CommandAudit) :
    Lasting Later fun mission => event ∈ mission.path.auditEvents :=
  fun _ _ held later => later.auditEvents event held

end Facts

section Services
variable {thread : Nat}

/-- A request is dispatched only where it is valid, live, authorized and armed. -/
theorem createCommand_handles {request : CommandRequest} {xOperatorToken xCommandArm : Option String}
    (posted : posts request xOperatorToken xCommandArm) :
    Handles settings posts thread (fun _ => True)
      (createCommand settings request xOperatorToken xCommandArm) fun _ _ => True := by
  rw [createCommand]
  refine Keeps.bind (Keeps.ofExcept _) fun definition => ?_
  split
  next => exact Keeps.raise
  next unauthorized =>
    split
    next => exact Keeps.raise
    next unarmed =>
      have constant := (@Lasting.always _ Later).and (Lasting.const ((validateCommand request.name
        request.argument).mapError (fun error => PathFailure.http 422 error.message) =
          .ok definition))
      refine Keeps.bind (insertCommand_handles request constant ⟨rfl, rfl, rfl, rfl⟩ rfl)
        fun commandId => ?_
      have kept := constant.and (lasting_serves commandId request)
      refine Keeps.bind (insertAudit_handles kept) fun _ => ?_
      split
      next => exact Keeps.done fun _ _ => trivial
      next dry =>
        -- Both tokens were compared for a request that is live.
        have live : request.dryRun = false := Bool.eq_false_iff.mpr dry
        have authorized : xOperatorToken = some settings.operatorToken := by
          by_contra other
          exact unauthorized ⟨by rw [live]; rfl, other⟩
        have armed : xCommandArm = some settings.commandArmToken := by
          by_contra other
          exact unarmed ⟨by rw [live]; rfl, other⟩
        refine Keeps.bind (publish_handles (kept.and (lasting_audit _)) ?_)
          fun _ => Keeps.done fun _ _ => trivial
        rintro mission - ⟨⟨⟨-, valid⟩, row, present, serves⟩, audited⟩
        subst authorized armed
        exact ⟨request, row, definition, posted, live, of_mapError_eq_ok valid, rfl, present, serves,
          audited⟩

/-- What the dispatcher sends carries the command that it was given. -/
theorem dispatchCommand_handles (event : DispatchEvent) :
    Handles settings posts thread (fun mission => .dispatch event ∈ mission.path.stream)
      (dispatchCommand settings event) fun _ _ => True := by
  -- The uplink carries the command of the event; either report says that the event was taken up.
  have lasting := lasting_stream (.dispatch event)
  have reports : ∀ {fact : Mission → Prop} (_ : Lasting Later fact)
      (_ : ∀ mission, fact mission → .dispatch event ∈ mission.path.stream) {status detail},
      (status = .dispatched ∨ status = .dispatchError) →
        Handles settings posts thread fact
          (callPath (.publish (.status ⟨event.commandId, status, detail⟩))) fun _ _ => True :=
    fun lasting sent _ _ reported =>
      publish_handles lasting fun mission _ held => ⟨reported, event, sent mission held, rfl⟩
  have settles : ∀ {fact : Mission → Prop} (_ : Lasting Later fact) (positive : Bool),
      Handles settings posts thread fact (callPath (.settle positive)) fun _ _ => True :=
    fun lasting _ => idle_handles lasting fun _ _ _ _ effect => by cases effect; rfl
  refine Keeps.tryCatch ?_ fun failure => ?_
  · refine Keeps.bind (idle_handles lasting fun _ _ _ _ effect => by cases effect; rfl)
      fun issuedNs => Keeps.bind (Keeps.ofExcept _) fun raw => ?_
    have known := (lasting.and Lasting.always).and (Lasting.const
      ((encodeCommand ⟨event.commandId, event.opcode, event.argument, issuedNs⟩).mapError
        PathFailure.packet = .ok raw))
    refine Keeps.bind (sendto_handles known fun mission _ held =>
      ⟨event, held.1.1, issuedNs, of_mapError_eq_ok held.2⟩) fun _ => ?_
    refine Keeps.bind (reports (known.and Lasting.always) (fun _ held => held.1.1.1) (.inl rfl))
      fun _ => settles ((known.and Lasting.always).and Lasting.always) true
  · refine Keeps.bind (Keeps.tryCatch (reports lasting (fun _ => id) (.inr rfl))
      fun unpublished => ?_) fun _ => settles (lasting.and Lasting.always) false
    exact Keeps.bind (settles lasting false) fun _ => Keeps.raise

/-- The ingest publishes what the spacecraft has sent. -/
theorem ingestDatagram_handles {raw : Bytes} (source : String) :
    Handles settings posts thread
      (fun mission => raw ∈ mission.downlink ∨ (decodeSpacePacket raw).toOption = none)
      (ingestDatagram raw source) fun _ _ => True := by
  have lasting : Lasting Later fun mission =>
      raw ∈ mission.downlink ∨ (decodeSpacePacket raw).toOption = none := by
    rintro before after (sent | garbled) later
    · exact .inl (later.downlink raw sent)
    · exact .inr garbled
  refine Keeps.tryCatch ?_ fun _ => Keeps.done fun _ _ => trivial
  refine Keeps.bind (Keeps.ofExcept _) fun packet => ?_
  have decodes := lasting.and (Lasting.const
    ((decodeSpacePacket raw).mapError PathFailure.packet = .ok packet))
  refine Keeps.bind (idle_handles decodes fun _ _ _ _ effect => by cases effect; rfl)
    fun receivedNs => ?_
  split_ifs
  · refine Keeps.bind (Keeps.ofExcept _) fun ack => ?_
    refine publish_handles ((decodes.and Lasting.always).and (Lasting.const
      ((decodeAck packet).mapError PathFailure.packet = .ok ack))) fun mission _ held => ?_
    obtain ⟨⟨⟨sent | garbled, decoded⟩, -⟩, read⟩ := held
    · exact ⟨raw, sent, packet, of_mapError_eq_ok decoded, of_mapError_eq_ok read⟩
    -- Noise does not decode.
    · rw [of_mapError_eq_ok decoded] at garbled
      cases garbled
  · exact Keeps.done fun _ _ => trivial

/-- A row is acknowledged where the spacecraft has acknowledged its command. -/
theorem processAck_handles (envelope : AckEnvelope) :
    Handles settings posts thread (fun mission => .commandAck envelope ∈ mission.path.stream)
      (processAck envelope) fun _ _ => True := by
  have lasting := lasting_stream (.commandAck envelope)
  refine Keeps.tryCatch ?_ fun _ =>
    idle_handles lasting fun _ _ _ _ effect => by cases effect; rfl
  refine Keeps.bind (updateCommand_handles lasting fun mission sane published row present => ?_)
    fun _ => Keeps.bind (insertAudit_handles (lasting.and Lasting.always)) fun _ =>
      idle_handles ((lasting.and Lasting.always).and (lasting_audit _))
        fun _ _ _ _ effect => by cases effect; rfl
  have heard : Heard mission envelope.data := sane.messages _ published
  obtain ⟨event, sent, same, accepted, applied⟩ := sane.downlink _ heard
  obtain ⟨request, row', definition, -, live, -, event_eq, present', serves, -⟩ :=
    sane.messages _ sent
  rw [same, present] at present'
  cases present'
  -- The row is that of the command, so it is live and has the argument that was applied.
  have running : row.dryRun = false := serves.dryRun.trans live
  have argument : envelope.data.appliedValue = row.argument := by
    rw [applied, serves.argument, event_eq]
  rw [if_pos accepted]
  refine ⟨fun dry => ?_, fun _ same => (by cases same), fun _ => ⟨?_, _, heard, rfl, accepted, argument⟩,
    fun same => by cases same⟩
  · dsimp only at dry
    rw [running] at dry
    cases dry
  · rw [argument]

/-- A report of the dispatcher is about a live command. -/
theorem processStatus_handles (report : StatusEvent) :
    Handles settings posts thread (fun mission => .status report ∈ mission.path.stream)
      (processStatus report) fun _ _ => True := by
  -- The dispatcher reports two states, which ask for a live row, and its event says that the row is
  -- live.
  have lasting := lasting_stream (.status report)
  refine Keeps.tryCatch ?_ fun _ =>
    idle_handles lasting fun _ _ _ _ effect => by cases effect; rfl
  refine Keeps.bind (updateCommand_handles lasting fun mission sane published row present => ?_)
    fun _ => Keeps.bind (insertAudit_handles (lasting.and Lasting.always)) fun _ =>
      idle_handles ((lasting.and Lasting.always).and (lasting_audit _))
        fun _ _ _ _ effect => by cases effect; rfl
  obtain ⟨reported, event, sent, same⟩ := sane.messages _ published
  obtain ⟨request, row', definition, -, live, -, -, present', serves, -⟩ := sane.messages _ sent
  rw [same, present] at present'
  cases present'
  have running : row.dryRun = false := serves.dryRun.trans live
  refine ⟨fun dry => ?_, fun _ same => ?_, fun same => ?_, fun same => ?_⟩
  · dsimp only at dry
    rw [running] at dry
    cases dry
  all_goals
    dsimp only at same
    rw [same] at reported
    rcases reported with wrong | wrong <;> cases wrong

/-- Every handler follows the protocol wherever it is called. -/
theorem process_follows (process : PathProcess) :
    Triple (missionProtocol settings posts) machine thread
      (fun mission => mission.Calls settings posts process) process.program fun _ _ => True := by
  -- One case per handler, each with what its caller has seen.
  intro mission called
  cases process with
  | createCommand used request xOperatorToken xCommandArm =>
    obtain ⟨rfl, posted⟩ := called
    have handled : Handles used posts thread (fun _ => True)
        (PathProcess.createCommand used request xOperatorToken xCommandArm).program
          fun _ _ => True :=
      Keeps.bind (createCommand_handles posted) fun _ => Keeps.done fun _ _ => trivial
    exact (handled mission trivial).weaken fun _ _ _ => trivial
  | dispatchCommand used event =>
    obtain ⟨rfl, sent⟩ := called
    exact (dispatchCommand_handles event mission sent).weaken fun _ _ _ => trivial
  | ingestDatagram raw source =>
    exact (ingestDatagram_handles source mission called).weaken fun _ _ _ => trivial
  | processAck envelope =>
    exact (processAck_handles envelope mission called).weaken fun _ _ _ => trivial
  | processStatus report =>
    exact (processStatus_handles report mission called).weaken fun _ _ _ => trivial

end Services

section Flight
variable {mission : Mission}

/-- A spacecraft that starts has not been commanded. -/
theorem commanded_start : Commanded mission {} :=
  ⟨.inl rfl, .inl rfl, .inl rfl, by decide⟩

/-- What executing a listed command does to the controls. -/
theorem execute_sets {name : String} {definition : CommandDefinition}
    (listed : commands.lookup name = some definition) (frame : CommandFrame)
    (opcode : frame.opcode = definition.opcode) (controls : Controls) :
    ((controls.execute frame).2.mode = controls.mode ∨
        (name = "SET_MODE" ∧ (controls.execute frame).2.mode = frame.argument)) ∧
      ((controls.execute frame).2.wheelRpm = controls.wheelRpm ∨
        (name = "SET_WHEEL_RPM" ∧ (controls.execute frame).2.wheelRpm = frame.argument)) ∧
      ((controls.execute frame).2.faultFlags = controls.faultFlags ∨
        (controls.execute frame).2.faultFlags = 0) := by
  -- One case per listed command; its opcode names it.
  have names : opcodeToName.lookup 1 = some "SET_MODE" ∧
      opcodeToName.lookup 2 = some "SET_WHEEL_RPM" ∧
      opcodeToName.lookup 3 = some "RESET_FAULTS" := by decide
  rw [Controls.execute, opcode]
  rcases lookup_commands.mp listed with ⟨rfl, rfl⟩ | ⟨rfl, rfl⟩ | ⟨rfl, rfl⟩
  · simp only [names.1]
    split_ifs <;> simp_all
  · simp only [names.2.1]
    split_ifs <;> simp_all
  · simp only [names.2.2]
    split_ifs <;> simp_all

/-- The spacecraft answers a command that was sent with what the command says. -/
theorem Sane.apply (sane : Sane settings posts mission) {raw : Bytes} (carried : Carries mission raw)
    (nowNs : Int) : ∃ ack, (mission.spacecraft.apply nowNs raw).1 = .ok ack ∧ Vouched mission ack ∧
      (∀ commandId known, (mission.spacecraft.apply nowNs raw).2.commandResults commandId =
        some known → mission.spacecraft.commandResults commandId = some known ∨
          (known.commandId = commandId ∧ Vouched mission known)) ∧
      Commanded mission (mission.spacecraft.apply nowNs raw).2 := by
  obtain ⟨event, sent, issuedNs, encoded⟩ := carried
  have decoded := decodeCommand_encodeCommand encoded
  cases memory : mission.spacecraft.commandResults event.commandId with
  | some cached =>
    rw [SpacecraftState.apply_remembered decoded memory]
    exact ⟨cached, rfl, (sane.memory _ _ memory).2, fun _ _ => .inl, sane.spacecraft⟩
  | none =>
    obtain ⟨request, row, definition, -, -, valid, same, -, -, -⟩ := sane.messages _ sent
    obtain ⟨listed, within⟩ := validateCommand_eq_ok.mp valid
    have opcode : event.opcode = definition.opcode := by rw [same]
    have argument : event.argument = request.argument := by rw [same]
    have name : event.name = request.name := by rw [same]
    -- A valid command is in the range of the spacecraft, so it is accepted.
    have accepted : (mission.spacecraft.toControls.execute
        ⟨event.commandId, event.opcode, event.argument, issuedNs⟩).1 = 0 :=
      (execute_accepts_iff listed opcode _).mpr (by rw [argument]; exact within)
    have vouched : ∀ timestampNs, Vouched mission ⟨event.commandId, 0, event.argument, timestampNs⟩ :=
      fun _ => ⟨event, sent, rfl, rfl, rfl⟩
    obtain ⟨mode, wheel, faults⟩ := execute_sets listed
      ⟨event.commandId, event.opcode, event.argument, issuedNs⟩ opcode
      mission.spacecraft.toControls
    rw [SpacecraftState.apply, decoded]
    dsimp only
    rw [memory]
    dsimp only
    rw [accepted]
    refine ⟨_, rfl, vouched nowNs, fun commandId known stored => ?_, ?_, ?_, ?_,
      sane.spacecraft.ackSequence⟩
    · rcases update_eq_some.mp stored with ⟨rfl, same⟩ | ⟨-, old⟩
      · cases same
        exact .inr ⟨rfl, vouched nowNs⟩
      · exact .inl old
    · rcases mode with kept | ⟨named, set⟩
      · rw [kept]
        exact sane.spacecraft.mode
      · exact .inr ⟨event, sent, name.trans named, set.symm⟩
    · rcases wheel with kept | ⟨named, set⟩
      · rw [kept]
        exact sane.spacecraft.wheelRpm
      · exact .inr ⟨event, sent, name.trans named, set.symm⟩
    · rcases faults with kept | cleared
      · rw [kept]
        exact sane.spacecraft.faultFlags
      · exact .inl cleared

/-- A datagram that does not decode leaves no trace. -/
theorem receive_garbled {raw : Bytes} (garbled : (decodeCommand raw).toOption = none)
    (nowNs : Int) : mission.receive nowNs raw = mission := by
  -- A datagram that cannot be decoded changes no state and is not answered.
  cases decoded : decodeCommand raw with
  | ok frame =>
    rw [decoded] at garbled
    cases garbled
  | error error =>
    rw [receive, SpacecraftState.datagramReceived, SpacecraftState.apply_undecodable decoded]
    simp

/-- What is sent in addition is heard in addition. -/
theorem heard_append {spacecraft : SpacecraftState} {tick : Nat} {more : List Bytes} {ack : CommandAck}
    (heard : Heard ⟨mission.path, spacecraft, tick, mission.downlink ++ more⟩ ack) :
    Heard mission ack ∨ ∃ raw ∈ more, ∃ packet, decodeSpacePacket raw = .ok packet ∧
      decodeAck packet = .ok ack := by
  -- The datagram was on the link before, or is among those sent in addition.
  obtain ⟨raw, sent, rest⟩ := heard
  rcases List.mem_append.mp sent with old | new
  · exact .inl ⟨raw, old, rest⟩
  · exact .inr ⟨raw, new, rest⟩

/-- The spacecraft keeps everything that was sent. -/
theorem Later.flight (mission : Mission) (spacecraft : SpacecraftState) (tick : Nat)
    (more : List Bytes) :
    Later mission ⟨mission.path, spacecraft, tick, mission.downlink ++ more⟩ :=
  { Later.refl mission with downlink := fun _ member => List.mem_append_left _ member }

/-- A command that arrives keeps the mission sane. -/
theorem Sane.receive (sane : Sane settings posts mission) {raw : Bytes}
    (carried : Carries mission raw) (nowNs : Int) :
    Sane settings posts (mission.receive nowNs raw) ∧ Later mission (mission.receive nowNs raw) := by
  obtain ⟨ack, answered, vouched, memory, commanded⟩ := sane.apply carried nowNs
  rw [Mission.receive, SpacecraftState.datagramReceived]
  generalize mission.spacecraft.apply nowNs raw = outcome at answered memory commanded
  obtain ⟨reply, state⟩ := outcome
  cases answered
  dsimp only
  split
  next =>
    have later := Later.flight mission state mission.tick []
    refine ⟨?_, later⟩
    exact sane.moved later (fun _ _ => .inl) (fun _ => .inl) (fun _ => .inl)
      (fun commandId known stored => (memory commandId known stored).imp_right fun new =>
        ⟨new.1, new.2.later later⟩)
      (fun ack heard => .inl ((heard_append heard).resolve_right fun ⟨_, member, _⟩ => nomatch member))
      (.inr (commanded.later later))
  next rawAck encoded =>
    have later := Later.flight mission
      { state with ackSequence := Int.land (state.ackSequence + 1) 0x3FFF } mission.tick [rawAck]
    have counted : Commanded mission
        { state with ackSequence := Int.land (state.ackSequence + 1) 0x3FFF } := by
      refine { commanded with ackSequence := ?_ }
      have wrapped : Int.land (state.ackSequence + 1) 0x3FFF = (state.ackSequence + 1) % 2 ^ 14 :=
        Mask.land_mask _ 14
      have top : maxSequence = 16383 := by decide
      dsimp only
      rw [wrapped]
      omega
    refine ⟨?_, later⟩
    refine sane.moved later (fun _ _ => .inl) (fun _ => .inl) (fun _ => .inl)
      (fun commandId known stored => (memory commandId known stored).imp_right fun new =>
        ⟨new.1, new.2.later later⟩) (fun found heard => ?_) (.inr (counted.later later))
    -- The only new packet carries the acknowledgement.
    rcases heard_append heard with old | ⟨_, member, packet, decoded, read⟩
    · exact .inl old
    · rw [List.mem_singleton.mp member] at decoded
      rw [decodeAck_of_encoded encoded decoded read]
      exact .inr (vouched.later later)

/-- Only an anomaly moves the controls in a turn, and it sets the fault flag. -/
theorem Commanded.telemetryTurn (commanded : Commanded mission mission.spacecraft)
    (tick : Nat) (draw : SpacecraftState.TelemetryDraw) :
    Commanded mission (mission.spacecraft.telemetryTurn tick draw).2 ∧
      (mission.spacecraft.telemetryTurn tick draw).2.commandResults =
        mission.spacecraft.commandResults := by
  -- The flag of an anomaly is the lowest bit, whether it was set or not.
  have marked : Int.lor mission.spacecraft.faultFlags 0x01 = 1 := by
    rcases commanded.faultFlags with clear | set
    · rw [clear]; rfl
    · rw [set]; rfl
  rw [SpacecraftState.telemetryTurn]
  split <;> dsimp only <;> split_ifs
  · exact ⟨⟨commanded.mode, commanded.wheelRpm, .inr marked, commanded.ackSequence⟩, rfl⟩
  · exact ⟨{ commanded with }, rfl⟩
  · exact ⟨⟨commanded.mode, commanded.wheelRpm, .inr marked, commanded.ackSequence⟩, rfl⟩
  · exact ⟨{ commanded with }, rfl⟩

/-- A turn sends a health sample or nothing. -/
theorem telemetryTurn_sends {state : SpacecraftState} {tick : Nat}
    {draw : SpacecraftState.TelemetryDraw} {raw : Bytes}
    (sent : (state.telemetryTurn tick draw).1 = .ok raw) :
    ∃ sequenceCount sample, encodeHealth sequenceCount sample = .ok raw := by
  -- What a turn sends is the encoding of its sample.
  rw [SpacecraftState.telemetryTurn] at sent
  split at sent
  next => cases sent
  next encoded =>
    cases sent
    exact ⟨_, _, encoded⟩

/-- Whatever happens without the ground keeps the mission sane. -/
theorem Sane.flight (sane : Sane settings posts mission) {after : Mission}
    (moved : Flight mission after) : Sane settings posts after ∧ Later mission after := by
  cases moved with
  | command nowNs sent => exact sane.receive (sane.uplink _ sent) nowNs
  | noise nowNs garbled =>
    rw [receive_garbled garbled]
    exact ⟨sane, .refl mission⟩
  | turn draw =>
    obtain ⟨commanded, remembered⟩ := sane.spacecraft.telemetryTurn (mission.tick + 1) draw
    have later := Later.flight mission
      (mission.spacecraft.telemetryTurn (mission.tick + 1) draw).2 (mission.tick + 1)
      (mission.spacecraft.telemetryTurn (mission.tick + 1) draw).1.toOption.toList
    refine ⟨?_, later⟩
    refine sane.moved later (fun _ _ => .inl) (fun _ => .inl) (fun _ => .inl)
      (fun commandId known stored => .inl ?_) (fun ack heard => .inl ?_)
      (.inr (commanded.later later))
    · rw [← remembered]
      exact stored
    · -- A health sample is no acknowledgement.
      rcases heard_append heard with old | ⟨raw, member, packet, decoded, read⟩
      · exact old
      · rw [Option.mem_toList] at member
        obtain ⟨_, _, encoded⟩ := telemetryTurn_sends (of_toOption_eq_some member)
        exact absurd read (decodeAck_of_health encoded decoded)
  | restart =>
    have later := Later.flight mission {} 0 []
    rw [List.append_nil] at later
    refine ⟨sane.moved later (fun _ _ => .inl) (fun _ => .inl) (fun _ => .inl)
      (fun _ _ known => by cases known) (fun _ => .inl)
      (.inr commanded_start), later⟩

end Flight

/-- In every run the mission is sane. -/
theorem sane_of_run {config : MissionConfig}
    (run : Relation.ReflTransGen (MissionStep settings posts) MissionConfig.initial config) :
    Sane settings posts config.state := by
  -- At the start every list is empty; each process follows the protocol, and the spacecraft flies.
  have started : Sound machine (missionProtocol settings posts) (fun _ _ _ => True)
      MissionConfig.initial := by
    refine ⟨⟨?_, ?_, ?_, ?_, ?_, commanded_start⟩, ?_⟩
    · intro _ _ present
      cases present
    · intro _ member
      cases member
    · intro _ member
      cases member
    · intro _ _ known
      cases known
    · rintro _ ⟨_, member, _⟩
      cases member
    · intro _ _ running
      cases running
  refine (Sound.run (fun _ _ _ _ _ _ _ => trivial) ?_ ?_ started run).1
  · rintro thread mission _ - ⟨process, called, rfl⟩
    exact process_follows process mission called
  · intro before after sane moved
    obtain ⟨kept, later⟩ := sane.flight moved
    exact ⟨kept, fun _ => later⟩

end Mission

end Cislunar
