import Cislunar.Foundation.Keeps
import Cislunar.Foundation.Turns
import Cislunar.Proofs.Common.Limits
import Cislunar.Services.HealthPath

/-!
What the tables and the alerts say about the samples that the spacecraft has sent.

A row is of a sample that was sent, and an alert of a limit that this sample breaks. What was
acknowledged has its row and all of its alerts, however often handlers were interrupted before.
-/

namespace Cislunar

open Foundation SpaceLink

namespace SpacecraftState

/-- What the spacecraft can be in, whatever it is sent: its samples always fit their fields. -/
structure Operable (state : SpacecraftState) : Prop where
  mode : 0 ≤ state.mode ∧ state.mode ≤ 3
  wheelRpm : -6000 ≤ state.wheelRpm ∧ state.wheelRpm ≤ 6000
  faultFlags : state.faultFlags = 0 ∨ state.faultFlags = 1
  healthSequence : 0 ≤ state.healthSequence ∧ state.healthSequence ≤ maxSequence

/-- The spacecraft starts operable. -/
theorem operable_start : Operable {} :=
  ⟨by decide, by decide, .inl rfl, by decide⟩

variable {state : SpacecraftState}

/-- A frame that is out of range is not executed. -/
theorem Operable.apply (operable : state.Operable) (nowNs : Int) (raw : Bytes) :
    (state.apply nowNs raw).2.Operable := by
  -- What is not executed leaves the state as it is.
  obtain ⟨mode, wheel, faults, count⟩ := operable
  rw [SpacecraftState.apply]
  split
  · exact ⟨mode, wheel, faults, count⟩
  · dsimp only
    split
    · exact ⟨mode, wheel, faults, count⟩
    · -- Each of the three commands writes one control, and only within its range.
      dsimp only [Controls.execute]
      split_ifs with setMode setWheel reset
      · exact ⟨setMode.2, wheel, faults, count⟩
      · exact ⟨mode, setWheel.2, faults, count⟩
      · exact ⟨mode, wheel, .inl rfl, count⟩
      · exact ⟨mode, wheel, faults, count⟩

/-- An acknowledgement moves its own counter only. -/
theorem Operable.datagramReceived (operable : state.Operable) (nowNs : Int) (raw : Bytes) :
    (state.datagramReceived nowNs raw).2.Operable := by
  -- Whether or not the answer can be packed, the controls are those of the command.
  have applied := operable.apply nowNs raw
  rw [SpacecraftState.datagramReceived]
  generalize state.apply nowNs raw = outcome at applied
  obtain ⟨reply, after⟩ := outcome
  obtain ⟨mode, wheel, faults, count⟩ := applied
  split
  next same =>
    cases same
    exact ⟨mode, wheel, faults, count⟩
  next same =>
    cases same
    split <;> exact ⟨mode, wheel, faults, count⟩

/-- Only the lowest of the fault flags is ever set. -/
theorem Operable.marked (operable : state.Operable) : Int.lor state.faultFlags 0x01 = 1 := by
  -- The flags of an operable spacecraft are clear or have the lowest bit set.
  rcases operable.faultFlags with clear | set
  · rw [clear]
    rfl
  · rw [set]
    rfl

/-- A turn sets the fault flag and moves the counter around. -/
theorem Operable.telemetryTurn (operable : state.Operable) (tick : Nat) (draw : TelemetryDraw) :
    (state.telemetryTurn tick draw).2.Operable := by
  have marked := operable.marked
  obtain ⟨mode, wheel, faults, count⟩ := operable
  have wrapped : ∀ value : Int, 0 ≤ Int.land (value + 1) 0x3FFF ∧
      Int.land (value + 1) 0x3FFF ≤ maxSequence := by
    intro value
    have low : Int.land (value + 1) 0x3FFF = (value + 1) % 2 ^ 14 := Mask.land_mask _ 14
    have top : maxSequence = 16383 := by decide
    rw [low]
    omega
  -- Only a sample that could be packed moves the counter.
  rw [SpacecraftState.telemetryTurn]
  split <;> dsimp only <;> split_ifs
  · exact ⟨mode, wheel, .inr marked, count⟩
  · exact ⟨mode, wheel, faults, count⟩
  · exact ⟨mode, wheel, .inr marked, wrapped _⟩
  · exact ⟨mode, wheel, faults, wrapped _⟩

end SpacecraftState

namespace HealthSystem

/-- An envelope is of a sample that the spacecraft has sent. -/
def Sent (system : HealthSystem) (envelope : HealthEnvelope) : Prop :=
  ∃ raw ∈ system.downlink, ∃ sample, encodeHealth envelope.sequenceCount sample = .ok raw ∧
    envelope.data = sample.carried

/-- A violation is stored and published. -/
def Raised (system : HealthSystem) (envelope : HealthEnvelope) (violation : LimitViolation) : Prop :=
  envelope.alert violation ∈ system.path.alerts ∧
    .limitAlert (envelope.alert violation) ∈ system.path.stream

/-- What a message of the stream promises. -/
def Honest (system : HealthSystem) : HealthMessage → Prop
  | .health envelope => system.Sent envelope
  | .limitAlert alert => alert ∈ system.path.alerts
  | .processed envelope violations => violations = evaluateHealth envelope.data ∧
      envelope.row ∈ system.path.telemetryHealth ∧
      ∀ violation ∈ violations, system.Raised envelope violation

/-- A datagram of the spacecraft: a health sample or an acknowledgement. -/
def Plain (raw : Bytes) : Prop :=
  (∃ sequenceCount sample, encodeHealth sequenceCount sample = .ok raw) ∨
    ∃ sequenceCount ack, encodeAck sequenceCount ack = .ok raw

/-- What holds between any two steps. -/
structure Sane (system : HealthSystem) : Prop where
  spacecraft : system.spacecraft.Operable
  downlink : ∀ raw ∈ system.downlink, Plain raw
  messages : ∀ message ∈ system.path.stream, system.Honest message
  rows : ∀ row ∈ system.path.telemetryHealth, ∃ envelope, .health envelope ∈ system.path.stream ∧
    row = envelope.row
  alerts : ∀ alert ∈ system.path.alerts, ∃ envelope, .health envelope ∈ system.path.stream ∧
    envelope.row ∈ system.path.telemetryHealth ∧
    ∃ violation ∈ evaluateHealth envelope.data, alert = envelope.alert violation
  acknowledged : ∀ envelope ∈ system.path.acknowledged,
    .health envelope ∈ system.path.stream ∧
    .processed envelope (evaluateHealth envelope.data) ∈ system.path.stream

/-- Nothing that was stored, published or sent is lost. -/
structure Later (before after : HealthSystem) : Prop where
  telemetryHealth : ∀ row ∈ before.path.telemetryHealth, row ∈ after.path.telemetryHealth
  alerts : ∀ alert ∈ before.path.alerts, alert ∈ after.path.alerts
  stream : ∀ message ∈ before.path.stream, message ∈ after.path.stream
  acknowledged : ∀ envelope ∈ before.path.acknowledged, envelope ∈ after.path.acknowledged
  downlink : ∀ raw ∈ before.downlink, raw ∈ after.downlink

section Monotone
variable {before middle after : HealthSystem}

/-- A system is later than itself. -/
theorem Later.refl (system : HealthSystem) : Later system system where
  telemetryHealth _ := id
  alerts _ := id
  stream _ := id
  acknowledged _ := id
  downlink _ := id

/-- Systems grow in several steps. -/
theorem Later.trans (early : Later before middle) (late : Later middle after) :
    Later before after where
  telemetryHealth row member := late.telemetryHealth row (early.telemetryHealth row member)
  alerts alert member := late.alerts alert (early.alerts alert member)
  stream message member := late.stream message (early.stream message member)
  acknowledged envelope member := late.acknowledged envelope (early.acknowledged envelope member)
  downlink raw member := late.downlink raw (early.downlink raw member)

/-- What was sent stays sent. -/
theorem Sent.later {envelope : HealthEnvelope} (held : before.Sent envelope)
    (later : Later before after) : after.Sent envelope := by
  -- What is on the downlink stays there.
  obtain ⟨raw, sent, rest⟩ := held
  exact ⟨raw, later.downlink raw sent, rest⟩

/-- What was raised stays raised. -/
theorem Raised.later {envelope : HealthEnvelope} {violation : LimitViolation}
    (held : before.Raised envelope violation) (later : Later before after) :
    after.Raised envelope violation :=
  ⟨later.alerts _ held.1, later.stream _ held.2⟩

/-- An honest message stays honest. -/
theorem Honest.later {message : HealthMessage} (held : before.Honest message)
    (later : Later before after) : after.Honest message := by
  -- One case per kind of message.
  cases message with
  | health envelope => exact Sent.later held later
  | limitAlert alert => exact later.alerts alert held
  | processed envelope violations =>
    obtain ⟨same, stored, raised⟩ := held
    exact ⟨same, later.telemetryHealth _ stored, fun violation listed =>
      (raised violation listed).later later⟩

/-- The system stays sane where what is new obeys the rules. -/
theorem Sane.moved (sane : before.Sane) (later : Later before after)
    (spacecraft : after.spacecraft.Operable)
    (downlink : ∀ raw ∈ after.downlink, raw ∈ before.downlink ∨ Plain raw)
    (messages : ∀ message ∈ after.path.stream,
      message ∈ before.path.stream ∨ after.Honest message)
    (rows : ∀ row ∈ after.path.telemetryHealth, row ∈ before.path.telemetryHealth ∨
      ∃ envelope, .health envelope ∈ after.path.stream ∧ row = envelope.row)
    (alerts : ∀ alert ∈ after.path.alerts, alert ∈ before.path.alerts ∨
      ∃ envelope, .health envelope ∈ after.path.stream ∧
        envelope.row ∈ after.path.telemetryHealth ∧
        ∃ violation ∈ evaluateHealth envelope.data, alert = envelope.alert violation)
    (acknowledged : ∀ envelope ∈ after.path.acknowledged,
      envelope ∈ before.path.acknowledged ∨ (.health envelope ∈ after.path.stream ∧
        .processed envelope (evaluateHealth envelope.data) ∈ after.path.stream)) :
    after.Sane where
  spacecraft := spacecraft
  downlink raw member := (downlink raw member).elim (sane.downlink raw) id
  messages message member := (messages message member).elim
    (fun old => (sane.messages message old).later later) id
  rows row member := by
    -- What is old keeps its justification.
    rcases rows row member with old | new
    · obtain ⟨envelope, published, same⟩ := sane.rows row old
      exact ⟨envelope, later.stream _ published, same⟩
    · exact new
  alerts alert member := by
    rcases alerts alert member with old | new
    · obtain ⟨envelope, published, stored, rest⟩ := sane.alerts alert old
      exact ⟨envelope, later.stream _ published, later.telemetryHealth _ stored, rest⟩
    · exact new
  acknowledged envelope member := by
    rcases acknowledged envelope member with old | new
    · obtain ⟨published, processed⟩ := sane.acknowledged envelope old
      exact ⟨later.stream _ published, later.stream _ processed⟩
    · exact new

end Monotone

/-- Threads expect of each other that nothing is lost. -/
def healthProtocol : Protocol Nat PathFailure HealthRequest HealthRequest.Reply HealthSystem where
  invariant := Sane
  rely _ := Later
  action _ _ _ _ _ := True
  rely_refl _ := Later.refl
  rely_trans _ _ _ _ := Later.trans

/-- A handler that keeps a fact about the system. -/
abbrev Handles {α : Type} (thread : Nat) (fact : HealthSystem → Prop) (service : HealthService α)
    (post : α → HealthSystem → Prop) : Prop :=
  Keeps healthProtocol machine thread fact service post

/-- What was published stays in the stream. -/
theorem lasting_stream (message : HealthMessage) :
    Lasting Later fun system => message ∈ system.path.stream :=
  fun _ _ held later => later.stream message held

/-- Rows stay. -/
theorem lasting_row (row : HealthRow) : Lasting Later fun system => row ∈ system.path.telemetryHealth :=
  fun _ _ held later => later.telemetryHealth row held

/-- Alerts stay. -/
theorem lasting_alert (alert : LimitAlert) : Lasting Later fun system => alert ∈ system.path.alerts :=
  fun _ _ held later => later.alerts alert held

section Handlers
variable {thread : Nat} {fact : HealthSystem → Prop}

/-- A request keeps the system sane where its effect does. -/
theorem callHealth_handles {request : HealthRequest} {post : request.Reply → HealthSystem → Prop}
    (lasting : Lasting Later fact)
    (each : ∀ system, system.Sane → fact system → ∀ choice,
      Sane { system with path := (system.path.effect choice request).2 } ∧
        Later system { system with path := (system.path.effect choice request).2 } ∧
        post (system.path.effect choice request).1
          { system with path := (system.path.effect choice request).2 }) :
    Handles thread fact (callHealth request) post := by
  refine Keeps.call (fun before after held moved _ => lasting before after held moved) ?_
  intro before sane held choice reply after performed
  obtain ⟨sane', later, reached⟩ := each before sane held choice
  dsimp only [machine] at performed
  -- A request that fails before its effect changes nothing, and one that fails after it keeps it.
  cases fault : request.fault choice with
  | before =>
    rw [fault] at performed
    cases performed
    exact ⟨⟨sane, fun _ _ => .refl before, trivial⟩, held, fun _ same => by cases same⟩
  | none =>
    rw [fault] at performed
    cases performed
    refine ⟨⟨sane', fun _ _ => later, trivial⟩, lasting _ _ held later, fun value same => ?_⟩
    cases same
    exact reached
  | after =>
    rw [fault] at performed
    cases performed
    exact ⟨⟨sane', fun _ _ => later, trivial⟩, lasting _ _ held later, fun _ same => by cases same⟩

/-- A message may be published when it is honest. -/
theorem publish_handles {message : HealthMessage} (lasting : Lasting Later fact)
    (honest : ∀ system : HealthSystem, system.Sane → fact system → system.Honest message) :
    Handles thread fact (callHealth (.publish message))
      fun _ system => message ∈ system.path.stream := by
  refine callHealth_handles lasting fun system sane held choice => ?_
  have later : Later system { system with path := { system.path with
      stream := system.path.stream ++ [message] } } :=
    { Later.refl system with stream := fun _ member => List.mem_append_left _ member }
  -- Only the stream has grown, and by this message.
  refine ⟨sane.moved later sane.spacecraft (fun _ => .inl) (fun other member => ?_)
    (fun _ => .inl) (fun _ => .inl) (fun _ => .inl), later,
    List.mem_append_right _ (List.mem_singleton.mpr rfl)⟩
  rcases List.mem_append.mp member with old | new
  · exact .inl old
  · rw [List.mem_singleton.mp new]
    exact .inr ((honest system sane held).later later)

/-- A row may be inserted for a published envelope. -/
theorem insertHealth_handles {envelope : HealthEnvelope} (lasting : Lasting Later fact)
    (published : ∀ system, fact system → .health envelope ∈ system.path.stream) :
    Handles thread fact (callHealth (.insertHealth envelope.row))
      fun _ system => envelope.row ∈ system.path.telemetryHealth := by
  refine callHealth_handles lasting fun system sane held choice => ?_
  have later : Later system { system with path := { system.path with
      telemetryHealth := system.path.telemetryHealth ++ [envelope.row] } } :=
    { Later.refl system with telemetryHealth := fun _ member => List.mem_append_left _ member }
  -- Only the table of the samples has grown, and by this row.
  refine ⟨sane.moved later sane.spacecraft (fun _ => .inl) (fun _ => .inl)
    (fun row member => ?_) (fun _ => .inl) (fun _ => .inl), later,
    List.mem_append_right _ (List.mem_singleton.mpr rfl)⟩
  rcases List.mem_append.mp member with old | new
  · exact .inl old
  · exact .inr ⟨envelope, published system held, List.mem_singleton.mp new⟩

/-- An alert may be inserted for a violation of a stored sample. -/
theorem insertAlert_handles {envelope : HealthEnvelope} {violation : LimitViolation}
    (lasting : Lasting Later fact) (reported : violation ∈ evaluateHealth envelope.data)
    (stored : ∀ system, fact system → .health envelope ∈ system.path.stream ∧
      envelope.row ∈ system.path.telemetryHealth) :
    Handles thread fact (callHealth (.insertAlert (envelope.alert violation)))
      fun _ system => envelope.alert violation ∈ system.path.alerts := by
  refine callHealth_handles lasting fun system sane held choice => ?_
  have later : Later system { system with path := { system.path with
      alerts := system.path.alerts ++ [envelope.alert violation] } } :=
    { Later.refl system with alerts := fun _ member => List.mem_append_left _ member }
  -- Only the table of the alerts has grown, and by this alert.
  refine ⟨sane.moved later sane.spacecraft (fun _ => .inl) (fun _ => .inl) (fun _ => .inl)
    (fun alert member => ?_) (fun _ => .inl), later,
    List.mem_append_right _ (List.mem_singleton.mpr rfl)⟩
  rcases List.mem_append.mp member with old | new
  · exact .inl old
  · obtain ⟨published, row⟩ := stored system held
    exact .inr ⟨envelope, published, row, violation, reported, List.mem_singleton.mp new⟩

/-- A message may be acknowledged once its sample is processed. -/
theorem settle_handles {envelope : HealthEnvelope} {positive : Bool} (lasting : Lasting Later fact)
    (processed : ∀ system, fact system → positive = true →
      .health envelope ∈ system.path.stream ∧
        .processed envelope (evaluateHealth envelope.data) ∈ system.path.stream) :
    Handles thread fact (callHealth (.settle envelope positive)) fun _ _ => True := by
  refine callHealth_handles lasting fun system sane held choice => ?_
  cases positive with
  | false =>
    -- A negative acknowledgement is not remembered.
    exact ⟨sane, .refl system, trivial⟩
  | true =>
    have later : Later system { system with path := { system.path with
        acknowledged := system.path.acknowledged ++ [envelope] } } :=
      { Later.refl system with acknowledged := fun _ member => List.mem_append_left _ member }
    refine ⟨sane.moved later sane.spacecraft (fun _ => .inl) (fun _ => .inl) (fun _ => .inl)
      (fun _ => .inl) (fun other member => ?_), later, trivial⟩
    rcases List.mem_append.mp member with old | new
    · exact .inl old
    · rw [List.mem_singleton.mp new]
      exact .inr (processed system held rfl)

end Handlers

section Services
variable {thread : Nat}

/-- The ingest publishes what the spacecraft has sent. -/
theorem ingestHealth_handles {raw : Bytes} (source : String) :
    Handles thread
      (fun system => raw ∈ system.downlink ∨ (decodeSpacePacket raw).toOption = none)
      (ingestHealth raw source) fun _ _ => True := by
  have lasting : Lasting Later fun system =>
      raw ∈ system.downlink ∨ (decodeSpacePacket raw).toOption = none := by
    rintro before after (sent | garbled) later
    · exact .inl (later.downlink raw sent)
    · exact .inr garbled
  -- Every failure is logged and goes no further.
  refine Keeps.tryCatch ?_ fun _ => Keeps.done fun _ _ => trivial
  refine Keeps.bind (Keeps.ofExcept _) fun packet => ?_
  have decodes := lasting.and (Lasting.const
    ((decodeSpacePacket raw).mapError PathFailure.packet = .ok packet))
  have reads : Handles thread _ (callHealth .nowNs) fun _ _ => True :=
    callHealth_handles decodes fun system sane _ _ => ⟨sane, .refl system, trivial⟩
  refine Keeps.bind reads fun receivedNs => ?_
  split_ifs with kind
  · refine Keeps.bind (Keeps.ofExcept _) fun health => ?_
    refine (publish_handles ((decodes.and (Lasting.const _)).and (Lasting.const
      ((decodeHealth packet).mapError PathFailure.packet = .ok health)))
      fun system sane held => ?_).weaken fun _ _ _ _ => trivial
    obtain ⟨⟨⟨sent | garbled, decoded⟩, -⟩, read⟩ := held
    · replace decoded := of_mapError_eq_ok decoded
      -- What is read as a health sample was sent as one.
      rcases sane.downlink raw sent with ⟨count, sample, encoded⟩ | ⟨count, ack, encoded⟩
      · obtain ⟨packet', decoded', -, counted, read'⟩ := decodeHealth_of_encoded encoded
        cases decoded.symm.trans decoded'
        cases (of_mapError_eq_ok read).symm.trans read'
        exact ⟨raw, sent, sample, counted ▸ encoded, rfl⟩
      · exact absurd kind (apid_of_ack encoded decoded)
    -- Noise does not decode.
    · rw [of_mapError_eq_ok decoded] at garbled
      cases garbled
  · exact Keeps.done fun _ _ => trivial

/-- A published envelope with its row. -/
def Stored (envelope : HealthEnvelope) (system : HealthSystem) : Prop :=
  .health envelope ∈ system.path.stream ∧ envelope.row ∈ system.path.telemetryHealth

/-- What was stored stays stored. -/
theorem lasting_stored (envelope : HealthEnvelope) : Lasting Later (Stored envelope) :=
  (lasting_stream _).and (lasting_row _)

/-- The loop raises every violation that it is given. -/
theorem raiseAlerts_handles {fact : HealthSystem → Prop} {envelope : HealthEnvelope}
    {violations : List LimitViolation} (lasting : Lasting Later fact)
    (stored : ∀ system, fact system → Stored envelope system)
    (reported : ∀ violation ∈ violations, violation ∈ evaluateHealth envelope.data) :
    Handles thread fact (raiseAlerts envelope violations) fun _ system =>
      ∀ violation ∈ violations, system.Raised envelope violation := by
  -- By induction on the violations: each is stored before it is published.
  induction violations generalizing fact with
  | nil => exact Keeps.done fun _ _ _ member => by cases member
  | cons violation rest ih =>
    refine Keeps.bind (insertAlert_handles lasting (reported _ List.mem_cons_self) stored)
      fun _ => ?_
    have alerted := lasting.and (lasting_alert (envelope.alert violation))
    refine Keeps.bind (publish_handles alerted fun _ _ held => held.2) fun _ => ?_
    have raised := alerted.and (lasting_stream (.limitAlert (envelope.alert violation)))
    refine Keeps.weaken (ih raised (fun system held => stored system held.1.1)
      fun other listed => reported other (List.mem_cons_of_mem _ listed)) ?_
    intro _ system held others other listed
    rcases List.mem_cons.mp listed with rfl | later
    · exact ⟨held.1.2, held.2⟩
    · exact others other later

/-- A sample is acknowledged when it is stored and all of its violations are raised. -/
theorem processHealth_handles (envelope : HealthEnvelope) :
    Handles thread (fun system => .health envelope ∈ system.path.stream) (processHealth envelope)
      fun _ _ => True := by
  -- A failure anywhere ends in a negative acknowledgement.
  have lasting := lasting_stream (.health envelope)
  refine Keeps.tryCatch ?_ fun _ => settle_handles lasting fun _ _ same => by cases same
  refine Keeps.bind (insertHealth_handles lasting fun _ => id) fun _ => ?_
  have stored := lasting_stored envelope
  refine Keeps.bind (raiseAlerts_handles stored (fun _ => id) fun _ => id) fun _ => ?_
  have raised : Lasting Later fun system => Stored envelope system ∧
      ∀ violation ∈ evaluateHealth envelope.data, system.Raised envelope violation :=
    stored.and fun _ _ held later violation listed => (held violation listed).later later
  refine Keeps.bind (publish_handles raised fun _ _ held => ⟨rfl, held.1.2, held.2⟩) fun _ => ?_
  exact settle_handles (raised.and (lasting_stream _)) fun _ held _ => ⟨held.1.1.1, held.2⟩

/-- Every handler follows the protocol wherever it is called. -/
theorem process_follows (process : HealthProcess) :
    Triple healthProtocol machine thread (fun system => system.Calls process) process.program
      fun _ _ => True := by
  -- One case per handler, each with what its caller has seen.
  intro system called
  cases process with
  | ingestHealth raw source =>
    exact (ingestHealth_handles source system called).weaken fun _ _ _ => trivial
  | processHealth envelope =>
    exact (processHealth_handles envelope system called).weaken fun _ _ _ => trivial

end Services

section Flight
variable {system : HealthSystem}

/-- What is sent in addition leaves the rest as it was. -/
theorem Sane.flight_of (sane : system.Sane) {spacecraft : SpacecraftState}
    (operable : spacecraft.Operable) (tick : Nat) {more : List Bytes}
    (plain : ∀ raw ∈ more, Plain raw) :
    Sane ⟨system.path, spacecraft, tick, system.downlink ++ more⟩ ∧
      Later system ⟨system.path, spacecraft, tick, system.downlink ++ more⟩ := by
  -- Only the list of what was sent grows.
  have later : Later system ⟨system.path, spacecraft, tick, system.downlink ++ more⟩ :=
    { Later.refl system with downlink := fun _ member => List.mem_append_left _ member }
  refine ⟨sane.moved later operable (fun raw member => ?_) (fun _ => .inl) (fun _ => .inl)
    (fun _ => .inl) (fun _ => .inl), later⟩
  rcases List.mem_append.mp member with old | new
  · exact .inl old
  · exact .inr (plain raw new)

/-- The spacecraft sends health samples and acknowledgements only. -/
theorem Sane.flight (sane : system.Sane) {after : HealthSystem} (moved : Flight system after) :
    after.Sane ∧ Later system after := by
  cases moved with
  | command nowNs raw =>
    -- A command is answered with one acknowledgement at most.
    refine sane.flight_of (sane.spacecraft.datagramReceived nowNs raw) _ fun sent member => ?_
    rw [Option.mem_toList, SpacecraftState.datagramReceived] at member
    split at member
    · cases member
    · split at member
      · cases member
      next encoded =>
        cases member
        exact .inr ⟨_, _, encoded⟩
  | turn draw =>
    -- A turn sends one sample at most.
    refine sane.flight_of (sane.spacecraft.telemetryTurn _ draw) _ fun sent member => ?_
    rw [Option.mem_toList, SpacecraftState.telemetryTurn] at member
    split at member
    · cases member
    next encoded =>
      cases member
      exact .inl ⟨_, _, encoded⟩
  | restart =>
    -- A restart sends nothing and puts the spacecraft back to its start.
    have kept := @Sane.flight_of system sane {} SpacecraftState.operable_start 0 []
      fun _ member => by cases member
    rw [List.append_nil] at kept
    exact kept

end Flight

/-- Whatever happens without the ground is tolerated by every handler. -/
theorem flight_tolerated (before after : HealthSystem) (sane : before.Sane)
    (moved : Flight before after) : after.Sane ∧ ∀ _ : Nat, Later before after := by
  -- The environment is one flight of the spacecraft.
  obtain ⟨kept, later⟩ := sane.flight moved
  exact ⟨kept, fun _ => later⟩

/-- In every run the system is sane and every handler follows the protocol. -/
theorem sound_of_run {config : HealthConfig}
    (run : Relation.ReflTransGen HealthStep HealthConfig.initial config) :
    Sound machine healthProtocol (fun _ _ _ => True) config := by
  -- In the beginning nothing is stored, published or sent.
  have started : Sound machine healthProtocol (fun _ _ _ => True) HealthConfig.initial := by
    refine ⟨⟨SpacecraftState.operable_start, ?_, ?_, ?_, ?_, ?_⟩,
      fun _ _ running => by cases running⟩
    all_goals
      intro _ member
      cases member
  refine Sound.run (fun _ _ _ _ _ _ _ => trivial) ?_ flight_tolerated started run
  rintro thread system _ - ⟨process, called, rfl⟩
  exact process_follows process system called

/-- In every run the system is sane. -/
theorem sane_of_run {config : HealthConfig}
    (run : Relation.ReflTransGen HealthStep HealthConfig.initial config) : config.state.Sane :=
  (sound_of_run run).1

/-- Along a run nothing is lost. -/
theorem later_of_run {config last : HealthConfig}
    (run : Relation.ReflTransGen HealthStep HealthConfig.initial config)
    (onward : Relation.ReflTransGen HealthStep config last) : Later config.state last.state := by
  -- Every step follows the protocol, because every handler does.
  induction onward with
  | refl => exact .refl _
  | tail before step ih =>
    exact Sound.step_keeps (fun _ _ _ held later _ => held.trans later) flight_tolerated
      (sound_of_run (run.trans before)) step ih

end HealthSystem

end Cislunar
