import Cislunar.Foundation.Dedup
import Cislunar.Proofs.Common.Packet
import Cislunar.Services.SpacecraftSim

/-!
Commands are executed exactly once per identifier, and exactly those that the ground validates.

The spacecraft refines a server that remembers its replies: datagrams that decode are its inputs, and
the others leave no trace.
-/

namespace Cislunar

open Foundation SpaceLink

/-- Whatever the command decoder raises is a `PacketError`. -/
theorem decodeCommand_error {raw : Bytes} {error : PacketFailure}
    (failed : decodeCommand raw = .error error) : ∃ message, error = .packetError message := by
  rw [decodeCommand] at failed
  rcases bind_eq_error.mp failed with short | ⟨_, sized, failed⟩
  · exact ⟨_, check_eq_error short⟩
  · have total : raw.length = 17 + 4 := check_eq_ok.mp sized
    -- A frame of the right length has enough bytes for both records.
    have trailer : (raw.drop (raw.length - Struct.size crc)).length = Struct.size crc := by
      rw [List.length_drop]
      show raw.length - (raw.length - 4) = 4
      omega
    have payload : (raw.take (raw.length - Struct.size crc)).length =
        Struct.size commandPayload := by
      rw [List.length_take]
      show min (raw.length - 4) raw.length = 17
      omega
    rcases bind_eq_error.mp failed with unread | ⟨expected, _, failed⟩
    · exact (liftStruct_unpack_ne_error trailer unread).elim
    · rcases bind_eq_error.mp failed with corrupt | ⟨_, _, failed⟩
      · exact ⟨_, check_eq_error corrupt⟩
      · rcases bind_eq_error.mp failed with unread | ⟨values, read, unpacked⟩
        · exact (liftStruct_unpack_ne_error payload unread).elim
        · rw [liftStruct_eq_ok, Struct.unpack_sized payload] at read
          cases read
          cases unpacked

/-- The answer to a frame that is not a repetition, and its effect. -/
def Controls.respond (input : Int × CommandFrame) (controls : Controls) : CommandAck × Controls :=
  let outcome := controls.execute input.2
  (⟨input.2.commandId, outcome.1, input.2.argument, input.1⟩, outcome.2)

/-- The datagrams that decode, each with its clock reading. -/
def decodedFrames (datagrams : List (Int × Bytes)) : List (Int × CommandFrame) :=
  datagrams.filterMap fun datagram =>
    (decodeCommand datagram.2).toOption.map fun frame => (datagram.1, frame)

namespace SpacecraftState

/-- A spacecraft as a server that remembers its replies. -/
def server (state : SpacecraftState) : Dedup.Server Int CommandAck Controls :=
  ⟨state.toControls, state.commandResults⟩

/-- The identifier that replies are remembered under. -/
def key (input : Int × CommandFrame) : Int := input.2.commandId

/-- An undecodable datagram raises and changes nothing. -/
theorem apply_undecodable {raw : Bytes} {error : PacketFailure}
    (undecodable : decodeCommand raw = .error error) (state : SpacecraftState) (nowNs : Int) :
    state.apply nowNs raw = (.error error, state) := by
  -- The frame is decoded first.
  rw [apply, undecodable]

/-- A decodable datagram is served. -/
theorem apply_decoded {raw : Bytes} {frame : CommandFrame} (decoded : decodeCommand raw = .ok frame)
    (state : SpacecraftState) (nowNs : Int) :
    (state.apply nowNs raw).1 =
        .ok (state.server.serve key Controls.respond (nowNs, frame)).1 ∧
      (state.apply nowNs raw).2.server =
        (state.server.serve key Controls.respond (nowNs, frame)).2 := by
  -- Both look the identifier up: a remembered one is answered from memory, another one is executed.
  rw [apply, decoded, Dedup.Server.serve]
  show _ ∧ _
  cases remembered : state.commandResults frame.commandId with
  | some cached => simp [server, key, remembered]
  | none => simp [server, key, remembered, Controls.respond]

/-- A repetition is answered from memory, and nothing changes. -/
theorem apply_remembered {raw : Bytes} {frame : CommandFrame} {ack : CommandAck}
    {state : SpacecraftState} (decoded : decodeCommand raw = .ok frame)
    (remembered : state.commandResults frame.commandId = some ack) (nowNs : Int) :
    state.apply nowNs raw = (.ok ack, state) := by
  -- The identifier is looked up before the command is executed.
  rw [apply, decoded]
  dsimp only
  rw [remembered]

/-- A row of datagrams is served frame by frame. -/
theorem applyAll_server (state : SpacecraftState) (datagrams : List (Int × Bytes)) :
    (state.applyAll datagrams).server =
      state.server.serveAll key Controls.respond (decodedFrames datagrams) := by
  -- By induction on the datagrams, from any state; what cannot be decoded drops out.
  induction datagrams generalizing state with
  | nil => rfl
  | cons datagram rest ih =>
    obtain ⟨nowNs, raw⟩ := datagram
    rw [applyAll, ih]
    cases decoded : decodeCommand raw with
    | error error =>
      rw [apply_undecodable decoded]
      simp [decodedFrames, decoded, Except.toOption]
    | ok frame =>
      rw [(apply_decoded decoded state nowNs).2]
      simp [decodedFrames, decoded, Except.toOption, Dedup.Server.serveAll]

/-- Once a frame is answered, its identifier is answered so for ever. -/
theorem apply_remembers {raw : Bytes} {frame : CommandFrame} (decoded : decodeCommand raw = .ok frame)
    (state : SpacecraftState) (nowNs : Int) (middle : List (Int × Bytes)) :
    ∃ ack, (state.apply nowNs raw).1 = .ok ack ∧
      ((state.apply nowNs raw).2.applyAll middle).commandResults frame.commandId = some ack := by
  -- The spacecraft is a server with a memory, and such a server keeps its answers.
  obtain ⟨reply, served⟩ := apply_decoded decoded state nowNs
  refine ⟨_, reply, ?_⟩
  show ((state.apply nowNs raw).2.applyAll middle).server.replies (key (nowNs, frame)) = _
  rw [applyAll_server, served]
  exact Dedup.Server.serveAll_keeps _ (Dedup.Server.serve_remembers _)

end SpacecraftState

/-- The table has three commands. -/
theorem lookup_commands {name : String} {definition : CommandDefinition} :
    commands.lookup name = some definition ↔
      (name = "SET_MODE" ∧ definition = ⟨1, 0, 3⟩) ∨
      (name = "SET_WHEEL_RPM" ∧ definition = ⟨2, -6000, 6000⟩) ∨
      (name = "RESET_FAULTS" ∧ definition = ⟨3, 0, 0⟩) := by
  -- The name is one of three or not listed.
  by_cases mode : name = "SET_MODE"
  · subst mode
    simp [commands, eq_comm]
  · by_cases wheel : name = "SET_WHEEL_RPM"
    · subst wheel
      simp [commands, List.lookup_cons, eq_comm]
    · by_cases faults : name = "RESET_FAULTS"
      · subst faults
        simp [commands, List.lookup_cons, eq_comm]
      · simp [commands, List.lookup_cons, beq_eq_false_iff_ne.mpr, mode, wheel, faults]

/-- The ranges of the spacecraft are those of the table, opcode by opcode. -/
theorem execute_accepts_iff {name : String} {definition : CommandDefinition}
    (listed : commands.lookup name = some definition) {frame : CommandFrame}
    (named : frame.opcode = definition.opcode) (controls : Controls) :
    (controls.execute frame).1 = 0 ↔
      definition.minimum ≤ frame.argument ∧ frame.argument ≤ definition.maximum := by
  -- One case per listed command, whose opcode names it.
  have names : opcodeToName.lookup 1 = some "SET_MODE" ∧
      opcodeToName.lookup 2 = some "SET_WHEEL_RPM" ∧
      opcodeToName.lookup 3 = some "RESET_FAULTS" := by decide
  rw [Controls.execute, named]
  rcases lookup_commands.mp listed with ⟨-, rfl⟩ | ⟨-, rfl⟩ | ⟨-, rfl⟩
  · simp only [names.1]
    by_cases range : 0 ≤ frame.argument ∧ frame.argument ≤ 3 <;> simp [range]
  · simp only [names.2.1]
    by_cases range : -6000 ≤ frame.argument ∧ frame.argument ≤ 6000 <;> simp [range]
  · simp only [names.2.2]
    by_cases zero : frame.argument = 0
    · simp [zero]
    · simp [zero]
      omega

/-- A command is valid exactly when its name is listed and its argument in range. -/
theorem validateCommand_eq_ok {name : String} {argument : Int} {definition : CommandDefinition} :
    validateCommand name argument = .ok definition ↔
      commands.lookup name = some definition ∧
        definition.minimum ≤ argument ∧ argument ≤ definition.maximum := by
  -- The range is checked after the name.
  rw [validateCommand]
  cases listed : commands.lookup name with
  | none => simp
  | some found =>
    dsimp only
    split
    next range =>
      constructor
      · intro same
        cases same
        exact ⟨rfl, range⟩
      · rintro ⟨same, -⟩
        cases same
        rfl
    next outside =>
      constructor
      · exact nofun
      · rintro ⟨same, range⟩
        cases same
        exact (outside range).elim

/-- The opcodes and arguments of valid commands fit a frame. -/
theorem frame_fits {name : String} {definition : CommandDefinition}
    (listed : commands.lookup name = some definition) {argument commandId : Int}
    (range : definition.minimum ≤ argument ∧ argument ≤ definition.maximum)
    (fresh : 0 ≤ commandId ∧ commandId < 2 ^ 32) :
    List.Forall₂ Struct.Code.Holds commandPayload [commandId, definition.opcode, argument, 0] := by
  -- The ranges of the table lie within the widths of the format.
  have argumentFits : Struct.Code.int32.Holds argument := by
    show -2 ^ 31 ≤ argument ∧ argument < -2 ^ 31 + 256 ^ 4
    rcases lookup_commands.mp listed with ⟨-, rfl⟩ | ⟨-, rfl⟩ | ⟨-, rfl⟩ <;>
      dsimp only at range <;> omega
  have opcodeFits : Struct.Code.uint8.Holds definition.opcode := by
    rcases lookup_commands.mp listed with ⟨-, rfl⟩ | ⟨-, rfl⟩ | ⟨-, rfl⟩ <;> decide
  have idFits : Struct.Code.uint32.Holds commandId := by
    show 0 ≤ commandId ∧ commandId < 0 + 256 ^ 4
    omega
  exact .cons idFits (.cons opcodeFits (.cons argumentFits (.cons (by decide) .nil)))

/-- The first answer to a frame carries the status of its execution. -/
theorem SpacecraftState.apply_fresh {raw : Bytes} {frame : CommandFrame} {state : SpacecraftState}
    (decoded : decodeCommand raw = .ok frame)
    (fresh : state.commandResults frame.commandId = none) (nowNs : Int) :
    (state.apply nowNs raw).1 = .ok ⟨frame.commandId, (state.toControls.execute frame).1,
      frame.argument, nowNs⟩ := by
  -- The command is executed on the controls alone.
  rw [apply, decoded]
  dsimp only
  rw [fresh]

open SpacecraftState in
/--
Commands are executed exactly once per identifier, and exactly those that the ground validates.

The controls that any datagrams lead to are those that the first decodable frame of each identifier
leads to, executed in order without any memory. Repetitions are answered with the same
acknowledgement, undecodable datagrams raise `PacketError`, and neither changes anything. The ground
accepts a name and an argument exactly when a frame of them is accepted by the spacecraft.
-/
theorem commands_exactly_once :
    (∀ datagrams : List (Int × Bytes), (applyAll {} datagrams).toControls =
      Dedup.executeAll Controls.respond {}
        (Dedup.firsts key (fun _ => false) (decodedFrames datagrams))) ∧
      (∀ (state : SpacecraftState) (nowNs laterNs : Int) (raw again : Bytes)
        (middle : List (Int × Bytes)) (frame repetition : CommandFrame),
        decodeCommand raw = .ok frame → decodeCommand again = .ok repetition →
        repetition.commandId = frame.commandId →
          ((state.apply nowNs raw).2.applyAll middle).apply laterNs again =
            ((state.apply nowNs raw).1, (state.apply nowNs raw).2.applyAll middle)) ∧
      (∀ (state : SpacecraftState) (nowNs : Int) (raw : Bytes),
        (∀ frame, decodeCommand raw ≠ .ok frame) →
          ∃ message, state.apply nowNs raw = (.error (.packetError message), state)) ∧
      ∀ (state : SpacecraftState) (nowNs : Int) (name : String) (argument commandId : Int),
        (0 ≤ commandId ∧ commandId < 2 ^ 32) → state.commandResults commandId = none →
        ((∃ definition, validateCommand name argument = .ok definition) ↔
          ∃ definition frame raw ack, commands.lookup name = some definition ∧
            frame.opcode = definition.opcode ∧ frame.argument = argument ∧
            frame.commandId = commandId ∧ encodeCommand frame = .ok raw ∧
            (state.apply nowNs raw).1 = .ok ack ∧ ack.status = 0) := by
  -- The first two parts are about the server that the spacecraft is, the last one about the two
  -- tables.
  refine ⟨fun datagrams => ?_, ?_, ?_, ?_⟩
  · have served := congrArg Dedup.Server.world (applyAll_server {} datagrams)
    rw [Dedup.Server.serveAll_world] at served
    exact served
  · intro state nowNs laterNs raw again middle frame repetition decoded repeated same
    obtain ⟨ack, answered, remembered⟩ := apply_remembers decoded state nowNs middle
    rw [← same] at remembered
    rw [apply_remembered repeated remembered, answered]
  · intro state nowNs raw undecodable
    cases decoded : decodeCommand raw with
    | ok frame => exact (undecodable frame decoded).elim
    | error error =>
      obtain ⟨message, rfl⟩ := decodeCommand_error decoded
      exact ⟨message, apply_undecodable decoded state nowNs⟩
  · intro state nowNs name argument commandId range fresh
    constructor
    · rintro ⟨definition, valid⟩
      obtain ⟨listed, within⟩ := validateCommand_eq_ok.mp valid
      obtain ⟨raw, encoded⟩ := @exists_encodeCommand ⟨commandId, definition.opcode, argument, 0⟩
        (frame_fits listed within range)
      exact ⟨definition, _, raw, _, listed, rfl, rfl, rfl, encoded,
        apply_fresh (decodeCommand_encodeCommand encoded) fresh nowNs,
        (execute_accepts_iff listed rfl _).mpr within⟩
    · rintro ⟨definition, frame, raw, ack, listed, opcode, rfl, rfl, encoded, answered, accepted⟩
      rw [apply_fresh (decodeCommand_encodeCommand encoded) fresh nowNs] at answered
      cases answered
      exact ⟨definition, validateCommand_eq_ok.mpr
        ⟨listed, (execute_accepts_iff listed opcode _).mp accepted⟩⟩

end Cislunar
