import Cislunar.Proofs.Services.HealthPath

/-!
What the operators may rely on when they watch the limits.

An alert is about a sample that breaks the limit, a sample that was processed has all of its alerts,
and no history keeps an anomaly from being reported.
-/

namespace Cislunar

open Foundation SpaceLink

namespace HealthSystem

/-- A row tells a sample as exactly as the link carries it. -/
structure Tells (row : HealthRow) (sample : HealthTelemetry) : Prop where
  time : row.spacecraftTimeNs = sample.timestampNs
  voltage : |row.busVoltageV - sample.busVoltageV| ≤ resolution / 1000
  temperature : |row.batteryTempC - sample.batteryTempC| ≤ resolution / 100
  wheelRpm : row.wheelRpm = sample.wheelRpm
  mode : row.mode = sample.mode
  faultFlags : row.faultFlags = sample.faultFlags

/--
A row is of a sample with a property that the spacecraft has sent under the count of the row.

Samples that differ by less than the resolution of the link may be one datagram. The row tells every
sample that the datagram can have been sent for, and every one of them has the property.
-/
def Backed (system : HealthSystem) (row : HealthRow) (shows : HealthTelemetry → Prop) : Prop :=
  ∃ raw ∈ system.downlink, (∃ sample, encodeHealth row.sequenceCount sample = .ok raw) ∧
    ∀ sample, encodeHealth row.sequenceCount sample = .ok raw → Tells row sample ∧ shows sample

/-- A published envelope is backed by what holds of every sample that it can have been sent for. -/
theorem Sent.backed {system : HealthSystem} {envelope : HealthEnvelope}
    {shows : HealthTelemetry → Prop} (sent : system.Sent envelope)
    (shown : ∀ sample raw, encodeHealth envelope.sequenceCount sample = .ok raw →
      envelope.data = sample.carried → shows sample) : system.Backed envelope.row shows := by
  -- The link carries every field exactly but the voltage and the temperature.
  obtain ⟨raw, among, sent, encoded, same⟩ := sent
  refine ⟨raw, among, ⟨sent, encoded⟩, fun sample encoded' => ?_⟩
  have same' : envelope.data = sample.carried := same.trans (carried_unique encoded encoded')
  refine ⟨?_, shown sample raw encoded' same'⟩
  obtain ⟨voltage, temperature⟩ := HealthTelemetry.carried_near encoded'
  rw [← same'] at voltage temperature
  exact ⟨congrArg (·.timestampNs) same', voltage, temperature, congrArg (·.wheelRpm) same',
    congrArg (·.mode) same', congrArg (·.faultFlags) same'⟩

/-- A stored alert has a row whose sample breaks the limit itself. -/
theorem Sane.warranted {system : HealthSystem} (sane : system.Sane) {alert : LimitAlert}
    (member : alert ∈ system.path.alerts) : ∃ row ∈ system.path.telemetryHealth,
      row.sequenceCount = alert.telemetrySequence ∧
      system.Backed row (·.Alarms alert.parameter alert.severity) := by
  obtain ⟨envelope, published, stored, violation, reported, rfl⟩ := sane.alerts alert member
  refine ⟨envelope.row, stored, rfl, (sane.messages _ published).backed fun sample _ _ same => ?_⟩
  -- What the rounded sample breaks is broken by the sample itself.
  rw [same] at reported
  exact sample.carried_breaksLess.alarms reported

/--
No alert is raised without reason.

Handlers interleave in any order, fail, crash and are given their messages again and again, the link
loses, repeats and reorders what is sent on it, and the spacecraft is sent any bytes and restarts.
Every row then tells the sample that the spacecraft has sent, and every alert has a row with its
count whose sample breaks the limit itself, at least as badly as the alert says. What is published
as an alert is in the table.
-/
theorem alerts_warranted (config : HealthConfig)
    (run : Relation.ReflTransGen HealthStep HealthConfig.initial config) :
    (∀ row ∈ config.state.path.telemetryHealth, config.state.Backed row fun _ => True) ∧
    (∀ alert ∈ config.state.path.alerts, ∃ row ∈ config.state.path.telemetryHealth,
      row.sequenceCount = alert.telemetrySequence ∧
      config.state.Backed row (·.Alarms alert.parameter alert.severity)) ∧
    ∀ alert, .limitAlert alert ∈ config.state.path.stream → alert ∈ config.state.path.alerts := by
  -- Rows and alerts come from published samples, and these from datagrams of the spacecraft.
  have sane := sane_of_run run
  refine ⟨fun row member => ?_, fun alert member => sane.warranted member,
    fun alert published => sane.messages _ published⟩
  obtain ⟨envelope, published, rfl⟩ := sane.rows row member
  exact (sane.messages _ published).backed fun _ _ _ _ => trivial

/-- A violation is reported under a count, at least as badly as it is. -/
def Reported (system : HealthSystem) (telemetrySequence : Int)
    (violation : LimitViolation) : Prop :=
  ∃ alert ∈ system.path.alerts, .limitAlert alert ∈ system.path.stream ∧
    alert.telemetrySequence = telemetrySequence ∧ alert.parameter = violation.parameter ∧
    (violation.severity = .critical → alert.severity = .critical)

/-- What was acknowledged is stored, and everything that it shows is reported. -/
theorem Sane.complete {system : HealthSystem} (sane : system.Sane) {envelope : HealthEnvelope}
    (acknowledged : envelope ∈ system.path.acknowledged) :
    envelope.row ∈ system.path.telemetryHealth ∧ ∀ sample : HealthTelemetry,
      sample.BreaksLess envelope.data → ∀ violation ∈ evaluateHealth sample,
        system.Reported envelope.sequenceCount violation := by
  -- What was acknowledged was published as processed before, with the alerts of its violations.
  obtain ⟨-, processed⟩ := sane.acknowledged envelope acknowledged
  obtain ⟨-, stored, raised⟩ := sane.messages _ processed
  refine ⟨stored, fun sample less violation listed => ?_⟩
  obtain ⟨shown, reported, parameter, severity⟩ := less.alarms listed
  obtain ⟨among, published⟩ := raised shown reported
  exact ⟨_, among, published, rfl, parameter, severity⟩

/--
What was acknowledged is recorded for good, with an alert for everything that it shows.

In every state that follows an acknowledgement the sample has its row, and every limit that the
sample of the spacecraft breaks by more than half a unit of the link and a billionth of one has an
alert that is stored and published under the count of the row, whatever failed and was repeated
before.
-/
theorem alarms_complete (config later : HealthConfig)
    (run : Relation.ReflTransGen HealthStep HealthConfig.initial config)
    (envelope : HealthEnvelope) (acknowledged : envelope ∈ config.state.path.acknowledged)
    (onward : Relation.ReflTransGen HealthStep config later) :
    envelope.row ∈ later.state.path.telemetryHealth ∧
      later.state.Backed envelope.row fun sample =>
        ∀ violation ∈ evaluateHealth sample.eased,
          later.state.Reported envelope.sequenceCount violation := by
  -- The eased sample breaks less than the one that was carried, so all that it breaks was reported.
  have sane := sane_of_run (run.trans onward)
  have still := (later_of_run run onward).acknowledged envelope acknowledged
  obtain ⟨stored, reported⟩ := sane.complete still
  obtain ⟨published, -⟩ := sane.acknowledged envelope still
  exact ⟨stored, (sane.messages _ published).backed fun sample raw encoded same =>
    reported _ (same ▸ HealthTelemetry.eased_breaksLess encoded)⟩

section Anomaly

/-- The sample of a turn that shows an anomaly. -/
def anomalySample (state : SpacecraftState) (draw : SpacecraftState.TelemetryDraw) :
    HealthTelemetry :=
  ⟨draw.nowNs, 228 / 10, 69, state.wheelRpm, state.mode, 1⟩

/-- A spacecraft in whatever state sends the sample of an anomaly. -/
theorem turn_sends {system : HealthSystem} (operable : system.spacecraft.Operable)
    {draw : SpacecraftState.TelemetryDraw} (anomaly : draw.anomaly (system.tick + 1) = true)
    (clock : 0 ≤ draw.nowNs ∧ draw.nowNs < 2 ^ 64) :
    ∃ raw, encodeHealth system.spacecraft.healthSequence
        (anomalySample system.spacecraft draw) = .ok raw ∧
      (system.turn draw).downlink = system.downlink ++ [raw] := by
  -- The fields of the sample fit, so that it can be packed.
  have marked := operable.marked
  obtain ⟨mode, wheel, -, count⟩ := operable
  have voltage : roundedProduct (228 / 10) 1000 = 22800 := by decide +kernel
  have temperature : roundedProduct 69 100 = 6900 := by decide +kernel
  obtain ⟨raw, encoded⟩ : ∃ raw, encodeHealth system.spacecraft.healthSequence
      (anomalySample system.spacecraft draw) = .ok raw := by
    refine encodeHealth_total count ?_
    dsimp only [anomalySample]
    rw [voltage, temperature]
    -- The clock is the only field that the state does not bound.
    have narrow : Struct.Code.uint8.Holds system.spacecraft.mode :=
      ⟨mode.1, lt_of_le_of_lt mode.2 (by decide)⟩
    have wide : Struct.Code.int32.Holds system.spacecraft.wheelRpm :=
      ⟨le_trans (by decide) wheel.1, lt_of_le_of_lt wheel.2 (by decide)⟩
    exact .cons clock (.cons (by decide) (.cons (by decide) (.cons wide (.cons narrow
      (.cons (by decide) .nil)))))
  refine ⟨raw, encoded, ?_⟩
  rw [turn, SpacecraftState.telemetryTurn]
  simp only [anomaly, if_true, marked]
  rw [show encodeHealth _ ⟨_, _, _, _, _, _⟩ = _ from encoded]
  rfl

/-- A request that reaches its service is answered with its effect. -/
theorem callHealth_runs {thread : Nat} (request : HealthRequest) (system : HealthSystem) :
    Runs (machine.Does thread) (callHealth request) system
      (.ok (system.path.effect {} request).1)
      { system with path := (system.path.effect {} request).2 } := by
  -- The empty choice lets every request reach its service.
  refine Runs.call ⟨{}, ?_⟩
  cases request <;> rfl

/-- A health sample that is heard is published. -/
theorem ingestHealth_runs {thread : Nat} (system : HealthSystem) {raw : Bytes}
    {packet : SpacePacket} {health : HealthTelemetry}
    (decoded : decodeSpacePacket raw = .ok packet) (kind : packet.apid = apidHealth)
    (read : decodeHealth packet = .ok health) :
    Runs (machine.Does thread) (HealthProcess.ingestHealth raw "").program system (.ok ())
      { system with path := { system.path with stream := system.path.stream ++
        [.health ⟨packet.apid, packet.sequenceCount, 0, "", health⟩] } } := by
  -- The datagram is decoded, the time is asked for, and the sample is read and published.
  refine Runs.tryCatch _ ?_
  rw [decoded]
  refine Runs.bind (Runs.ofExcept _ _) ?_
  refine Runs.bind (callHealth_runs .nowNs system) ?_
  rw [if_pos kind, read]
  refine Runs.bind (Runs.ofExcept _ _) ?_
  exact callHealth_runs _ system

/-- Every alert of a sample can be raised. -/
theorem raiseAlerts_runs (envelope : HealthEnvelope) (violations : List LimitViolation)
    (system : HealthSystem) : ∃ path, ∀ thread : Nat, Runs (machine.Does thread)
      (raiseAlerts envelope violations) system (.ok ()) { system with path := path } := by
  -- By induction on the violations: each takes two requests.
  induction violations generalizing system with
  | nil => exact ⟨system.path, fun _ => .done _ _⟩
  | cons violation rest ih =>
    let inserted := (system.path.effect {} (.insertAlert (envelope.alert violation))).2
    let published := (inserted.effect {} (.publish (.limitAlert (envelope.alert violation)))).2
    obtain ⟨path, others⟩ := ih { system with path := published }
    refine ⟨path, fun thread => ?_⟩
    refine Runs.bind (callHealth_runs _ system) ?_
    refine Runs.bind (callHealth_runs _ { system with path := inserted }) ?_
    exact others thread

/-- A published sample can be processed and acknowledged. -/
theorem processHealth_runs (envelope : HealthEnvelope) (system : HealthSystem) :
    ∃ path : HealthPath, envelope ∈ path.acknowledged ∧ ∀ thread : Nat,
      Runs (machine.Does thread) (HealthProcess.processHealth envelope).program system (.ok ())
        { system with path := path } := by
  -- The row, the alerts, the processed sample and the acknowledgement follow one another.
  let stored := (system.path.effect {} (.insertHealth envelope.row)).2
  obtain ⟨raised, alarms⟩ := raiseAlerts_runs envelope (evaluateHealth envelope.data)
    { system with path := stored }
  let processed := (raised.effect {}
    (.publish (.processed envelope (evaluateHealth envelope.data)))).2
  let settled := (processed.effect {} (.settle envelope true)).2
  refine ⟨settled, List.mem_append_right _ (List.mem_singleton.mpr rfl), fun thread => ?_⟩
  refine Runs.tryCatch _ ?_
  refine Runs.bind (callHealth_runs _ system) ?_
  refine Runs.bind (alarms thread) ?_
  refine Runs.bind (callHealth_runs _ { system with path := raised }) ?_
  exact callHealth_runs _ { system with path := processed }

/-- What an anomaly shows is critical even with the resolution of the link given away. -/
theorem anomaly_critical (state : SpacecraftState) (draw : SpacecraftState.TelemetryDraw)
    {parameter : String}
    (watched : parameter ∈ ["bus_voltage_v", "battery_temp_c", "fault_flags"]) :
    ∃ violation ∈ evaluateHealth (anomalySample state draw).eased,
      violation.parameter = parameter ∧ violation.severity = .critical := by
  -- The three values are far enough beyond their limits.
  simp only [List.mem_cons, List.not_mem_nil, or_false] at watched
  rcases watched with rfl | rfl | rfl
  · exact ⟨⟨"bus_voltage_v", 228 / 10 + resolution / 1000, .critical,
      "Bus voltage below 24.0 V"⟩,
      by norm_num [evaluateHealth, anomalySample, HealthTelemetry.eased, resolution], rfl, rfl⟩
  · exact ⟨⟨"battery_temp_c", 69 - resolution / 100, .critical, "Battery temperature above 65 C"⟩,
      by norm_num [evaluateHealth, anomalySample, HealthTelemetry.eased, resolution], rfl, rfl⟩
  · exact ⟨⟨"fault_flags", 1, .critical, "Spacecraft fault flag is set"⟩,
      by simp [evaluateHealth, anomalySample, HealthTelemetry.eased], rfl, rfl⟩

/-- A handler that may be called and can run alone can be run from start to end. -/
theorem handler_completes {config : HealthConfig} (bounded : config.Bounded)
    (process : HealthProcess) (called : config.state.Calls process) {after : HealthSystem}
    (runs : ∀ thread : Nat,
      Runs (machine.Does thread) process.program config.state (.ok ()) after) :
    ∃ config', Relation.ReflTransGen HealthStep config config' ∧ config'.state = after ∧
      config'.Bounded :=
  bounded.completes rfl (fun _ => ⟨process, called, rfl⟩) runs

/--
No history keeps an anomaly from being reported.

Whatever commands, failures, crashes and restarts came before a turn of the telemetry loop that
shows an anomaly at an instant that its column can hold, the turn sends its sample. Whatever comes
after it, there is a continuation in which the spacecraft sends nothing more, and which stores the
row of that sample and stores and publishes critical alerts of the voltage, the temperature and the
fault flags under the sequence count of the turn.
-/
theorem anomaly_alarms (config later : HealthConfig)
    (run : Relation.ReflTransGen HealthStep HealthConfig.initial config)
    (draw : SpacecraftState.TelemetryDraw)
    (anomaly : draw.anomaly (config.state.tick + 1) = true)
    (clock : 0 ≤ draw.nowNs ∧ draw.nowNs < 2 ^ 63)
    (onward : Relation.ReflTransGen HealthStep ⟨config.state.turn draw, config.threads⟩ later) :
    (∃ raw, encodeHealth config.state.spacecraft.healthSequence
        (anomalySample config.state.spacecraft draw) = .ok raw ∧
      (config.state.turn draw).downlink = config.state.downlink ++ [raw]) ∧
    ∃ last, Relation.ReflTransGen HealthStep later last ∧
      last.state.downlink = later.state.downlink ∧
      (∃ row ∈ last.state.path.telemetryHealth,
        row.sequenceCount = config.state.spacecraft.healthSequence ∧
        Tells row (anomalySample config.state.spacecraft draw)) ∧
      ∀ parameter ∈ ["bus_voltage_v", "battery_temp_c", "fault_flags"],
        ∃ alert ∈ last.state.path.alerts, .limitAlert alert ∈ last.state.path.stream ∧
          alert.telemetrySequence = config.state.spacecraft.healthSequence ∧
          alert.parameter = parameter ∧ alert.severity = .critical := by
  have turned : HealthStep config ⟨config.state.turn draw, config.threads⟩ :=
    .environment (.turn draw)
  have reached := (run.tail turned).trans onward
  have bounded : later.Bounded := Config.Bounded.run ⟨0, fun _ _ => rfl⟩ reached
  -- The datagram of the turn is on the link for good.
  have fits : 0 ≤ draw.nowNs ∧ draw.nowNs < 2 ^ 64 := by omega
  obtain ⟨raw, encoded, sent⟩ := turn_sends (sane_of_run run).spacecraft anomaly fits
  refine ⟨⟨raw, encoded, sent⟩, ?_⟩
  have received := (later_of_run (run.tail turned) onward).downlink raw
    (sent ▸ List.mem_append_right _ (List.mem_singleton.mpr rfl))
  obtain ⟨packet, decoded, kind, counted, read⟩ := decodeHealth_of_encoded encoded
  -- It is heard, and what is published of it is processed.
  obtain ⟨heard, listened, published, bounded⟩ := handler_completes bounded
    (.ingestHealth raw "") (.inl received) fun _ => ingestHealth_runs later.state decoded kind read
  let envelope : HealthEnvelope := ⟨packet.apid, packet.sequenceCount, 0, "",
    (anomalySample config.state.spacecraft draw).carried⟩
  have among : .health envelope ∈ heard.state.path.stream := by
    rw [published]
    exact List.mem_append_right _ (List.mem_singleton.mpr rfl)
  obtain ⟨path, acknowledged, runs⟩ := processHealth_runs envelope heard.state
  obtain ⟨last, processed, final, -⟩ :=
    handler_completes bounded (.processHealth envelope) among runs
  have sane := sane_of_run (reached.trans (listened.trans processed))
  have settled : envelope ∈ last.state.path.acknowledged := by
    rw [final]
    exact acknowledged
  obtain ⟨stored, reported⟩ := sane.complete settled
  obtain ⟨voltage, temperature⟩ := HealthTelemetry.carried_near encoded
  refine ⟨last, listened.trans processed, ?_, ⟨envelope.row, stored, counted,
    ⟨rfl, voltage, temperature, rfl, rfl, rfl⟩⟩, fun parameter watched => ?_⟩
  · rw [final, published]
  -- Whatever the link takes away, the limits of an anomaly stay broken.
  obtain ⟨violation, listed, same, critical⟩ :=
    anomaly_critical config.state.spacecraft draw watched
  obtain ⟨alert, stored, told, count, about, severity⟩ :=
    reported _ (HealthTelemetry.eased_breaksLess encoded) violation listed
  exact ⟨alert, stored, told, count.trans counted, about.trans same, severity critical⟩

end Anomaly

section Sample

/-- What a handler chooses where nothing fails, once for each of its turns. -/
def untroubled (turns : Nat) : List machine.Choice :=
  List.replicate turns ({} : HealthChoice)

/-- Every turn shows an anomaly. -/
def anomalyDraw : SpacecraftState.TelemetryDraw := ⟨1, 0, 284 / 10, 31⟩

/-- The first turn of the telemetry loop. -/
def anomalySent : HealthConfig :=
  ⟨HealthConfig.initial.state.turn anomalyDraw, HealthConfig.initial.threads⟩

/-- The datagram of the turn. -/
def anomalyFrame : Bytes := (encodeHealth 0 (anomalySample {} anomalyDraw)).toOption.getD []

/-- The ingest of the datagram. -/
def anomalyIngest : HealthProcess := .ingestHealth anomalyFrame ""

/-- The datagram is heard. -/
def anomalyHeard : HealthConfig :=
  anomalySent.launch machine 0 anomalyIngest.program (untroubled 2)

/-- The message that is published of it. -/
def anomalyEnvelope : HealthEnvelope := ⟨100, 0, 0, "", ⟨0, 228 / 10, 69, 1200, 1, 1⟩⟩

/-- The processing of the sample. -/
def anomalyProcess : HealthProcess := .processHealth anomalyEnvelope

/-- The sample is processed. -/
def anomalyProcessed : HealthConfig :=
  anomalyHeard.launch machine 1 anomalyProcess.program (untroubled 9)

/-- An anomaly is sent, heard and processed in a run of the health path. -/
theorem anomalyProcessed_run :
    Relation.ReflTransGen HealthStep HealthConfig.initial anomalyProcessed := by
  -- The turn is sent, its datagram is ingested by one process, and its envelope is processed by
  -- another.
  have sent : HealthStep HealthConfig.initial anomalySent := .environment (.turn anomalyDraw)
  have received : anomalyFrame ∈ anomalySent.state.downlink := by decide +kernel
  have heard : Relation.ReflTransGen HealthStep anomalySent anomalyHeard :=
    Config.launch_run rfl ⟨anomalyIngest, .inl received, rfl⟩ _
  have published : .health anomalyEnvelope ∈ anomalyHeard.state.path.stream := by decide +kernel
  have free : anomalyHeard.threads 1 = none := by
    rw [anomalyHeard, Config.launch_other (by omega)]
    rfl
  have processed : Relation.ReflTransGen HealthStep anomalyHeard anomalyProcessed :=
    Config.launch_run free ⟨anomalyProcess, published, rfl⟩ _
  exact .head sent (heard.trans processed)

end Sample

/-- The alert of the first voltage has a low voltage behind it. -/
theorem anomaly_warranted : ∃ row ∈ anomalyProcessed.state.path.telemetryHealth,
    row.sequenceCount = 0 ∧
      anomalyProcessed.state.Backed row (·.Alarms "bus_voltage_v" .critical) := by
  -- The run is evaluated for its alert only.
  have raised : (⟨"bus_voltage_v", 228 / 10, .critical, "Bus voltage below 24.0 V", 0⟩ :
      LimitAlert) ∈ anomalyProcessed.state.path.alerts := by decide +kernel
  exact (alerts_warranted anomalyProcessed anomalyProcessed_run).2.1 _ raised

/-- The first sample was acknowledged and has its row. -/
theorem anomaly_complete :
    anomalyEnvelope.row ∈ anomalyProcessed.state.path.telemetryHealth ∧
      anomalyProcessed.state.Backed anomalyEnvelope.row fun sample =>
        ∀ violation ∈ evaluateHealth sample.eased,
          anomalyProcessed.state.Reported anomalyEnvelope.sequenceCount violation :=
  alarms_complete anomalyProcessed anomalyProcessed anomalyProcessed_run anomalyEnvelope
    (by decide +kernel) .refl

/-- After an anomaly was processed the next one can be reported too. -/
theorem next_anomaly_alarms : ∃ last : HealthConfig,
    (∃ row ∈ last.state.path.telemetryHealth, row.sequenceCount = 1 ∧
      row.spacecraftTimeNs = anomalyDraw.nowNs) ∧
    ∀ parameter ∈ ["bus_voltage_v", "battery_temp_c", "fault_flags"],
      ∃ alert ∈ last.state.path.alerts, alert.parameter = parameter ∧
        alert.telemetrySequence = 1 := by
  -- The count of the next sample is one.
  have count : anomalyProcessed.state.spacecraft.healthSequence = 1 := by decide +kernel
  obtain ⟨-, last, -, -, ⟨row, stored, counted, tells⟩, alarms⟩ := anomaly_alarms anomalyProcessed
    _ anomalyProcessed_run anomalyDraw (by decide +kernel) (by decide) .refl
  refine ⟨last, ⟨row, stored, counted.trans count, tells.time⟩, fun parameter watched => ?_⟩
  obtain ⟨alert, stored, -, sequence, about, -⟩ := alarms parameter watched
  exact ⟨alert, stored, about, sequence.trans count⟩

end HealthSystem

end Cislunar
