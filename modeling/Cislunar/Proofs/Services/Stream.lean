import Cislunar.Proofs.Services.Alarms
import Cislunar.Services.Stream

/-!
What an operator watches is on record.

Messages come in the order of their publication, none is invented or repeated, and only those are
missed that a hundred newer ones have replaced.
-/

namespace Cislunar

open Foundation

namespace HealthSystem

/-- Messages that a subscription is for. -/
def ofPattern (pattern : List String) (messages : List HealthMessage) : List HealthMessage :=
  messages.filter fun message => covers pattern message.subject

/-- No message comes through two subscriptions. -/
theorem covers_unique {message : HealthMessage} {first second : List String}
    (one : first ∈ streamPatterns) (other : second ∈ streamPatterns)
    (left : covers first message.subject = true) (right : covers second message.subject = true) :
    first = second := by
  -- There are three subjects and two patterns, so each pair can be looked at.
  have apart : ∀ subject ∈
      [["telemetry", "health"], ["alerts", "limit"], ["telemetry", "processed"]],
      ∀ first ∈ streamPatterns, ∀ second ∈ streamPatterns, covers first subject = true →
        covers second subject = true → first = second := by decide +kernel
  have known : message.subject ∈
      [["telemetry", "health"], ["alerts", "limit"], ["telemetry", "processed"]] := by
    cases message <;> simp [HealthMessage.subject]
  exact apart _ known _ one _ other left right

/-- The stream is only ever added to. -/
theorem stream_grows {config later : HealthConfig} (step : HealthStep config later) :
    config.state.path.stream <+: later.state.path.stream := by
  cases step with
  | @act thread req next choice reply state running performed =>
    have grown : config.state.path.stream <+: (config.state.path.effect choice req).2.stream := by
      cases req with
      | publish message => exact List.prefix_append _ _
      | settle envelope positive => cases positive <;> exact List.prefix_rfl
      | nowNs | insertHealth row | insertAlert row => exact List.prefix_rfl
    dsimp only [machine] at performed
    -- A request may be lost before its effect or its answer after it.
    cases fault : req.fault choice <;> rw [fault] at performed <;> cases performed
    · exact grown
    · exact List.prefix_rfl
    · exact grown
  | start free allowed => exact List.prefix_rfl
  | crash thread => exact List.prefix_rfl
  | environment moved => cases moved <;> exact List.prefix_rfl

/-- What holds between any two steps of a client. -/
structure Watches (watched : WatchedConfig) : Prop where
  faithful : watched.client.post.Faithful
  within : ∀ pattern, watched.client.behind pattern ≤ watched.config.state.path.stream.length
  /-- What came through a subscription was published before what it has yet to get. -/
  inOrder : ∀ pattern ∈ streamPatterns, (ofPattern pattern watched.client.post.came).Sublist
    (watched.config.state.path.stream.take (watched.client.behind pattern))
  /-- Nothing comes but through a subscription. -/
  subscribed : ∀ message ∈ watched.client.post.came,
    message ∈ watched.config.state.path.stream ∧
      ∃ pattern ∈ streamPatterns, covers pattern message.subject = true

/-- A client that has just connected watches. -/
theorem Watches.start : Watches .initial where
  faithful := .start
  within _ := Nat.le_refl 0
  inOrder _ _ := .refl _
  subscribed _ member := by cases member

section Steps
variable {watched : WatchedConfig}

/-- What the health path does is only more for the client to get. -/
theorem Watches.system (held : Watches watched) {config : HealthConfig}
    (step : HealthStep watched.config config) : Watches { watched with config := config } := by
  -- What was behind a subscription stays where it is in a longer stream.
  obtain ⟨more, grown⟩ := stream_grows step
  refine ⟨held.faithful, fun pattern => ?_, fun pattern listed => ?_, fun message came => ?_⟩
  · exact (held.within pattern).trans (stream_grows step).length_le
  · rw [← grown, List.take_append_of_le_length (held.within pattern)]
    exact held.inOrder pattern listed
  · obtain ⟨published, through⟩ := held.subscribed message came
    rw [← grown]
    exact ⟨List.mem_append_left _ published, through⟩

/-- A subscription that goes on has more behind it. -/
theorem Watches.pass (held : Watches watched) {pattern : List String} {message : HealthMessage}
    (next : watched.config.state.path.stream[watched.client.behind pattern]? = some message) :
    Watches { watched with client := watched.client.pass pattern } := by
  -- Nothing comes in, and the other subscriptions stay where they are.
  obtain ⟨here, -⟩ := List.getElem?_eq_some_iff.mp next
  refine ⟨held.faithful, fun other => ?_, fun other listed => ?_, held.subscribed⟩
  · show Function.update watched.client.behind pattern _ other ≤ _
    by_cases same : other = pattern
    · subst same
      rw [Function.update_self]
      exact here
    · rw [Function.update_of_ne same]
      exact held.within other
  · refine (held.inOrder other listed).trans (List.take_sublist_take_left ?_)
    show _ ≤ Function.update watched.client.behind pattern _ other
    by_cases same : other = pattern
    · subst same
      rw [Function.update_self]
      omega
    · rw [Function.update_of_ne same]

/-- A message that comes through its subscription was published next. -/
theorem Watches.callback (held : Watches watched) {pattern : List String} {message : HealthMessage}
    (subscribed : pattern ∈ streamPatterns)
    (next : watched.config.state.path.stream[watched.client.behind pattern]? = some message)
    (covered : covers pattern message.subject = true) :
    Watches { watched with client := watched.client.callback pattern message } := by
  obtain ⟨-, within, inOrder, -⟩ := held.pass next
  refine ⟨held.faithful.put message, within, fun other listed => ?_, fun came member => ?_⟩
  · show (ofPattern other (watched.client.post.came ++ [message])).Sublist _
    rw [ofPattern, List.filter_append]
    by_cases same : other = pattern
    · -- What was published before was behind the subscription, and the message follows it.
      subst same
      show (_ : List HealthMessage).Sublist (watched.config.state.path.stream.take
        (Function.update watched.client.behind other _ other))
      rw [Function.update_self, List.take_add_one, next, List.filter_singleton, covered]
      exact (held.inOrder other listed).append (.refl _)
    · have foreign : covers other message.subject = false := by
        rw [← Bool.not_eq_true]
        exact fun other' => same (covers_unique listed subscribed other' covered)
      rw [List.filter_singleton, foreign, cond_false, List.append_nil]
      exact inOrder other listed
  · rcases List.mem_append.mp member with old | new
    · exact held.subscribed came old
    · rw [List.mem_singleton.mp new]
      exact ⟨List.mem_of_getElem? next, pattern, subscribed, covered⟩

/-- Each step keeps what a client may rely on. -/
theorem Watches.step (held : Watches watched) {later : WatchedConfig}
    (step : WatchedStep watched later) : Watches later := by
  -- By the kind of step; the sender takes the oldest record of its mailbox.
  cases step with
  | system step => exact held.system step
  | pass next => exact held.pass next
  | callback subscribed next covered => exact held.callback subscribed next covered
  | send taken => exact ⟨held.faithful.get taken, held.within, held.inOrder, held.subscribed⟩

end Steps

/-- What an operator may conclude from a message. -/
def Recorded (system : HealthSystem) : HealthMessage → Prop
  | .health _ => False
  | .limitAlert alert => alert ∈ system.path.alerts ∧ ∃ row ∈ system.path.telemetryHealth,
      row.sequenceCount = alert.telemetrySequence ∧
      system.Backed row (·.Alarms alert.parameter alert.severity)
  | .processed envelope violations => violations = evaluateHealth envelope.data ∧
      envelope.row ∈ system.path.telemetryHealth ∧
      ∀ violation ∈ violations, system.Raised envelope violation

/-- In every run the client may rely on what it gets, and the health path runs as it does alone. -/
theorem watches_of_run {watched : WatchedConfig}
    (run : Relation.ReflTransGen WatchedStep .initial watched) :
    Watches watched ∧ Relation.ReflTransGen HealthStep HealthConfig.initial watched.config := by
  -- The client only listens, so its steps leave the health path alone.
  induction run with
  | refl => exact ⟨.start, .refl⟩
  | tail _ step ih =>
    obtain ⟨held, alone⟩ := ih
    refine ⟨held.step step, ?_⟩
    cases step with
    | system step => exact alone.tail step
    | pass | callback | send => exact alone

/--
What an operator watches is on record, in order, and misses only what newer messages replaced.

While handlers interleave, fail and crash, and whatever the client misses before or between, the
messages of each subscription are sent in the order of their publication and not more often than
published, and of those that came in only such are missed as a hundred newer ones have replaced. Every
alert that is sent is stored and has a sample of the spacecraft behind it that breaks the limit, and
every sample that is sent as processed has its row and all of its alerts.
-/
theorem stream_on_record (watched : WatchedConfig)
    (run : Relation.ReflTransGen WatchedStep .initial watched) :
    (∀ pattern ∈ streamPatterns, (ofPattern pattern watched.client.post.taken).Sublist
      watched.config.state.path.stream) ∧
    watched.client.post.came.drop (watched.client.post.came.length - 100) <:+
      watched.client.post.kept ∧
    ∀ message ∈ watched.client.post.taken, watched.config.state.Recorded message := by
  obtain ⟨held, alone⟩ := watches_of_run run
  have sane := sane_of_run alone
  have sent : watched.client.post.taken.Sublist watched.client.post.came :=
    (List.sublist_append_left _ _).trans held.faithful.ordered
  refine ⟨fun pattern listed => ?_, held.faithful.newest, fun message member => ?_⟩
  · exact ((sent.filter _).trans (held.inOrder pattern listed)).trans (List.take_sublist _ _)
  · obtain ⟨published, pattern, listed, covered⟩ := held.subscribed message (sent.subset member)
    have honest := sane.messages message published
    cases message with
    | health envelope =>
      -- No subscription is for the samples as they come from the ingest.
      have foreign : ∀ pattern ∈ streamPatterns,
          covers pattern ["telemetry", "health"] = false := by decide +kernel
      exact absurd covered (by rw [HealthMessage.subject, foreign pattern listed]; decide)
    | limitAlert alert => exact ⟨honest, sane.warranted honest⟩
    | processed envelope violations => exact honest

section Sample

/-- A client that is connected while the health path runs. -/
theorem watched_of_run {config later : HealthConfig}
    (run : Relation.ReflTransGen HealthStep config later) (client : StreamClient) :
    Relation.ReflTransGen WatchedStep ⟨config, client⟩ ⟨later, client⟩ := by
  -- On the run; the client watches and does nothing.
  induction run with
  | refl => exact .refl
  | tail _ step ih => exact ih.tail (.system step)

/-- The alert of the first voltage. -/
def voltageAlert : LimitAlert :=
  ⟨"bus_voltage_v", 228 / 10, .critical, "Bus voltage below 24.0 V", 0⟩

/-- A client that has put the alert into its queue. -/
def alertedClient : StreamClient :=
  (({} : StreamClient).pass ["alerts", ">"]).callback ["alerts", ">"] (.limitAlert voltageAlert)

/-- The first anomaly with a client that has sent the alert. -/
def anomalyWatched : WatchedConfig :=
  ⟨anomalyProcessed, { alertedClient with
    post := alertedClient.post.get (.limitAlert voltageAlert) .empty }⟩

/-- The alert of an anomaly is watched in a run. -/
theorem anomalyWatched_run : Relation.ReflTransGen WatchedStep .initial anomalyWatched := by
  -- The sample is passed over, the alert is called back and then sent.
  have processed := watched_of_run anomalyProcessed_run {}
  have passed : WatchedStep ⟨anomalyProcessed, {}⟩
      ⟨anomalyProcessed, ({} : StreamClient).pass ["alerts", ">"]⟩ := by
    have next : anomalyProcessed.state.path.stream[0]? = some (.health anomalyEnvelope) := by
      decide +kernel
    exact .pass next
  have called : WatchedStep ⟨anomalyProcessed, ({} : StreamClient).pass ["alerts", ">"]⟩
      ⟨anomalyProcessed, alertedClient⟩ := by
    have next : anomalyProcessed.state.path.stream[1]? = some (.limitAlert voltageAlert) := by
      decide +kernel
    exact .callback (by decide) next (by decide)
  exact ((processed.tail passed).tail called).tail (.send rfl)

end Sample

/-- The alert that the client was sent has a low voltage behind it. -/
theorem anomaly_on_record : ∃ row ∈ anomalyProcessed.state.path.telemetryHealth,
    anomalyProcessed.state.Backed row (·.Alarms "bus_voltage_v" .critical) := by
  -- The alert is the first thing the client was sent.
  obtain ⟨-, -, recorded⟩ := stream_on_record anomalyWatched anomalyWatched_run
  obtain ⟨-, row, stored, -, warranted⟩ := recorded (.limitAlert voltageAlert) List.mem_cons_self
  exact ⟨row, stored, warranted⟩

end HealthSystem

end Cislunar
