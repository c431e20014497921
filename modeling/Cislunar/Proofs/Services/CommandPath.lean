import Cislunar.Services.CommandPath

/-!
When the status of a command regresses.

Acknowledgements and dispatch reports update one column without looking at it, so its value is the one
written last. The two kinds of messages are not ordered by JetStream, and the status regresses where a
dispatch report is handled after an acknowledgement. Where all reports have been handled before, it
does not.
-/

namespace Cislunar

open Foundation

namespace CommandStatus

/-- An acknowledgement of the spacecraft has been written. -/
def Settled (status : CommandStatus) : Prop := status = acked ∨ status = rejected

/-- A report of the dispatcher has been written. -/
def Reported (status : CommandStatus) : Prop := status = dispatched ∨ status = dispatchError

/-- A row has been written by nobody but its creator. -/
def Created (status : CommandStatus) : Prop := status = queued ∨ status = dryRunValidated

/-- What is settled is not reported. -/
theorem Settled.not_reported {status : CommandStatus} (settled : status.Settled) :
    ¬status.Reported := by
  -- The four statuses are different constructors.
  rcases settled with rfl | rfl <;> rintro (same | same) <;> cases same

/-- What is created is neither. -/
theorem Created.pending {status : CommandStatus} (created : status.Created) :
    ¬status.Settled ∧ ¬status.Reported := by
  -- The statuses are different constructors.
  rcases created with rfl | rfl <;> constructor <;> rintro (same | same) <;> cases same

end CommandStatus

namespace PathProcess

/-- The status that a handler writes to a command. -/
def Writes : PathProcess → Int → CommandStatus → Prop
  | processAck envelope, commandId, status =>
    commandId = envelope.data.commandId ∧ status.Settled
  | processStatus event, commandId, status => commandId = event.commandId ∧ status = event.status
  | _, _, _ => False

/-- What a handler requests: rows as created, reports as such, and its own writes. -/
def Allows (process : PathProcess) : PathRequest → Prop
  | .insertCommand row => row.status.Created
  | .updateCommand status _ commandId => process.Writes commandId status
  | .publish (.status event) => event.status.Reported
  | _ => True

variable {process : PathProcess}

/-- A handler may make a request that it is allowed. -/
theorem callPath_allowed {request : PathRequest} (allowed : process.Allows request) :
    (callPath request).Only process.Allows :=
  -- A call is one request.
  Prog.Only.call allowed

/-- A completed outcome makes no request. -/
theorem ofExcept_allowed {α : Type} (result : Except PathFailure α) :
    (Prog.ofExcept result : PathService α).Only process.Allows := by
  -- It is over at once, either way.
  cases result <;> trivial

/-- Every handler requests what it is allowed only. -/
theorem allowed (process : PathProcess) : process.program.Only process.Allows := by
  -- Each handler is followed through its requests.
  cases process with
  | createCommand settings request operatorToken commandArm =>
    refine .bind ?_ fun _ => trivial
    rw [Cislunar.createCommand]
    refine .bind (ofExcept_allowed _) fun definition => ?_
    split
    · trivial
    · split
      · trivial
      · refine .bind (callPath_allowed ?_) fun commandId =>
          .bind (callPath_allowed trivial) fun _ => ?_
        · show CommandStatus.Created _
          cases request.dryRun
          · exact .inl rfl
          · exact .inr rfl
        · split
          · trivial
          · exact .bind (callPath_allowed trivial) fun _ => trivial
  | dispatchCommand settings event =>
    refine .tryCatch ?_ fun failure => ?_
    · exact .bind (callPath_allowed trivial) fun issuedNs => .bind (ofExcept_allowed _) fun raw =>
        .bind (callPath_allowed trivial) fun _ => .bind (callPath_allowed (.inl rfl)) fun _ =>
          callPath_allowed trivial
    · refine .bind (.tryCatch (callPath_allowed (.inr rfl)) fun unpublished => ?_) fun _ =>
        callPath_allowed trivial
      exact .bind (callPath_allowed trivial) fun _ => trivial
  | ingestDatagram raw source =>
    refine .tryCatch ?_ fun failure => trivial
    refine .bind (ofExcept_allowed _) fun packet => .bind (callPath_allowed trivial)
      fun receivedNs => ?_
    split
    · exact .bind (ofExcept_allowed _) fun ack => callPath_allowed trivial
    · trivial
  | processAck envelope =>
    have settled : (if envelope.data.status = 0 then CommandStatus.acked else .rejected).Settled := by
      split
      · exact .inl rfl
      · exact .inr rfl
    exact .tryCatch (.bind (callPath_allowed ⟨rfl, settled⟩) fun _ =>
      .bind (callPath_allowed trivial) fun _ => callPath_allowed trivial) fun _ =>
        callPath_allowed trivial
  | processStatus event =>
    exact .tryCatch (.bind (callPath_allowed ⟨rfl, rfl⟩) fun _ =>
      .bind (callPath_allowed trivial) fun _ => callPath_allowed trivial) fun _ =>
        callPath_allowed trivial

end PathProcess

namespace PathConfig

/-- The status of a command, if it has a row. -/
def statusOf (config : PathConfig) (commandId : Int) : Option CommandStatus :=
  (config.state.commands commandId).map (·.status)

/-- The steps of the command path; a message is delivered whenever the stream has it. -/
abbrev PathStep : PathConfig → PathConfig → Prop :=
  Step CommandPath.machine (fun _ state program => ∃ process : PathProcess,
    (∀ message ∈ process.delivery, message ∈ state.stream) ∧ program = process.program)
    fun _ _ => False

/-- What an executed request of a handler does to the status of a command. -/
theorem statusOf_effect {choice : PathChoice} {state after : CommandPath} {request : PathRequest}
    {reply : request.Reply} {process : PathProcess} (allowed : process.Allows request)
    (reached : state.effect choice request = some (reply, after)) (commandId : Int) :
    (∃ status detail row, request = .updateCommand status detail commandId ∧
      state.commands commandId = some row ∧
        (after.commands commandId).map (·.status) = some status) ∨
      (state.commands commandId = none ∧ ∃ row, after.commands commandId = some row ∧
        row.status.Created) ∨
      after.commands commandId = state.commands commandId := by
  -- Only two requests write rows: one makes a row under a free identifier, the other updates the
  -- row that is there.
  cases request with
  | insertCommand row =>
    rw [CommandPath.effect] at reached
    split at reached
    · cases reached
    · next free =>
      cases reached
      by_cases same : commandId = choice.commandId
      · subst same
        exact .inr (.inl ⟨free, row, Function.update_self .., allowed⟩)
      · exact .inr (.inr (Function.update_of_ne same ..))
  | updateCommand status detail target =>
    rw [CommandPath.effect] at reached
    split at reached
    · cases reached
      exact .inr (.inr rfl)
    · next row present =>
      cases reached
      by_cases same : commandId = target
      · subst same
        exact .inl ⟨status, detail, row, rfl, present, by simp⟩
      · exact .inr (.inr (Function.update_of_ne same ..))
  | nowNs | insertAudit | publish | sendto | settle =>
    cases reached
    exact .inr (.inr rfl)

/-- A request takes effect, or its connection fails before that. -/
theorem exec_cases {choice : PathChoice} {thread : Nat} {state after : CommandPath}
    {request : PathRequest} {reply : Except PathFailure request.Reply}
    (performed : CommandPath.machine.exec choice thread state request = some (reply, after)) :
    (choice.fault = .before ∧ after = state) ∨
      (choice.fault ≠ .before ∧ ∃ answer, state.effect choice request = some (answer, after)) := by
  -- The connection fails before the effect, after it or not at all.
  obtain ⟨outcome, reached, same⟩ := Option.map_eq_some_iff.mp performed
  obtain ⟨answer, later⟩ := outcome
  cases fault : choice.fault with
  | before =>
    rw [fault] at same
    cases same
    exact .inl ⟨rfl, rfl⟩
  | none =>
    rw [fault] at same
    cases same
    exact .inr ⟨nofun, answer, reached⟩
  | after =>
    rw [fault] at same
    cases same
    exact .inr ⟨nofun, answer, reached⟩

/-- An event is a step of the command path, if anything. -/
theorem perform_run (config : PathConfig) (event : PathEvent) :
    Relation.ReflTransGen PathStep config (config.perform event) := by
  -- An event that cannot happen leaves everything as it is.
  cases event with
  | start thread process =>
    rw [perform]
    split
    next deliverable =>
      exact .single (.start (Option.isNone_iff_eq_none.mp deliverable.1)
        ⟨process, deliverable.2, rfl⟩)
    next => exact .refl
  | act thread choice => exact Config.act_run CommandPath.machine thread choice config
  | crash thread => exact .single (.crash thread)

/-- Every schedule is a run. -/
theorem after_run (schedule : List PathEvent) :
    Relation.ReflTransGen PathStep initial (after schedule) := by
  -- On the schedule, from any configuration.
  have continued : ∀ config : PathConfig,
      Relation.ReflTransGen PathStep config (config.performAll schedule) := by
    induction schedule with
    | nil => exact fun _ => .refl
    | cons event rest ih => exact fun config => (config.perform_run event).trans (ih _)
  exact continued initial

/-- A schedule goes on where its first part has led. -/
theorem after_append (earlier later : List PathEvent) :
    after (earlier ++ later) = (after earlier).performAll later :=
  -- A schedule is followed event by event.
  List.foldl_append

/-- The last event of a schedule is performed where the others have led. -/
theorem after_concat (schedule : List PathEvent) (event : PathEvent) :
    after (schedule ++ [event]) = (after schedule).perform event :=
  -- Nothing follows it.
  after_append schedule [event]

/-- Whether a handler is in the middle of its work. -/
def busy (config : PathConfig) (thread : Nat) : Bool :=
  match config.threads thread with
  | some (.request _ _) => true
  | _ => false

/-- A handler can begin in a free place, on a message that the stream has. -/
def Begins (front : List PathEvent) (thread : Nat) (process : PathProcess) : Prop :=
  (after front).threads thread = none ∧
    ∀ message ∈ process.delivery, message ∈ (after front).state.stream

/-- A handler that began after the front part of a schedule has been busy since. -/
structure Handles (schedule : List PathEvent) (thread : Nat) (process : PathProcess)
    (front : List PathEvent) : Prop where
  began : Begins front thread process
  since : ∃ rest, schedule = front ++ .start thread process :: rest
  busy : ∀ part, front ++ .start thread process :: part <+: schedule →
    (after (front ++ .start thread process :: part)).busy thread

/-- A handler that is still busy after the next event handles its message in the longer schedule. -/
theorem Handles.concat {schedule front : List PathEvent} {thread : Nat} {process : PathProcess}
    (handles : Handles schedule thread process front) {event : PathEvent}
    (still : (after (schedule ++ [event])).busy thread) :
    Handles (schedule ++ [event]) thread process front := by
  obtain ⟨began, ⟨rest, same⟩, busy⟩ := handles
  refine ⟨began, ⟨rest ++ [event], by rw [same]; simp⟩, fun part within => ?_⟩
  -- The schedule up to the event is new, every earlier part of it is not.
  rcases List.prefix_concat_iff.mp within with whole | earlier
  · rw [whole]
    exact still
  · exact busy part earlier

/-- A busy handler has just begun, or was busy before the event and has made one request at most. -/
theorem busy_perform {config : PathConfig} {event : PathEvent} {thread : Nat}
    {request : PathRequest}
    {next : Except PathFailure request.Reply → Prog PathFailure PathRequest PathRequest.Reply Unit}
    (busy : (config.perform event).threads thread = some (.request request next)) :
    (∃ process : PathProcess, event = .start thread process ∧ config.threads thread = none ∧
      (∀ message ∈ process.delivery, message ∈ config.state.stream) ∧
      process.program = .request request next) ∨
    ∃ earlier onward, config.threads thread = some (.request earlier onward) ∧
      ((Prog.request earlier onward : PathService Unit) = .request request next ∨
        ∃ reply, onward reply = .request request next) := by
  cases event with
  | start place process =>
    rw [perform] at busy
    split at busy
    next deliverable =>
      -- The new handler is in its place, and the others are where they were.
      by_cases same : thread = place
      · subst same
        dsimp only at busy
        rw [Function.update_self] at busy
        exact .inl ⟨process, rfl, Option.isNone_iff_eq_none.mp deliverable.1, deliverable.2,
          Option.some.inj busy⟩
      · dsimp only at busy
        rw [Function.update_of_ne same] at busy
        exact .inr ⟨request, next, busy, .inl rfl⟩
    next => exact .inr ⟨request, next, busy, .inl rfl⟩
  | crash place =>
    rw [perform] at busy
    by_cases same : thread = place
    · subst same
      dsimp only at busy
      rw [Function.update_self] at busy
      cases busy
    · dsimp only at busy
      rw [Function.update_of_ne same] at busy
      exact .inr ⟨request, next, busy, .inl rfl⟩
  | act place choice =>
    rw [perform] at busy
    unfold Config.act at busy
    split at busy
    next earlier onward acting =>
      split at busy
      next reply state performed =>
        by_cases same : thread = place
        · subst same
          dsimp only at busy
          rw [Function.update_self] at busy
          exact .inr ⟨earlier, onward, acting, .inr ⟨reply, Option.some.inj busy⟩⟩
        · dsimp only at busy
          rw [Function.update_of_ne same] at busy
          exact .inr ⟨request, next, busy, .inl rfl⟩
      next => exact .inr ⟨request, next, busy, .inl rfl⟩
    next => exact .inr ⟨request, next, busy, .inl rfl⟩

/-- Whatever a busy handler is about to request, it began with a message that allows it that. -/
theorem exists_handles (schedule : List PathEvent) {thread : Nat} {request : PathRequest}
    {next : Except PathFailure request.Reply → Prog PathFailure PathRequest PathRequest.Reply Unit}
    (busy : (after schedule).threads thread = some (.request request next)) :
    ∃ process front, Handles schedule thread process front ∧
      (Prog.request request next : PathService Unit).Only process.Allows := by
  -- The induction follows the schedule to its end.
  induction schedule using List.reverseRecOn generalizing request next with
  | nil => cases busy
  | append_singleton schedule event ih =>
    have still : (after (schedule ++ [event])).busy thread := by
      rw [PathConfig.busy, busy]
    rw [after_concat] at busy
    rcases busy_perform busy with ⟨process, rfl, free, deliverable, same⟩ |
      ⟨earlier, onward, running, moved⟩
    · refine ⟨process, schedule, ⟨⟨free, deliverable⟩, ⟨[], rfl⟩, fun part within => ?_⟩,
        same ▸ process.allowed⟩
      -- The schedule ends with the beginning.
      obtain ⟨more, whole⟩ := within
      have empty : part = [] ∧ more = [] := by
        simpa using List.append_cancel_left ((List.append_assoc _ _ _).symm.trans whole)
      obtain ⟨empty, -⟩ := empty
      subst empty
      exact still
    · obtain ⟨process, front, handles, allowed⟩ := ih running
      refine ⟨process, front, handles.concat still, ?_⟩
      rcases moved with same | ⟨reply, same⟩
      · exact same ▸ allowed
      · exact same ▸ allowed.2 reply

/-- What an executed request of a handler does to the stream. -/
theorem stream_effect {choice : PathChoice} {state later : CommandPath} {request : PathRequest}
    {reply : request.Reply} {process : PathProcess} (allowed : process.Allows request)
    (reached : state.effect choice request = some (reply, later)) {event : StatusEvent}
    (published : .status event ∈ later.stream) :
    .status event ∈ state.stream ∨ event.status.Reported := by
  -- Only one request publishes, and a handler may publish what it reports.
  cases request with
  | publish message =>
    cases reached
    rcases List.mem_append.mp published with old | new
    · exact .inl old
    · obtain rfl := List.mem_singleton.mp new
      exact .inr allowed
  | insertCommand row =>
    rw [CommandPath.effect] at reached
    split at reached
    · cases reached
    · cases reached
      exact .inl published
  | updateCommand status detail target =>
    rw [CommandPath.effect] at reached
    split at reached
    · cases reached
      exact .inl published
    · cases reached
      exact .inl published
  | nowNs | insertAudit | sendto | settle =>
    cases reached
    exact .inl published

/-- The messages on `commands.status` are reports of the dispatcher. -/
theorem reports_after (schedule : List PathEvent) {event : StatusEvent}
    (published : .status event ∈ (after schedule).state.stream) : event.status.Reported := by
  -- Only the request of a handler changes the stream.
  induction schedule using List.reverseRecOn with
  | nil => cases published
  | append_singleton schedule next ih =>
    rw [after_concat] at published
    cases next with
    | start thread process =>
      rw [perform] at published
      split at published <;> exact ih published
    | crash thread => exact ih published
    | act thread choice =>
      rw [perform] at published
      unfold Config.act at published
      split at published
      next request onward acting =>
        split at published
        next reply state performed =>
          rcases exec_cases performed with ⟨-, rfl⟩ | ⟨-, answer, effect⟩
          · exact ih published
          · obtain ⟨process, -, -, allowed⟩ := exists_handles schedule acting
            rcases stream_effect allowed.1 effect published with old | reported
            · exact ih old
            · exact reported
        next => exact ih published
      next => exact ih published

/-- The status of a command after an event is the one written in it, that of a new row, or the old
one. -/
theorem statusOf_perform (schedule : List PathEvent) (event : PathEvent) (commandId : Int) :
    (∃ status, (after schedule).write event = some (commandId, status) ∧
      ((after schedule).perform event).statusOf commandId = some status) ∨
      (∃ status, status.Created ∧
        ((after schedule).perform event).statusOf commandId = some status) ∨
      ((after schedule).perform event).statusOf commandId =
        (after schedule).statusOf commandId := by
  -- Only the turn of a thread does anything, and its effect is that of its request.
  cases event with
  | start thread process =>
    rw [perform]
    split <;> exact .inr (.inr rfl)
  | crash thread => exact .inr (.inr rfl)
  | act thread choice =>
    rw [perform]
    unfold Config.act
    split
    next request next acting =>
      split
      next reply state performed =>
        rcases exec_cases performed with ⟨-, rfl⟩ | ⟨reached, answer, effect⟩
        · exact .inr (.inr rfl)
        · obtain ⟨process, -, -, allowed⟩ := exists_handles schedule acting
          rcases statusOf_effect allowed.1 effect commandId with
            ⟨status, detail, row, rfl, present, written⟩ | ⟨-, row, present, created⟩ | same
          · refine .inl ⟨status, ?_, written⟩
            rw [write, acting]
            dsimp only
            rw [if_pos ⟨reached, by rw [present]; rfl⟩]
          · refine .inr (.inl ⟨row.status, created, ?_⟩)
            show (state.commands commandId).map (·.status) = _
            rw [present]
            rfl
          · refine .inr (.inr ?_)
            show (state.commands commandId).map (·.status) = _
            rw [same]
            rfl
      next => exact .inr (.inr rfl)
    next => exact .inr (.inr rfl)

/-- What is written to a command is what a handler has been busy with. -/
theorem exists_writer {schedule : List PathEvent} {event : PathEvent} {commandId : Int}
    {status : CommandStatus} (written : (after schedule).write event = some (commandId, status)) :
    ∃ thread process front, Handles schedule thread process front ∧
      process.Writes commandId status := by
  -- A write is the turn of a thread whose next request updates a row.
  cases event with
  | start => cases written
  | crash => cases written
  | act thread choice =>
    rw [write] at written
    split at written
    next _ status' detail target next acting =>
      split at written
      next =>
        cases written
        obtain ⟨process, front, handles, allowed⟩ := exists_handles schedule acting
        exact ⟨thread, process, front, handles, allowed.1⟩
      next => cases written
    next => cases written

/-- An acknowledged status is written by the handler of an acknowledgement. -/
theorem settled_writer {schedule : List PathEvent} {event : PathEvent} {commandId : Int}
    {status : CommandStatus} (written : (after schedule).write event = some (commandId, status))
    (settled : status.Settled) : ∃ thread envelope front,
      Handles schedule thread (.processAck envelope) front ∧
        commandId = envelope.data.commandId := by
  obtain ⟨thread, process, front, handles, writes⟩ := exists_writer written
  cases process with
  | processAck envelope => exact ⟨thread, envelope, front, handles, writes.1⟩
  | processStatus report =>
    -- What the handler of a report writes is a report.
    have reported := reports_after front (handles.began.2 _ rfl)
    obtain ⟨-, rfl⟩ := writes
    exact (settled.not_reported reported).elim
  | createCommand | dispatchCommand | ingestDatagram => exact writes.elim

/-- A reported status is written by the handler of a report. -/
theorem reported_writer {schedule : List PathEvent} {event : PathEvent} {commandId : Int}
    {status : CommandStatus} (written : (after schedule).write event = some (commandId, status))
    (reported : status.Reported) : ∃ thread report front,
      Handles schedule thread (.processStatus report) front ∧ commandId = report.commandId := by
  -- An acknowledgement writes other statuses, and no other handler writes any.
  obtain ⟨thread, process, front, handles, writes⟩ := exists_writer written
  cases process with
  | processAck envelope => exact (writes.2.not_reported reported).elim
  | processStatus report => exact ⟨thread, report, front, handles, writes.1⟩
  | createCommand | dispatchCommand | ingestDatagram => exact writes.elim

/-- A status that no creator leaves was written since it was not there. -/
theorem exists_write {P : CommandStatus → Prop} (foreign : ∀ status, status.Created → ¬P status)
    {earlier later : List PathEvent} {commandId : Int} {status : CommandStatus}
    (before : ∀ old, (after earlier).statusOf commandId = some old → ¬P old)
    (now : (after (earlier ++ later)).statusOf commandId = some status) (holds : P status) :
    ∃ front event rest written, later = front ++ event :: rest ∧
      (after (earlier ++ front)).write event = some (commandId, written) ∧ P written := by
  -- By induction on the schedule from its end: the status was written last, or it was there before.
  induction later using List.reverseRecOn generalizing status with
  | nil =>
    rw [List.append_nil] at now
    exact (before status now holds).elim
  | append_singleton front event ih =>
    have last : after (earlier ++ (front ++ [event])) =
        (after (earlier ++ front)).perform event := by
      rw [← List.append_assoc, after_concat]
    rw [last] at now
    rcases statusOf_perform (earlier ++ front) event commandId with
      ⟨written, wrote, same⟩ | ⟨fresh, created, same⟩ | same
    · rw [same] at now
      cases now
      exact ⟨front, event, [], _, rfl, wrote, holds⟩
    · rw [same] at now
      cases now
      exact (foreign _ created holds).elim
    · rw [same] at now
      obtain ⟨start, first, rest, written, split, wrote, holds⟩ := ih now holds
      exact ⟨start, first, rest ++ [event], written, by rw [split]; simp, wrote, holds⟩

/-- Once a command is acknowledged, no later state shows it as reported by the dispatcher. -/
def NeverRegresses (schedule : List PathEvent) : Prop :=
  ∀ earlier later rest, schedule = earlier ++ later ++ rest → ∀ commandId settled status,
    (after earlier).statusOf commandId = some settled → settled.Settled →
      (after (earlier ++ later)).statusOf commandId = some status → ¬status.Reported

/-- The reports of a command have been handled before an acknowledgement of it begins to be. -/
def ReportsHandledFirst (schedule : List PathEvent) : Prop :=
  ∀ front thread envelope rest,
    schedule = front ++ .start thread (.processAck envelope) :: rest →
    Begins front thread (.processAck envelope) →
    ∀ start other report onward,
      schedule = start ++ .start other (.processStatus report) :: onward →
      Begins start other (.processStatus report) →
      report.commandId = envelope.data.commandId →
        ∃ part, start ++ .start other (.processStatus report) :: part <+: front ∧
          (after (start ++ .start other (.processStatus report) :: part)).busy other = false

/--
No status regresses where the reports of a command are handled before its acknowledgements.

In every run of the command path, with any interleaving, repetition, loss of connections and crash of
its handlers, an acknowledged command stays so if for each command every handling of a report of it
has ended by the time that any handling of an acknowledgement of it begins.
-/
theorem neverRegresses_of_reportsHandledFirst (schedule : List PathEvent)
    (ordered : ReportsHandledFirst schedule) : NeverRegresses schedule := by
  rintro earlier later rest rfl commandId settled status before isSettled now reported
  -- Both statuses have been written, the second one later than the first.
  obtain ⟨front, event, middle, first, rfl, wrote, firstSettled⟩ :=
    @exists_write CommandStatus.Settled (fun _ created => created.pending.1) [] earlier commandId
      settled (fun _ absent => by cases absent) before isSettled
  obtain ⟨start, next, tail, second, rfl, again, secondReported⟩ :=
    exists_write (fun _ created => created.pending.2)
      (fun old same => by rw [before] at same; cases same; exact isSettled.not_reported)
      now reported
  -- Their writers began with the messages, and that of the second one is still busy with its own.
  obtain ⟨thread, envelope, origin, acknowledges, about⟩ := settled_writer wrote firstSettled
  obtain ⟨other, report, source, reports, about'⟩ := reported_writer again secondReported
  obtain ⟨onward, same⟩ := acknowledges.since
  obtain ⟨onward', same'⟩ := reports.since
  have whole : front ++ event :: middle ++ (start ++ next :: tail) ++ rest =
      source ++ .start other (.processStatus report) :: (onward' ++ next :: tail ++ rest) := by
    calc _ = (front ++ event :: middle ++ start) ++ (next :: tail ++ rest) := by simp
      _ = _ := by rw [same']; simp
  obtain ⟨part, ended, idle⟩ := ordered origin thread envelope
    (onward ++ event :: middle ++ (start ++ next :: tail) ++ rest)
    (by rw [show front = _ from same]; simp) acknowledges.began source other report
    _ whole reports.began (about'.symm.trans about)
  refine absurd (reports.busy part (ended.trans ?_)) (by rw [idle]; decide)
  have within : origin <+: front := ⟨_, same.symm⟩
  exact (within.trans (List.prefix_append _ _)).trans (List.prefix_append _ _)

/-- A schedule that handles all reports before all acknowledgements is in order. -/
theorem reportsHandledFirst_append {earlier later : List PathEvent}
    (unacknowledged : ∀ thread envelope, .start thread (.processAck envelope) ∉ earlier)
    (unreported : ∀ thread report, .start thread (.processStatus report) ∉ later)
    (idle : ∀ thread report, .start thread (.processStatus report) ∈ earlier →
      (after earlier).busy thread = false) : ReportsHandledFirst (earlier ++ later) := by
  intro front thread envelope rest acknowledged _ start other report onward reported _ _
  -- The acknowledgement is in the later part, and the report in the earlier one.
  have behind : earlier <+: front := by
    rcases List.append_eq_append_iff.mp acknowledged with ⟨more, rfl, -⟩ | ⟨more, split, tail⟩
    · exact List.prefix_append _ _
    · cases more with
      | nil => exact ⟨[], by rw [split]; simp⟩
      | cons event more =>
        cases tail
        exact (unacknowledged thread envelope (by rw [split]; simp)).elim
  obtain ⟨part, same⟩ : ∃ part, earlier = start ++ .start other (.processStatus report) :: part := by
    rcases List.append_eq_append_iff.mp reported with ⟨more, rfl, tail⟩ | ⟨more, split, tail⟩
    · exact (unreported other report (by rw [tail]; simp)).elim
    · cases more with
      | nil => exact (unreported other report (by rw [← List.nil_append later, ← tail]; simp)).elim
      | cons event more =>
        cases tail
        exact ⟨more, split⟩
  rw [same] at behind idle
  exact ⟨part, behind, idle other report (by simp)⟩

/-- A live command is created and dispatched. -/
def dispatchedSchedule : List PathEvent :=
  [.start 0 (.createCommand {} { name := "SET_MODE", argument := 2, dryRun := false }
      (some "local-operator-token") (some "local-arm-token")),
    .act 0 {}, .act 0 {}, .act 0 {},
    .start 1 (.dispatchCommand {} ⟨1, "SET_MODE", 1, 2, "local-operator"⟩),
    .act 1 {}, .act 1 {}, .act 1 {}, .act 1 {}]

/-- Its acknowledgement is heard and handled in two places. -/
def acknowledgement (ingest processor : Nat) : List PathEvent :=
  [.start ingest (.ingestDatagram ((encodeAck 0 ⟨1, 0, 2, 0⟩).toOption.getD [])
      "spacecraft-sim:5006"),
    .act ingest {}, .act ingest {},
    .start processor (.processAck ⟨101, 0, 0, "spacecraft-sim:5006", ⟨1, 0, 2, 0⟩⟩),
    .act processor {}, .act processor {}, .act processor {}]

/-- The report of its dispatch is handled. -/
def dispatchReport : List PathEvent :=
  [.start 4 (.processStatus ⟨1, .dispatched, some "UDP target spacecraft-sim:5006"⟩),
    .act 4 {}, .act 4 {}, .act 4 {}]

/-- A command that was reported in time stays acknowledged, however often that is delivered again. -/
theorem timely_report_keeps :
    (after (dispatchedSchedule ++ dispatchReport ++ acknowledgement 2 3)).statusOf 1 =
        some .acked ∧
      NeverRegresses
        (dispatchedSchedule ++ dispatchReport ++ (acknowledgement 2 3 ++ acknowledgement 5 6)) := by
  -- The report has been handled before the first acknowledgement; what comes later are
  -- acknowledgements.
  refine ⟨by decide +kernel,
    neverRegresses_of_reportsHandledFirst _ (reportsHandledFirst_append ?_ ?_ ?_)⟩
  · simp [dispatchedSchedule, dispatchReport]
  · simp [acknowledgement]
  · intro thread report began
    have place : thread = 4 := by
      simp [dispatchedSchedule, dispatchReport] at began
      exact began.1
    rw [place]
    decide +kernel

/-- A late report turns an acknowledged command back into a dispatched one. -/
theorem late_report_regresses :
    (after (dispatchedSchedule ++ acknowledgement 2 3)).statusOf 1 = some .acked ∧
      (after (dispatchedSchedule ++ acknowledgement 2 3 ++ dispatchReport)).statusOf 1 =
        some .dispatched ∧
      ¬NeverRegresses (dispatchedSchedule ++ acknowledgement 2 3 ++ dispatchReport) := by
  -- Both statuses are evaluated, and the second one lies behind the first.
  have acked : (after (dispatchedSchedule ++ acknowledgement 2 3)).statusOf 1 = some .acked := by
    decide +kernel
  have dispatched : (after (dispatchedSchedule ++ acknowledgement 2 3 ++ dispatchReport)).statusOf 1 =
      some .dispatched := by decide +kernel
  refine ⟨acked, dispatched, fun keeps => ?_⟩
  exact keeps _ dispatchReport [] (List.append_nil _).symm 1 _ _ acked (.inl rfl) dispatched
    (.inl rfl)

end PathConfig

end Cislunar
