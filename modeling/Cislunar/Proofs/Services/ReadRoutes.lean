import Cislunar.Foundation.Confined
import Cislunar.Foundation.Keeps
import Cislunar.Foundation.Turns
import Cislunar.Proofs.Runtime.Json
import Cislunar.Proofs.Services.Results
import Cislunar.Proofs.Services.Agreement
import Cislunar.Services.ReadRoutes

/-!
What the routes that read show is what the tables say.

Readers come at any time while handlers and workers run. Each of their reads is one statement, so
the tables may have moved between any two of them. Packets, sources and results stay as they were
read; a job is shown in a state that it had after the reader had come.
-/

namespace Cislunar

open Foundation Ground

/-- What a raw view shows of its packet and the source never changes. -/
theorem rawView_retains {packet : LogicalTelemetryPacket} {source later : TelemetryDeliveryReceipt}
    (retains : ReceiptRetains source later) (job : Option TelemetryProcessingJob) :
    rawView packet later job = rawView packet source job := by
  -- Every column of the view is one that a rewrite keeps.
  simp only [rawView, retains.receiptId, retains.rawBody, retains.bodySha256, retains.receivedAt]

/-- A job that the packet of a message has had in one of some states. -/
def SeenJob (messageId : String) (visited : Ground → Prop) (job : TelemetryProcessingJob) : Prop :=
  ∃ past, visited past ∧ job ∈ past.database.jobs ∧ job.packetId = messageId

/-- In one of some states there was no packet of a message. -/
def SeenNoPacket (messageId : String) (visited : Ground → Prop) : Prop :=
  ∃ past, visited past ∧ ∀ packet ∈ past.database.packets, packet.packetId ≠ messageId

/-- In one of some states there was no result of a message. -/
def SeenNoResult (messageId : String) (visited : Ground → Prop) : Prop :=
  ∃ past, visited past ∧ ∀ row ∈ past.database.processed, row.packetId ≠ messageId

/-- An answer about a message that the tables bear out, or have borne out when they were read. -/
inductive ReadAnswer.Shown (messageId : String) (visited : Ground → Prop) (ground : Ground) :
    ReadAnswer → Prop where
  | raw {packet : LogicalTelemetryPacket} {source : TelemetryDeliveryReceipt}
      {job : TelemetryProcessingJob} (stored : packet ∈ ground.database.packets)
      (named : packet.packetId = messageId) (recorded : source ∈ ground.database.receipts)
      (link : source.receiptId = packet.sourceReceiptId) (seen : SeenJob messageId visited job) :
      Shown messageId visited ground (.raw (rawView packet source (some job)))
  | processed {row : ProcessedTelemetry} (stored : row ∈ ground.database.processed)
      (named : row.packetId = messageId) :
      Shown messageId visited ground (.processed (processedView row))
  | failed {job : TelemetryProcessingJob} (unprocessed : SeenNoResult messageId visited)
      (seen : SeenJob messageId visited job) (ended : job.state = .failed) :
      Shown messageId visited ground (.unprocessed 422 messageId "FAILED")
  | waiting {job : TelemetryProcessingJob} (unprocessed : SeenNoResult messageId visited)
      (seen : SeenJob messageId visited job) (unfailed : job.state ≠ .failed) :
      Shown messageId visited ground (.unprocessed 202 messageId job.state.value)
  | missing (absent : fullmatch messageIdPattern messageId.toList = false ∨
      SeenNoPacket messageId visited) : Shown messageId visited ground messageNotFound
  | unavailable : Shown messageId visited ground (.refused ⟨503, "PostgreSQL unavailable", []⟩)

/-- What was shown stays true. -/
theorem ReadAnswer.Shown.grow {messageId : String} {visited : Ground → Prop}
    {before after : Ground} {answer : ReadAnswer} (shown : answer.Shown messageId visited before)
    (retains : Retains before.database after.database) :
    answer.Shown messageId visited after := by
  cases shown with
  | raw stored named recorded link seen =>
    -- The receipt may have been settled since, but the view does not show that of it.
    obtain ⟨next, among, kept⟩ := retains.receipts _ recorded
    rw [← rawView_retains kept]
    exact .raw (retains.packets _ stored) named among (kept.receiptId.trans link) seen
  | processed stored named => exact .processed (retains.processed _ stored) named
  | failed unprocessed seen ended => exact .failed unprocessed seen ended
  | waiting unprocessed seen unfailed => exact .waiting unprocessed seen unfailed
  | missing absent => exact .missing absent
  | unavailable => exact .unavailable

section Sessions
variable {α β : Type} {visited : Ground → Prop} {thread : Nat} {pre : Ground → Prop}

/-- A session that reads returns what it should, unless PostgreSQL fails. -/
def Reads (visited : Ground → Prop) (thread : Nat) (pre : Ground → Prop) (service : Service α)
    (post : α → Ground → Prop) : Prop :=
  Triple ((loadedProtocol fun _ => True).confine visited) (groundMachine.confine visited) thread pre
    service fun outcome ground => (∀ value, outcome = .ok value → post value ground) ∧
      ∀ failure, outcome = .error failure → failure.isSqlAlchemy = true

namespace Reads

/-- A returned value needs nothing but what is said of it. -/
theorem done {value : α} {post : α → Ground → Prop}
    (reached : ∀ ground, pre ground → post value ground) :
    Reads visited thread pre (Prog.done value) post :=
  Triple.done fun ground held =>
    ⟨fun _ same => by cases same; exact reached ground held, fun _ same => by cases same⟩

/-- A sequence meets in the middle. -/
theorem bind {service : Service α} {next : α → Service β} {middle : α → Ground → Prop}
    {post : β → Ground → Prop} (first : Reads visited thread pre service middle)
    (second : ∀ value, Reads visited thread (middle value) (next value) post) :
    Reads visited thread pre (service >>= next) post := by
  refine Triple.bind (first.weaken (fun _ => id) fun outcome ground reached => ⟨reached.1, ?_⟩)
    second
  -- A failure of the first part is the failure of the whole.
  intro failure same
  refine ⟨fun _ other => (by cases other), fun error equal => ?_⟩
  cases equal
  exact reached.2 failure same

/-- A stronger precondition asks less. -/
theorem weaken {stronger : Ground → Prop} {service : Service α} {post : α → Ground → Prop}
    (reads : Reads visited thread pre service post) (before : ∀ ground, stronger ground → pre ground) :
    Reads visited thread stronger service post :=
  Triple.weaken reads before fun _ _ reached => reached

/-- A part of the precondition that does not depend on the state may be used at once. -/
theorem named {fact : Prop} {service : Service α} {post : α → Ground → Prop}
    (reads : fact → Reads visited thread pre service post) :
    Reads visited thread (fun ground => pre ground ∧ fact) service post :=
  fun ground held => reads held.2 ground held.1

/-- A read answers from the tables and leaves everything as it is. -/
theorem call {call : RepoCall} {answer : Database → call.Reply} {post : call.Reply → Ground → Prop}
    (lasting : Lasting Onward pre) (plain : Request.isPlain (.repository call {}) = true)
    (reads : ∀ env db, call.exec env db = (.ok (answer db), db))
    (answered : ∀ ground, TablesBacked ground → visited ground → pre ground →
      post (answer ground.database) ground) :
    Reads visited thread pre (callRepository call) post := by
  refine Triple.call (fun before after held onward _ => lasting before after held onward)
    fun before valid held choice reply after performed => ?_
  obtain ⟨done, -⟩ := Machine.confine_exec.mp performed
  have reached : before.perform choice.1 choice.2 (.repository call {}) = (reply, after) :=
    Option.some.inj done
  rw [Ground.perform, RepoCall.execHolding_empty, reads] at reached
  obtain ⟨still, replied⟩ := Fault.apply_cases reached
  -- A connection that fails changes as little as one that holds.
  obtain rfl : after = before := still.elim id id
  refine ⟨⟨valid, fun _ _ => Onward.refl _, justifies_of_plain plain after⟩, ?_⟩
  rcases replied with rfl | ⟨-, rfl⟩
  · exact ⟨fun _ same => (by cases same), fun failure same => by cases same; rfl⟩
  · refine ⟨fun value same => ?_, fun _ same => by cases same⟩
    cases same
    exact answered after valid.1 valid.2 held

end Reads

/-- A packet is in the tables. -/
def HasPacket (packet : LogicalTelemetryPacket) (ground : Ground) : Prop :=
  packet ∈ ground.database.packets

/-- A receipt is in the tables, settled at most. -/
def HasSource (source : TelemetryDeliveryReceipt) (ground : Ground) : Prop :=
  ∃ now ∈ ground.database.receipts, ReceiptRetains source now

/-- A packet stays. -/
theorem onward_hasPacket (packet : LogicalTelemetryPacket) : Lasting Onward (HasPacket packet) :=
  fun _ _ stored onward => onward.1.packets packet stored

/-- A receipt stays. -/
theorem onward_hasSource (source : TelemetryDeliveryReceipt) : Lasting Onward (HasSource source) := by
  -- The receipt may be rewritten again, and it keeps what it kept.
  rintro before after ⟨now, recorded, kept⟩ onward
  obtain ⟨next, among, further⟩ := onward.1.receipts now recorded
  exact ⟨next, among, kept.trans further⟩

/-- A packet is found under its identifier, if there is one. -/
theorem getPacket_reads (messageId : String) :
    Reads visited thread (fun _ => True) (callRepository (.getPacket messageId))
      fun found ground => match found with
        | some packet => HasPacket packet ground ∧ packet.packetId = messageId
        | none => SeenNoPacket messageId visited := by
  -- The request is served in a state of the run, which is what the reader has seen.
  refine .call Lasting.always rfl (fun _ _ => rfl) fun ground _ here _ => ?_
  split
  next packet found => exact Table.get?_eq_some.mp found
  next absent => exact ⟨ground, here, Table.get?_eq_none.mp absent⟩

/-- The source of a packet is always found. -/
theorem getDelivery_reads (packet : LogicalTelemetryPacket) :
    Reads visited thread (HasPacket packet) (callRepository (.getDelivery packet.sourceReceiptId))
      fun found ground => HasPacket packet ground ∧ ∃ source, found = some source ∧
        source.receiptId = packet.sourceReceiptId ∧ HasSource source ground := by
  -- The packet has its source in the tables.
  refine .call (onward_hasPacket packet) rfl (fun _ _ => rfl) fun ground backed _ stored => ⟨stored, ?_⟩
  obtain ⟨source, recorded, key, -⟩ := (backed.ledger.packets packet stored).source
  exact ⟨source, Table.get?_eq_some.mpr ⟨recorded, key⟩, key, source, recorded, .refl source⟩

/-- The job of a packet is always found, as it is when it is read. -/
theorem getJobForPacket_reads {fact : Ground → Prop} (lasting : Lasting Onward fact)
    (packet : LogicalTelemetryPacket) :
    Reads visited thread (fun ground => HasPacket packet ground ∧ fact ground)
      (callRepository (.getJobForPacket packet.packetId)) fun found ground =>
        (HasPacket packet ground ∧ fact ground) ∧
          ∃ job, found = some job ∧ SeenJob packet.packetId visited job := by
  -- In a backed state a stored packet has a job.
  refine .call ((onward_hasPacket packet).and lasting) rfl (fun _ _ => rfl)
    fun ground backed here held => ⟨held, ?_⟩
  obtain ⟨job, member, named, found⟩ := backed.ledger.jobOfPacket held.1
  exact ⟨job, found, ground, here, member, named⟩

/-- A result that was read is there, and stays; where none was read there was none. -/
def HasResult (packetId : String) (visited : Ground → Prop) :
    Option ProcessedTelemetry → Ground → Prop
  | some row, ground => row ∈ ground.database.processed ∧ row.packetId = packetId
  | none, _ => SeenNoResult packetId visited

/-- A result stays. -/
theorem onward_hasResult (packetId : String) (found : Option ProcessedTelemetry) :
    Lasting Onward (HasResult packetId visited found) := by
  -- A result that was found stays, and one that was missing was missing then.
  intro before after held onward
  cases found with
  | some row => exact ⟨onward.1.processed row held.1, held.2⟩
  | none => exact held

/-- The result of a packet is found, if any. -/
theorem getProcessed_reads (packet : LogicalTelemetryPacket) :
    Reads visited thread (HasPacket packet) (callRepository (.getProcessed packet.packetId))
      fun found ground => HasPacket packet ground ∧ HasResult packet.packetId visited found ground := by
  -- The answer is about the tables of the moment it was read in.
  refine .call (onward_hasPacket packet) rfl (fun _ _ => rfl) fun ground _ here stored => ⟨stored, ?_⟩
  cases found : ground.database.processed.get? packet.packetId with
  | some row => exact Table.get?_eq_some.mp found
  | none => exact ⟨ground, here, Table.get?_eq_none.mp found⟩

/-- The raw route shows the packet with its source and its job. -/
theorem showRaw_reads (messageId : String) :
    Reads visited thread (fun _ => True) (showRaw messageId) fun answer ground =>
      answer.Shown messageId visited ground := by
  refine (getPacket_reads messageId).bind fun found => ?_
  cases found with
  | none => exact .done fun _ absent => .missing (Or.inr absent)
  | some packet =>
    refine Reads.named fun named => ?_
    subst named
    refine Reads.bind (getDelivery_reads packet) fun receipt => ?_
    cases receipt with
    | none =>
      -- Every packet has its source, so this branch is never taken.
      intro ground held
      obtain ⟨-, _, same, -⟩ := held
      cases same
    | some source =>
      -- The source is remembered as it was read while the job is looked up.
      have lasting : Lasting Onward fun ground =>
          source.receiptId = packet.sourceReceiptId ∧ HasSource source ground :=
        (Lasting.const _).and (onward_hasSource source)
      refine Reads.bind ((getJobForPacket_reads lasting packet).weaken fun ground held => ?_)
        fun job => .done fun ground held => ?_
      · obtain ⟨stored, other, same, link, present⟩ := held
        cases same
        exact ⟨stored, link, present⟩
      · obtain ⟨⟨stored, link, now, recorded, kept⟩, row, rfl, seen⟩ := held
        rw [← rawView_retains kept]
        exact .raw stored rfl recorded (kept.receiptId.trans link) seen

/-- The processed route shows the result, or the state of the job. -/
theorem showProcessed_reads (messageId : String) :
    Reads visited thread (fun _ => True) (showProcessed messageId) fun answer ground =>
      answer.Shown messageId visited ground := by
  refine (getPacket_reads messageId).bind fun found => ?_
  cases found with
  | none => exact .done fun _ absent => .missing (Or.inr absent)
  | some packet =>
    refine Reads.named fun named => ?_
    subst named
    refine Reads.bind (getProcessed_reads packet) fun processed => ?_
    refine Reads.bind (getJobForPacket_reads (onward_hasResult packet.packetId processed) packet)
      fun job => ?_
    cases processed with
    | some row =>
      refine .done fun ground held => ?_
      obtain ⟨stored, named⟩ := held.1.2
      exact .processed stored named
    | none =>
      -- Without a result the answer depends on the job, which may have moved on since.
      refine .done fun ground held => ?_
      obtain ⟨⟨-, unprocessed⟩, row, rfl, seen⟩ := held
      by_cases ended : row.state = .failed
      · rw [unprocessedAnswer, if_pos ended, ended]
        exact .failed unprocessed seen ended
      · rw [unprocessedAnswer, if_neg ended]
        exact .waiting unprocessed seen ended

end Sessions

/-- What a reader is owed for its request. -/
inductive ReadRequest.Owed (settings : GroundSettings) (request : ReadRequest)
    (visited : Ground → Prop) (ground : Ground) : ReadAnswer → Prop where
  | shown {identity : BearerIdentity} {answer : ReadAnswer}
      (known : bearerIdentity request.authorization settings = .ok identity)
      (shown : answer.Shown request.messageId visited ground) :
      Owed settings request visited ground answer
  | unauthorized {exception : HttpException}
      (unknown : bearerIdentity request.authorization settings = .error (.http exception)) :
      Owed settings request visited ground (.refused exception)
  /-- The comparison of a credential outside ASCII raises. -/
  | failed {failure : Failure}
      (unread : bearerIdentity request.authorization settings = .error (.failure failure)) :
      Owed settings request visited ground (.serverError failure)

/-- What is owed stays owed. -/
theorem ReadRequest.Owed.grow {settings : GroundSettings} {request : ReadRequest}
    {visited : Ground → Prop} {before after : Ground} {answer : ReadAnswer}
    (owed : request.Owed settings visited before answer)
    (retains : Retains before.database after.database) :
    request.Owed settings visited after answer := by
  -- What was shown speaks of rows, which are retained.
  cases owed with
  | shown known shown => exact .shown known (shown.grow retains)
  | unauthorized unknown => exact .unauthorized unknown
  | failed unread => exact .failed unread

/-- What is owed for a returned answer, and the only failure that a route lets out. -/
def ReadRequest.Settles (settings : GroundSettings) (request : ReadRequest)
    (visited : Ground → Prop) (outcome : Except Failure ReadAnswer) (ground : Ground) : Prop :=
  (∀ answer, outcome = .ok answer → request.Owed settings visited ground answer) ∧
    ∀ failure, outcome = .error failure →
      bearerIdentity request.authorization settings = .error (.failure failure)

section Visitors
variable {visited : Ground → Prop} {thread : Nat}

/-- An answer that is owed may be given. -/
theorem readPayload_answers {settings : GroundSettings} {request : ReadRequest}
    {answer : ReadAnswer} {pre : Ground → Prop}
    (owed : ∀ ground, pre ground → request.Owed settings visited ground answer) :
    Triple ((loadedProtocol fun _ => True).confine visited) (groundMachine.confine visited) thread
      pre (Prog.done answer : Service ReadAnswer) (request.Settles settings visited) :=
  .done fun ground held =>
    ⟨fun _ same => by cases same; exact owed ground held, fun _ same => by cases same⟩

/-- A route answers what it owes, and raises for its credential alone. -/
theorem readPayload_owes (settings : GroundSettings) (request : ReadRequest) :
    Triple ((loadedProtocol fun _ => True).confine visited) (groundMachine.confine visited) thread
      (fun _ => True) (readPayload settings request) (request.Settles settings visited) := by
  rw [readPayload]
  -- The credential is checked before anything is read.
  split
  next exception unknown => exact readPayload_answers fun _ _ => .unauthorized unknown
  next failure unread =>
    refine .raise fun _ _ => ⟨fun _ same => (by cases same), fun other same => ?_⟩
    cases same
    exact unread
  next identity known =>
    split_ifs with unmatched
    · refine readPayload_answers fun _ _ => .shown known (.missing (Or.inl ?_))
      simpa using unmatched
    · have session : Reads visited thread (fun _ => True) (request.route.show request.messageId)
          fun answer ground => answer.Shown request.messageId visited ground := by
        cases request.route with
        | raw => exact showRaw_reads request.messageId
        | processed => exact showProcessed_reads request.messageId
      have handled : ∀ failure : Failure,
          Triple ((loadedProtocol fun _ => True).confine visited) (groundMachine.confine visited)
            thread (fun _ => failure.isSqlAlchemy = true) (if failure.isSqlAlchemy then
              Prog.done (.refused ⟨503, "PostgreSQL unavailable", []⟩) else Prog.raise failure)
            (request.Settles settings visited) := by
        intro failure ground lost
        rw [if_pos lost]
        have answered := @readPayload_answers visited thread settings request _ (fun _ => True)
          fun _ _ => .shown known .unavailable
        exact answered ground trivial
      refine Triple.tryCatch (Triple.weaken session (fun _ => id) fun outcome ground reached =>
        ⟨fun value same => ⟨fun answer equal => ?_, fun _ equal => by cases equal⟩, reached.2⟩)
        handled
      cases equal
      exact .shown known (reached.1 value same)

/-- Every visitor asks for what is justified, and a reader is given what it is owed. -/
theorem Visitor.answers (thread : Nat) (visitor : Visitor) :
    Returns ((loadedProtocol fun _ => True).confine visited) (groundMachine.confine visited) thread
      (fun _ => True) visitor.program fun visit ground =>
        ∀ settings request answer, visit = .reader settings request answer →
          request.Owed settings visited ground answer := by
  -- A process owes a reader nothing. A failure inside the reader becomes an answer of its own.
  cases visitor with
  | process own =>
    have loads : Triple ((loadedProtocol fun _ => True).confine visited)
        (groundMachine.confine visited) thread (fun _ => True) own.program fun _ _ => True :=
      (Process.loads thread own.presents_any).confine
    exact .bind (Triple.weaken loads (fun _ => id) fun _ _ _ _ _ => trivial)
      fun _ => .done fun _ _ _ _ _ same => by cases same
  | reader settings request =>
    have handled : ∀ failure : Failure,
        Triple ((loadedProtocol fun _ => True).confine visited) (groundMachine.confine visited)
          thread (fun _ => bearerIdentity request.authorization settings = .error (.failure failure))
          (Prog.done (ReadAnswer.serverError failure) : Service ReadAnswer) fun outcome ground =>
            ∀ answer, outcome = .ok answer → request.Owed settings visited ground answer :=
      fun failure => .done fun _ unread _ same => by cases same; exact .failed unread
    have answered : Returns ((loadedProtocol fun _ => True).confine visited)
        (groundMachine.confine visited) thread (fun _ => True)
        ((readPayload settings request).tryCatch fun failure => Prog.done (.serverError failure))
        fun answer ground => request.Owed settings visited ground answer := by
      refine Triple.tryCatch ((readPayload_owes settings request).weaken (fun _ => id)
        fun outcome ground reached => ⟨fun value same answer equal => ?_, reached.2⟩) handled
      cases equal
      exact reached.1 value same
    exact .bind answered fun answer => .done fun ground owed _ _ _ same => by cases same; exact owed

/-- A request for rows. -/
def Request.isRead : Request → Bool
  | .repository (.getPacket _) held => held = {}
  | .repository (.getDelivery _) held => held = {}
  | .repository (.getJobForPacket _) held => held = {}
  | .repository (.getProcessed _) held => held = {}
  | _ => false

/-- A request for rows is one of four, and its session holds nothing. -/
theorem Request.of_isRead {request : Request} (read : request.isRead = true) :
    ∃ call, request = .repository call {} ∧
      ((∃ packetId, call = .getPacket packetId) ∨ (∃ receiptId, call = .getDelivery receiptId) ∨
        (∃ packetId, call = .getJobForPacket packetId) ∨
        ∃ packetId, call = .getProcessed packetId) := by
  -- One case per branch of the filter.
  unfold Request.isRead at read
  split at read
  next packetId held => exact ⟨_, of_decide_eq_true read ▸ rfl, Or.inl ⟨packetId, rfl⟩⟩
  next receiptId held => exact ⟨_, of_decide_eq_true read ▸ rfl, Or.inr (Or.inl ⟨receiptId, rfl⟩)⟩
  next packetId held =>
    exact ⟨_, of_decide_eq_true read ▸ rfl, Or.inr (Or.inr (Or.inl ⟨packetId, rfl⟩))⟩
  next packetId held =>
    exact ⟨_, of_decide_eq_true read ▸ rfl, Or.inr (Or.inr (Or.inr ⟨packetId, rfl⟩))⟩
  next => cases read

/-- A request for rows rests on nothing. -/
theorem isPlain_of_isRead {request : Request} (read : request.isRead = true) :
    request.isPlain = true := by
  -- There are four reads, and each is plain.
  obtain ⟨call, rfl, ⟨_, rfl⟩ | ⟨_, rfl⟩ | ⟨_, rfl⟩ | ⟨_, rfl⟩⟩ := Request.of_isRead read <;> rfl

/-- A request for rows ends no work. -/
theorem endsWork_of_isRead {request : Request} (read : request.isRead = true) :
    request.endsWork = false := by
  -- There are four reads, and none ends a piece of work.
  obtain ⟨call, rfl, ⟨_, rfl⟩ | ⟨_, rfl⟩ | ⟨_, rfl⟩ | ⟨_, rfl⟩⟩ := Request.of_isRead read <;> rfl

/-- A request for rows changes nothing. -/
theorem performFresh_of_isRead {request : Request} (read : request.isRead = true)
    {uuid4 : Nat → UUID} {fault : Fault} {ground after : Ground}
    {reply : Except Failure request.Reply}
    (performed : ground.performFresh uuid4 fault request = (reply, after)) : after = ground := by
  -- There are four reads; each reads the tables, and a fault loses the answer at most.
  obtain ⟨call, rfl, ⟨_, rfl⟩ | ⟨_, rfl⟩ | ⟨_, rfl⟩ | ⟨_, rfl⟩⟩ := Request.of_isRead read <;>
    exact (Fault.apply_cases performed).1.elim id id

/-- The raw route only asks for rows. -/
theorem showRaw_isRead (messageId : String) :
    (showRaw messageId).Only fun request => request.isRead = true := by
  -- The packet is read first, then its receipt and its job.
  refine .bind (.call rfl) fun found => ?_
  cases found with
  | none => trivial
  | some packet =>
    refine .bind (.call rfl) fun receipt => .bind (.call rfl) fun job => ?_
    cases receipt <;> trivial

/-- The processed route only asks for rows. -/
theorem showProcessed_isRead (messageId : String) :
    (showProcessed messageId).Only fun request => request.isRead = true := by
  -- The packet is read first, then its result and its job.
  refine .bind (.call rfl) fun found => ?_
  cases found with
  | none => trivial
  | some packet =>
    refine .bind (.call rfl) fun processed => .bind (.call rfl) fun job => ?_
    cases processed <;> trivial

/-- A reader only asks for rows. -/
theorem reader_isRead (settings : GroundSettings) (request : ReadRequest) :
    (Visitor.reader settings request).program.Only fun request => request.isRead = true := by
  -- The credential is looked at before any request is made.
  refine .bind (.tryCatch ?_ fun _ => trivial) fun _ => trivial
  rw [readPayload]
  split
  · trivial
  · trivial
  · split_ifs
    · trivial
    · refine .tryCatch ?_ fun failure => ?_
      · cases request.route with
        | raw => exact showRaw_isRead request.messageId
        | processed => exact showProcessed_isRead request.messageId
      · split_ifs <;> trivial

/-- Every visitor asks for what is justified. -/
theorem Visitor.loads (thread : Nat) (visitor : Visitor) :
    Triple (loadedProtocol fun _ => True) groundMachine thread (fun _ => True) visitor.program
      fun _ _ => True := by
  -- A reader asks for plain rows.
  cases visitor with
  | process own =>
    exact Triple.andThen (Process.loads thread own.presents_any) (fun _ _ => trivial)
      fun _ => .done fun _ _ => trivial
  | reader settings request =>
    exact Triple.weaken (loads_plain ((reader_isRead settings request).mono
      fun _ => isPlain_of_isRead)) (fun _ => id) fun _ _ _ => trivial

/-- Every visitor computes its results from evidence. -/
theorem Visitor.computes (thread : Nat) (visitor : Visitor) :
    Triple resultProtocol justifiedMachine thread (fun _ => True) visitor.program
      fun _ _ => True := by
  -- A reader stores no result.
  cases visitor with
  | process own =>
    exact Triple.andThen (own.computes thread) (fun _ _ => trivial)
      fun _ => .done fun _ _ => trivial
  | reader settings request =>
    exact computes_of_only ((reader_isRead settings request).mono fun _ => endsWork_of_isRead)

/-- Every visitor keeps the stores in agreement, where calls read their rows anew. -/
theorem Visitor.follows (thread : Nat) (visitor : Visitor) :
    Triple groundProtocol (freshMachine fun _ => True) thread (fun _ => True) visitor.program
      fun _ _ => True := by
  cases visitor with
  | process own =>
    exact Triple.andThen (Triple.weaken (own.answers thread) (fun _ => id) fun _ _ _ => trivial)
      (fun _ _ => trivial) fun _ => .done fun _ _ => trivial
  | reader settings request =>
    -- A read leaves everything as it is.
    intro ground _
    refine Safe.of_only (reader_isRead settings request)
      fun before valid request read choice reply after performed => ?_
    obtain rfl := performFresh_of_isRead read (Option.some.inj performed)
    exact ⟨valid, fun _ _ => Later.refl _, trivial⟩

end Visitors

/-- The steps of the ground system among readers. -/
abbrev VisitedStep : VisitedConfig → VisitedConfig → Prop :=
  Step groundMachine startsVisitor Ground.Ticks

/-- The steps among readers in which no call decides on an outdated object. -/
abbrev CurrentVisitedStep : VisitedConfig → VisitedConfig → Prop :=
  Step currentMachine startsVisitor Ground.Ticks

/-- A run in which no call decides on an outdated object is a run. -/
theorem visited_of_current {first second : VisitedConfig}
    (run : Relation.ReflTransGen CurrentVisitedStep first second) :
    Relation.ReflTransGen VisitedStep first second :=
  Relation.ReflTransGen.mono (fun _ _ => Step.of_restrict) _ _ run

/-- The requests of handlers, workers and readers are justified. -/
theorem loading_visitedStep : Loading (fun _ => True) groundMachine startsVisitor Ground.Ticks where
  starts thread ground program := by
    rintro ⟨visitor, rfl⟩
    exact visitor.loads thread ground trivial
  environment _ _ := Ground.Ticks.tables

/-- In every run among readers the tables are backed. -/
theorem loaded_of_visits {config : VisitedConfig}
    (run : Relation.ReflTransGen VisitedStep VisitedConfig.initial config) :
    Sound groundMachine (loadedProtocol fun _ => True) (fun _ _ _ => True) config :=
  (loading_visitedStep.run run).1

/-- In every run among readers the stored results are computed. -/
theorem results_of_run {config : VisitedConfig}
    (run : Relation.ReflTransGen VisitedStep VisitedConfig.initial config) :
    ResultsComputed config.state.database := by
  -- The runs are those in which every request is justified; there results come from evidence.
  have started : Sound justifiedMachine resultProtocol (fun _ _ _ => True) VisitedConfig.initial :=
    ⟨fun row member => absurd member (Table.not_mem_empty row), fun _ _ running => by cases running⟩
  refine (Sound.run (fun _ _ _ _ _ _ _ => trivial) ?_ ?_ started
    (loading_visitedStep.run run).2).1
  · rintro thread ground _ - ⟨visitor, rfl⟩
    exact visitor.computes thread ground trivial
  · rintro before _ computed ⟨clock, forward, rfl⟩
    exact ⟨computed, fun _ => .refl before.database⟩

/-- In every run whose calls decide on current objects the stores agree among readers too. -/
theorem follows_of_run {config : VisitedConfig}
    (run : Relation.ReflTransGen CurrentVisitedStep VisitedConfig.initial config) :
    Sound (freshMachine fun _ => True) groundProtocol (fun _ _ _ => True) config := by
  -- The run is one of the machine whose calls decide on current rows.
  have started : Sound (freshMachine fun _ => True) groundProtocol (fun _ _ _ => True)
      VisitedConfig.initial := ⟨CrossStore.empty, fun _ _ running => by cases running⟩
  refine Sound.run (fun _ _ _ _ _ _ _ => trivial) ?_
    (fun _ _ valid ticks => ⟨(valid.tick ticks).1, fun _ => (valid.tick ticks).2⟩) started
    (Relation.ReflTransGen.mono (fun _ _ => Step.fresh) _ _ run)
  rintro thread ground _ - ⟨visitor, rfl⟩
  exact visitor.follows thread ground trivial

/-- A run whose calls decide on current objects keeps what every later state keeps. -/
theorem lasting_of_run {fact : Ground → Prop} (lasting : Lasting Later fact)
    {first second : VisitedConfig}
    (run : Relation.ReflTransGen CurrentVisitedStep VisitedConfig.initial first)
    (onward : Relation.ReflTransGen CurrentVisitedStep first second) (held : fact first.state) :
    fact second.state := by
  -- By induction on the run, in which every step keeps what is in the tables.
  induction onward with
  | refl => exact held
  | tail before step ih =>
    exact Sound.step_keeps (fun _ before after held later _ => lasting before after held later)
      (fun _ _ valid ticks => ⟨(valid.tick ticks).1, fun _ => (valid.tick ticks).2⟩)
      (follows_of_run (run.trans before)) (Step.fresh step) ih

/-- A run loses no rows. -/
theorem onward_of_run {first second : VisitedConfig}
    (run : Relation.ReflTransGen VisitedStep VisitedConfig.initial first)
    (onward : Relation.ReflTransGen VisitedStep first second) :
    Onward first.state second.state := by
  have kept : ∀ thread, Kept (loadedProtocol fun _ => True) thread (Onward first.state) :=
    fun _ _ _ held onward _ => held.trans onward
  -- By induction on the run; what is onward of a state that is onward is onward.
  induction onward with
  | refl => exact .refl _
  | tail before step ih =>
    refine Sound.step_keeps kept (fun _ _ valid ticks => ?_) (loaded_of_visits (run.trans before))
      step ih
    obtain ⟨still, forward⟩ := valid.of_same ticks.tables.1 ticks.tables.2
    exact ⟨still, fun _ => forward⟩

/--
Whoever comes into a free place is given what it is owed.

The answer rests on rows that were there at one time between the time the place was free and the
time of the answer.
-/
theorem owed_of_run {machine : Machine Nat Failure Request Request.Reply Ground}
    (narrows : machine.Narrows groundMachine) {begun config : VisitedConfig} {thread : Nat}
    (sound : Sound groundMachine (loadedProtocol fun _ => True) (fun _ _ _ => True) begun)
    (free : begun.threads thread = none)
    (run : Relation.ReflTransGen (Step machine startsVisitor Ground.Ticks) begun config)
    {settings : GroundSettings} {request : ReadRequest} {answer : ReadAnswer}
    (answered : config.Answered thread settings request answer) :
    request.Owed settings (Between (Step machine startsVisitor Ground.Ticks) begun config)
      config.state answer := by
  have within := confined_run run
  have here : Between (Step machine startsVisitor Ground.Ticks) begun config begun.state :=
    ⟨begun, .refl, run, rfl⟩
  generalize Between (Step machine startsVisitor Ground.Ticks) begun config = visited at within here ⊢
  -- Only the visitors of the one place are owed anything; all others just follow the protocol.
  let post : Nat → Except Failure Visit → Ground → Prop := fun place outcome ground =>
    place = thread → ∀ visit, outcome = .ok visit →
      ∀ settings request answer, visit = .reader settings request answer →
        request.Owed settings visited ground answer
  have narrow := narrows.confine visited
  have started : Sound (machine.confine visited) ((loadedProtocol fun _ => True).confine visited)
      post begun := by
    refine ⟨⟨sound.1, here⟩, fun place program running => ?_⟩
    have other : place ≠ thread := by
      rintro rfl
      rw [free] at running
      cases running
    exact ((sound.2 place program running).confine.narrow narrow).weaken
      fun _ _ _ same => absurd same other
  refine (Sound.run ?_ ?_ ?_ started within).2 thread _ answered rfl _ rfl settings request answer rfl
  · intro place outcome first second owed onward _ same visit equal settings request answer reader
    exact (owed same visit equal settings request answer reader).grow onward.1
  · rintro place ground _ - ⟨visitor, rfl⟩
    exact (Safe.narrow narrow (visitor.answers place ground trivial)).weaken
      fun _ _ reached _ => reached
  · rintro before after valid ⟨ticks, stays⟩
    obtain ⟨still, forward⟩ := valid.1.of_same ticks.tables.1 ticks.tables.2
    exact ⟨⟨still, stays⟩, fun _ => forward⟩

/-- A raw view shows bytes with their digest and what they decode to. -/
structure RawView.Shows (view : RawView) (rawBody : Bytes) (frame : TelemetryFrame OperatingMode) :
    Prop where
  rawHex : view.rawHex = bytesHex rawBody
  bodySha256 : view.bodySha256 = sha256Hex rawBody
  messageId : view.messageId = packetIdText frame.payloadId frame.bootId frame.sequenceNumber
  protocolVersion : view.protocolVersion = frame.protocolVersion
  payloadId : view.payloadId = "PAYLOAD-" ++ String.ofList (formatDecimal 2 frame.payloadId)
  bootId : view.bootId = frame.bootId
  sequenceNumber : view.sequenceNumber = frame.sequenceNumber
  sampleTime : view.sampleTime = frame.timestampUs

/-- A raw view shows the bytes that were decoded. -/
theorem TablesBacked.shows {ground : Ground} (backed : TablesBacked ground)
    {packet : LogicalTelemetryPacket} {source : TelemetryDeliveryReceipt}
    (stored : packet ∈ ground.database.packets) (recorded : source ∈ ground.database.receipts)
    (link : source.receiptId = packet.sourceReceiptId) (job : Option TelemetryProcessingJob) :
    ∃ time frame, decodeTelemetry zlibCrc32 source.rawBody (.utc time) = .ok frame ∧
      (rawView packet source job).Shows source.rawBody frame := by
  -- The source of the packet is the receipt whose body was decoded.
  obtain ⟨_, ⟨receipt, present, key, rfl⟩, time, frame, -, decodes, same⟩ :=
    backed.decoded packet stored
  obtain rfl : receipt = source := Table.eq_of_key present recorded (key.trans link.symm)
  have identifier := (backed.ledger.packets packet stored).identifier
  have digest := (backed.ledger.receipts receipt present).digest
  refine ⟨time, frame, decodes, ?_⟩
  -- The columns of the packet are the fields of the frame.
  obtain ⟨packetId, sourceReceiptId, values, rawSha256, disposition, missingBefore⟩ := packet
  obtain rfl : telemetryValues frame = values := same
  exact ⟨rfl, digest, identifier, rfl, rfl, rfl, rfl, rfl⟩

/-- A processed view is what the bytes of a raw view compute to. -/
def RawView.Computes (raw : RawView) (view : ProcessedView) : Prop :=
  ∃ rawBody frame row, raw.rawHex = bytesHex rawBody ∧
    decodeTelemetry zlibCrc32 rawBody (.utc raw.receivedAt) = .ok frame ∧
    Reproduces frame raw.receivedAt row.values ∧ view = processedView row

/-- Two answers whose views do not contradict each other. -/
structure ReadAnswer.Agrees (first second : ReadAnswer) : Prop where
  /-- Of two raw views only the state of the job can differ. -/
  raw : ∀ one other, first = .raw one → second = .raw other →
    { one with processingState := none } = { other with processingState := none }
  processed : ∀ one other, first = .processed one → second = .processed other → one = other
  computed : ∀ raw view, first = .raw raw → second = .processed view → raw.Computes view

/-- Of two answers none shows a result where the other shows a failure. -/
def ReadAnswer.Compatible (first second : ReadAnswer) : Prop :=
  ∀ view code messageId state, first = .processed view →
    second = .unprocessed code messageId state → code = 202

namespace ReadAnswer.Shown
variable {messageId : String} {visited visited' : Ground → Prop} {ground : Ground}

/-- A raw view is that of a packet and its source. -/
theorem of_raw {view : RawView} (shown : (ReadAnswer.raw view).Shown messageId visited ground) :
    ∃ packet ∈ ground.database.packets, packet.packetId = messageId ∧
      ∃ source ∈ ground.database.receipts, source.receiptId = packet.sourceReceiptId ∧
        ∃ job, view = rawView packet source job := by
  -- A raw view has one constructor.
  cases shown with
  | raw stored named recorded link => exact ⟨_, stored, named, _, recorded, link, _, rfl⟩

/-- A processed view is that of a result. -/
theorem of_processed {view : ProcessedView}
    (shown : (ReadAnswer.processed view).Shown messageId visited ground) :
    ∃ row ∈ ground.database.processed, row.packetId = messageId ∧ view = processedView row := by
  -- A processed view has one constructor.
  cases shown with
  | processed stored named => exact ⟨_, stored, named, rfl⟩

/-- What is not processed waits, unless its job was seen to have failed. -/
theorem of_unprocessed {code : Nat} {name state : String}
    (shown : (ReadAnswer.unprocessed code name state).Shown messageId visited ground) :
    code = 202 ∨ ∃ job, SeenJob messageId visited job ∧ job.state = .failed := by
  -- A packet without a result is reported by its job: failed, or waited for.
  cases shown with
  | failed unprocessed seen ended => exact Or.inr ⟨_, seen, ended⟩
  | waiting unprocessed seen unfailed => exact Or.inl rfl

/-- What is shown of one message at one time agrees. -/
theorem agrees {first second : ReadAnswer} (computed : ResultsComputed ground.database)
    (one : first.Shown messageId visited ground)
    (other : second.Shown messageId visited' ground) : first.Agrees second where
  raw left right here there := by
    -- One message has one packet, and one packet has one source.
    subst here there
    obtain ⟨packet, stored, named, source, recorded, link, job, rfl⟩ := one.of_raw
    obtain ⟨packet', stored', named', source', recorded', link', job', rfl⟩ := other.of_raw
    obtain rfl : packet = packet' := Table.eq_of_key stored stored' (named.trans named'.symm)
    obtain rfl : source = source' := Table.eq_of_key recorded recorded' (link.trans link'.symm)
    rfl
  processed left right here there := by
    subst here there
    obtain ⟨row, stored, named, rfl⟩ := one.of_processed
    obtain ⟨row', stored', named', rfl⟩ := other.of_processed
    rw [Table.eq_of_key stored stored' (named.trans named'.symm)]
  computed raw view here there := by
    subst here there
    obtain ⟨packet, stored, named, source, recorded, link, job, rfl⟩ := one.of_raw
    obtain ⟨row, member, owner, rfl⟩ := other.of_processed
    -- The result was computed from the evidence of its packet, which the raw view shows.
    obtain ⟨rawBody, receivedAt, values, evidence, result⟩ := computed row member
    have shown : ground.database.EvidenceOf row.packetId source.rawBody source.receivedAt
        packet.values :=
      ⟨packet, stored, named.trans owner.symm, rfl, source, recorded, link, rfl, rfl⟩
    obtain ⟨rfl, rfl, rfl⟩ := evidence.unique shown
    obtain ⟨frame, decodes, -, reproduces⟩ := computeResult_eq_ok result
    exact ⟨source.rawBody, frame, row, rfl, decodes, reproduces, rfl⟩

/-- Where failed jobs stay failed, a message with a result is not shown to have failed. -/
theorem compatible {first second : ReadAnswer} (cross : CrossStore ground)
    (failed : ∀ past, visited' past → Later past ground)
    (one : first.Shown messageId visited ground)
    (other : second.Shown messageId visited' ground) : first.Compatible second := by
  intro view code name state here there
  subst here there
  obtain ⟨row, member, owner, rfl⟩ := one.of_processed
  rcases other.of_unprocessed with waiting | ⟨job, ⟨past, there, stored, named⟩, ended⟩
  · exact waiting
  · -- The job of a result is complete, and a packet has one job.
    have later := failed past there
    obtain ⟨next, present, owned⟩ := later.hasJob ⟨job, stored, rfl, named⟩
    have still := later.failed job.jobId ⟨job, stored, rfl, ended⟩
    obtain ⟨worker, among, -, same, complete⟩ := cross.reachable.ledger.processed row member
    obtain rfl : worker = next := cross.reachable.ledger.jobUnique worker among next present
      (same.trans (owner.trans owned.2.symm))
    exact absurd still (not_jobIn_of_mem present owned.1 (by rw [complete]; decide))

end ReadAnswer.Shown

section Agreement
variable {ground : Ground} {visited visited' : Ground → Prop} {first second : ReadAnswer}
variable {settings settings' : GroundSettings} {request request' : ReadRequest}

/-- What a request is owed agrees with what is shown of its message. -/
theorem ReadRequest.Owed.agrees (computed : ResultsComputed ground.database)
    (one : request.Owed settings visited ground first)
    (other : request'.Owed settings' visited' ground second)
    (same : request.messageId = request'.messageId) : first.Agrees second := by
  -- An answer that is not a view contradicts nothing.
  cases one with
  | shown known shown =>
    cases other with
    | shown known' shown' => exact shown.agrees computed (same ▸ shown')
    | unauthorized | failed =>
      exact ⟨fun _ _ _ there => (by cases there), fun _ _ _ there => (by cases there),
        fun _ _ _ there => (by cases there)⟩
  | unauthorized | failed =>
    exact ⟨fun _ _ here => (by cases here), fun _ _ here => (by cases here),
      fun _ _ here => (by cases here)⟩

/-- Where failed jobs stay failed, a request with a result and one with a failure are not both owed. -/
theorem ReadRequest.Owed.compatible (cross : CrossStore ground)
    (failed : ∀ past, visited' past → Later past ground)
    (one : request.Owed settings visited ground first)
    (other : request'.Owed settings' visited' ground second)
    (same : request.messageId = request'.messageId) : first.Compatible second := by
  -- Only two answers that show rows can differ in what they show.
  cases one with
  | shown known shown =>
    cases other with
    | shown known' shown' => exact shown.compatible cross failed (same ▸ shown')
    | unauthorized | failed => exact fun _ _ _ _ _ there => by cases there
  | unauthorized | failed => exact fun _ _ _ _ here => by cases here

end Agreement

/-- What a reader that was answered was owed since the first state. -/
theorem owed_of_answered {machine : Machine Nat Failure Request Request.Reply Ground}
    (narrows : machine.Narrows groundMachine) {config : VisitedConfig}
    (run : Relation.ReflTransGen (Step machine startsVisitor Ground.Ticks) VisitedConfig.initial
      config) {place : Nat} {settings : GroundSettings} {request : ReadRequest}
    {answer : ReadAnswer} (answered : config.Answered place settings request answer) :
    request.Owed settings
      (Between (Step machine startsVisitor Ground.Ticks) VisitedConfig.initial config)
      config.state answer :=
  owed_of_run narrows (loaded_of_visits .refl) rfl run answered

/--
Readers do not contradict each other.

Two readers of one message may come at any two times of a run, before, between or after the steps of
handlers and workers. Raw views differ in the state of the job at most, processed views not at all,
and a processed view is what the bytes of the raw view compute to. Where moreover no call decides on
an outdated object, a message that is shown as processed is never shown as failed, earlier or later.
-/
theorem readers_agree (first second : VisitedConfig)
    (run : Relation.ReflTransGen VisitedStep VisitedConfig.initial first)
    (onward : Relation.ReflTransGen VisitedStep first second) (place place' : Nat)
    (settings settings' : GroundSettings) (request request' : ReadRequest)
    (answer answer' : ReadAnswer) (early : first.Answered place settings request answer)
    (late : second.Answered place' settings' request' answer')
    (same : request.messageId = request'.messageId) :
    (answer.Agrees answer' ∧ answer'.Agrees answer) ∧
      (Relation.ReflTransGen CurrentVisitedStep VisitedConfig.initial first →
        Relation.ReflTransGen CurrentVisitedStep first second →
          answer.Compatible answer' ∧ answer'.Compatible answer) := by
  constructor
  · have unchanged : groundMachine.Narrows groundMachine := fun choice _ _ _ _ done => ⟨choice, done⟩
    have computed := results_of_run (run.trans onward)
    have one := (owed_of_answered unchanged run early).grow (onward_of_run run onward).1
    have other := owed_of_answered unchanged (run.trans onward) late
    exact ⟨one.agrees computed other same, other.agrees computed one same.symm⟩
  · intro begins continues
    -- Every state of the run leads to the last one, where the stores agree.
    have narrows := groundMachine.restrict_narrows Ground.isCurrent
    have cross := (follows_of_run (begins.trans continues)).1
    have later : ∀ {config}, Relation.ReflTransGen CurrentVisitedStep VisitedConfig.initial config →
        Relation.ReflTransGen CurrentVisitedStep config second → Later config.state second.state :=
      fun before after => lasting_of_run (fun _ _ => Later.trans) before after (.refl _)
    have one := (owed_of_answered narrows begins early).grow (onward_of_run run onward).1
    have other := owed_of_answered narrows (begins.trans continues) late
    refine ⟨one.compatible cross ?_ other same, other.compatible cross ?_ one same.symm⟩
    · rintro _ ⟨config, before, after, rfl⟩
      exact later before after
    · rintro _ ⟨config, before, after, rfl⟩
      exact later before (after.trans continues)

/-- The configuration after a visitor has come and made a number of requests. -/
def VisitedConfig.visit (config : VisitedConfig) (thread : Nat) (visitor : Visitor) (id : UUID)
    (requests : Nat) : VisitedConfig :=
  config.launch currentMachine thread visitor.program
    (List.replicate requests (fun _ => id, ⟨.none, trivial⟩))

/-- A visit to a free place is a run. -/
theorem VisitedConfig.visit_run (config : VisitedConfig) {thread : Nat}
    (free : config.threads thread = none) (visitor : Visitor) (id : UUID) (requests : Nat) :
    Relation.ReflTransGen CurrentVisitedStep config (config.visit thread visitor id requests) :=
  Config.launch_run free ⟨visitor, rfl⟩ _

/-- A visit leaves the other places as they are. -/
theorem VisitedConfig.visit_other (config : VisitedConfig) {thread other : Nat}
    (different : other ≠ thread) (visitor : Visitor) (id : UUID) (requests : Nat) :
    (config.visit thread visitor id requests).threads other = config.threads other :=
  Config.launch_other different _ _ _

/-- The clock has been set and nobody has come. -/
def quietVisit : VisitedConfig := ⟨{ clock := 1784203201000000 }, fun _ => none⟩

/-- The golden vector has been accepted. -/
def deliveredVisit : VisitedConfig :=
  quietVisit.visit 0 (.process (.gateway sampleSettings (sampleRequest goldenFrame))) 1 5

/-- An operator has read the bytes. -/
def inspectedVisit : VisitedConfig :=
  deliveredVisit.visit 1
    (.reader sampleSettings ⟨.raw, "TLM-P01-B0000002A-S00000001", some "Bearer operator"⟩) 2 3

/-- A worker has processed the packet. -/
def workedVisit : VisitedConfig := inspectedVisit.visit 2 (.process (.worker "worker-a" 1)) 3 6

/-- An administrator has read the result. -/
def processedVisit : VisitedConfig :=
  workedVisit.visit 3
    (.reader sampleSettings ⟨.processed, "TLM-P01-B0000002A-S00000001", some "Bearer admin"⟩) 4 3

/-- What the reader in a place has asked for and was answered. -/
def VisitedConfig.read? (config : VisitedConfig) (thread : Nat) :
    Option (ReadRequest × ReadAnswer) :=
  match config.threads thread with
  | some (.done (.reader _ asked answer)) => some (asked, answer)
  | _ => none

/-- Whoever has read was answered. -/
theorem VisitedConfig.answered_of_read? {config : VisitedConfig} {thread : Nat}
    {asked : ReadRequest} {answer : ReadAnswer} (read : config.read? thread = some (asked, answer)) :
    ∃ settings, config.Answered thread settings asked answer := by
  -- Only a thread that has ended with an answer was read.
  rw [VisitedConfig.read?] at read
  split at read
  next settings request given finished =>
    cases read
    exact ⟨settings, finished⟩
  next => cases read

/-- The raw view of the golden vector before it is processed. -/
def goldenRawView : RawView where
  messageId := "TLM-P01-B0000002A-S00000001"
  receiptId := "00000000-0000-0000-0000-000000000001"
  rawHex := bytesHex goldenFrame
  bodySha256 := sha256Hex goldenFrame
  receivedAt := 1784203201000000
  protocolVersion := 1
  payloadId := "PAYLOAD-01"
  bootId := 42
  sequenceNumber := 1
  sampleTime := 1784203200000000
  sequenceDisposition := "FIRST"
  missingBefore := 1
  processingState := some "QUEUED"

/-- The operator is shown the golden vector. -/
theorem inspected_raw : ∃ settings asked, asked.messageId = goldenRawView.messageId ∧
    inspectedVisit.Answered 1 settings asked (.raw goldenRawView) := by
  -- The visit is run for the answer of its second process.
  have shown : (inspectedVisit.read? 1).map (fun read => (read.1.messageId, read.2)) =
      some (goldenRawView.messageId, .raw goldenRawView) := by decide +kernel
  obtain ⟨⟨asked, answer⟩, read, same⟩ := Option.map_eq_some_iff.mp shown
  obtain ⟨named, rfl⟩ := Prod.mk.inj same
  obtain ⟨settings, answered⟩ := VisitedConfig.answered_of_read? read
  exact ⟨settings, asked, named, answered⟩

/-- The view of the golden result. -/
def goldenProcessedView : ProcessedView where
  messageId := "TLM-P01-B0000002A-S00000001"
  temperatureC := 284 / 10
  voltageV := 281 / 10
  operatingMode := "SCIENCE"
  faultNames := []
  classification := "NOMINAL"
  freshness := "CURRENT"
  processorVersion := "telemetry-v1"
  processedAt := 1784203201000000

/-- The administrator is shown the result. -/
theorem processed_result : ∃ settings asked, asked.messageId = goldenRawView.messageId ∧
    processedVisit.Answered 3 settings asked (.processed goldenProcessedView) := by
  -- The visit is run for the answer of its fourth process.
  have shown : (processedVisit.read? 3).map (fun read => (read.1.messageId, read.2)) =
      some (goldenRawView.messageId, .processed goldenProcessedView) := by decide +kernel
  obtain ⟨⟨asked, answer⟩, read, same⟩ := Option.map_eq_some_iff.mp shown
  obtain ⟨named, rfl⟩ := Prod.mk.inj same
  obtain ⟨settings, answered⟩ := VisitedConfig.answered_of_read? read
  exact ⟨settings, asked, named, answered⟩

/-- Nobody is in a place that nobody has come to. -/
theorem inspected_free {place : Nat} (beyond : 1 < place) :
    inspectedVisit.threads place = none := by
  -- Both processes of the visit lie below the place.
  have first : place ≠ 0 := by omega
  have second : place ≠ 1 := by omega
  rw [inspectedVisit, VisitedConfig.visit_other _ second, deliveredVisit,
    VisitedConfig.visit_other _ first, quietVisit]

/-- Nobody has come to read while the golden vector is delivered. -/
theorem delivered_free : deliveredVisit.threads 1 = none := by
  -- The visit so far takes the first place only.
  rw [deliveredVisit, VisitedConfig.visit_other _ (by decide : 1 ≠ 0), quietVisit]

/-- The golden vector is delivered in a run. -/
theorem delivered_run :
    Relation.ReflTransGen CurrentVisitedStep VisitedConfig.initial deliveredVisit := by
  -- The clock moves to the time of the vector, and then the gateway is visited.
  have ticked : Ground.Ticks {} { clock := 1784203201000000 } := ⟨1784203201000000, by decide, rfl⟩
  have started : Relation.ReflTransGen CurrentVisitedStep VisitedConfig.initial quietVisit :=
    .single (.environment ticked)
  have empty : quietVisit.threads 0 = none := rfl
  have delivered := quietVisit.visit_run empty
    (.process (.gateway sampleSettings (sampleRequest goldenFrame))) 1 5
  rw [← deliveredVisit] at delivered
  exact started.trans delivered

/-- The golden vector is read later in the same run. -/
theorem inspected_run : Relation.ReflTransGen CurrentVisitedStep deliveredVisit inspectedVisit := by
  -- The reader is the second process, after the gateway at the first place.
  have inspected := deliveredVisit.visit_run delivered_free
    (.reader sampleSettings ⟨.raw, "TLM-P01-B0000002A-S00000001", some "Bearer operator"⟩) 2 3
  rw [← inspectedVisit] at inspected
  exact inspected

/-- The result is read later in the same run. -/
theorem processed_run : Relation.ReflTransGen CurrentVisitedStep inspectedVisit processedVisit := by
  -- The worker visits after the first reader, and the second reader after the worker.
  have free : workedVisit.threads 3 = none := by
    rw [workedVisit, VisitedConfig.visit_other _ (by decide : 3 ≠ 2)]
    exact inspected_free (by decide)
  have worked := inspectedVisit.visit_run (inspected_free (by decide : 1 < 2))
    (.process (.worker "worker-a" 1)) 3 6
  rw [← workedVisit] at worked
  have processed := workedVisit.visit_run free
    (.reader sampleSettings ⟨.processed, "TLM-P01-B0000002A-S00000001", some "Bearer admin"⟩) 4 3
  rw [← processedVisit] at processed
  exact worked.trans processed

/-- The result of the golden vector is what the bytes that were shown before compute to. -/
theorem golden_reads_agree : goldenRawView.Computes goldenProcessedView ∧
    (ReadAnswer.processed goldenProcessedView).Compatible (.raw goldenRawView) := by
  -- Both answers are evaluated, and the runs lead from the one to the other.
  obtain ⟨settings, request, named, early⟩ := inspected_raw
  obtain ⟨settings', request', named', late⟩ := processed_result
  have first := delivered_run.trans inspected_run
  have agree := readers_agree inspectedVisit processedVisit (visited_of_current first)
    (visited_of_current processed_run) 1 3 settings settings' request request' _ _ early late
    (named.trans named'.symm)
  exact ⟨agree.1.1.computed _ _ rfl rfl, (agree.2 first processed_run).2⟩

end Cislunar
