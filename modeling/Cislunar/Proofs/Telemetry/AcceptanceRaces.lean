import Cislunar.Proofs.Telemetry.Acceptance

/-!
Races for one packet.

Any number of `accept_packet_and_create_job` calls on pending receipts interleave their statements.
As long as no call commits a packet while another one for its key stands between its look for the
packet and its look at the sequence state, one call accepts its receipt and the others find the
packet; each commit has the effect of a call that nothing interrupts.
-/

namespace Cislunar

open Foundation

section Steps
variable {ι : Type} [DecidableEq ι] {call : AcceptCall} {receipt : TelemetryDeliveryReceipt}
variable {session : ι} {server after : Sessions ι}

open AcceptNote

/-- A request leads from note to note. -/
def AcceptNote.Advances (note : AcceptNote) (call : AcceptCall) (receipt : TelemetryDeliveryReceipt)
    (session : ι) (server after : Sessions ι) (req : Sql Stmt)
    (reply : Except StorageError (Sql.Reply Stmt.Reply req)) : Prop :=
  ∃ later, note.moves call receipt req reply later ∧ later.Backed call receipt session after ∧
    call.Publishes receipt server.committed note after.committed

/-- A statement that succeeds leads from note to note. -/
theorem accept_statement {note later : AcceptNote} {stmt : Stmt}
    {reply : Except StorageError stmt.Reply} (backed : note.Backed call receipt session server)
    (performed : (sessionMachine ι).exec () session server (.statement stmt) = some (reply, after))
    (value : stmt.Reply)
    (answers : (stmt.exec (postgres.replay (note.log call receipt) server.committed)).1 = .ok value)
    (moved : note.moves call receipt (.statement stmt) (.ok value) later)
    (logged : later.log call receipt = note.log call receipt ++ [stmt])
    (locked : later.locks call =
      stmt.locks (postgres.replay (note.log call receipt) server.committed) ++ note.locks call)
    (fact : later.Fact call receipt server.committed) :
    note.Advances call receipt session server after (.statement stmt) reply := by
  -- The server answers by the rows that the session sees, and it takes the locks of the statement.
  obtain ⟨rfl, unchanged, owns⟩ := backed.1.answered performed answers
  refine ⟨later, moved, ⟨?_, by rwa [unchanged]⟩, by rw [unchanged]; exact .nothing _⟩
  rw [logged, locked]
  exact owns

section Views
variable {db : Database} {attempt : Nat} {place : Placement}

/-- The rows that a call sees after it has added its packet. -/
theorem replay_packed (packet : db.AdmitsPacket (call.packet receipt place)) :
    postgres.replay ((packed attempt place).log call receipt) db =
      { db with packets := db.packets.insert (call.packet receipt place) } := by
  -- The log holds one insertion, and the committed tables admit it.
  have added : (Stmt.insertPacket (call.packet receipt place)).exec db = (.ok (), _) :=
    if_pos packet
  show ((Stmt.insertPacket _).exec db).2 = _
  rw [added]

/-- The rows that a call sees after it has counted its packet. -/
theorem replay_counted (packet : db.AdmitsPacket (call.packet receipt place))
    (state : place.tracked = none → db.AdmitsState (firstState call.values place.missingBefore)) :
    postgres.replay ((counted attempt place).log call receipt) db = { db with
      packets := db.packets.insert (call.packet receipt place)
      states := db.countPacket call.values place.disposition place.missingBefore place.tracked } := by
  -- The count comes on top of the packet, which the admission has let in.
  rw [show (counted attempt place).log call receipt =
    (packed attempt place).log call receipt ++ [call.counting place] from rfl,
    Dialect.replay_snoc, replay_packed packet]
  obtain ⟨tracked, disposition, missingBefore⟩ := place
  -- A first count adds the state, any other one updates it.
  cases tracked with
  | none =>
    have counted : (Stmt.insertState (firstState call.values missingBefore)).exec { db with
        packets := db.packets.insert (call.packet receipt ⟨none, disposition, missingBefore⟩) } =
        (.ok (), _) := if_pos (state rfl)
    exact congrArg Prod.snd counted
  | some found => rfl

/-- A transaction that adds a packet publishes it with its job, its receipt and its count. -/
theorem replay_sealed (packet : db.AdmitsPacket (call.packet receipt place))
    (state : place.tracked = none → db.AdmitsState (firstState call.values place.missingBefore))
    (job : db.AdmitsJob (call.job attempt)) :
    postgres.replay ((sealed attempt place).log call receipt) db =
      db.addPacket receipt call.values place.tracked place.disposition place.missingBefore
        (call.uuid4 attempt) call.options := by
  -- The job, the receipt and the event are written on top of the packet and its count.
  rw [show (sealed attempt place).log call receipt =
    (((counted attempt place).log call receipt ++ [.insertJob (call.job attempt)]) ++
      [.updateReceipt (acceptedReceipt receipt call.values)]) ++
      [.insertAudit (call.acceptedEvent receipt attempt place)] from rfl,
    Dialect.replay_snoc, Dialect.replay_snoc, Dialect.replay_snoc, replay_counted packet state]
  have hired : (Stmt.insertJob (call.job attempt)).exec { db with
      packets := db.packets.insert (call.packet receipt place)
      states := db.countPacket call.values place.disposition place.missingBefore place.tracked } =
      (.ok (), _) := if_pos job
  show ((Stmt.insertAudit _).exec ((Stmt.updateReceipt _).exec
    ((Stmt.insertJob (call.job attempt)).exec _).2).2).2 = _
  rw [hired]
  rfl

end Views

/-- The session of a stored packet has a state. -/
theorem AcceptCall.begun_of_packet {db : Database} (accounting : Accounting db)
    {packet : LogicalTelemetryPacket} (stored : packet ∈ db.packets)
    (same : packet.values.sourceKey = call.key) : call.Begun db := by
  -- The accounting has a state for every session with a packet.
  have placed : packet.session = call.session := by
    have sessions := congrArg (fun key : Int × Int × Int => (key.1, key.2.1)) same
    exact sessions
  obtain ⟨state, known, named⟩ := (accounting.sessions call.session).mp ⟨packet, stored, placed⟩
  exact ⟨state, Table.get?_eq_some.mpr ⟨known, named⟩⟩

/-- The locks of the statement that counts a packet. -/
theorem counting_locks {place : Placement} {db : Database}
    (tracked : place.tracked ≠ none → db.states.get? call.session = place.tracked) (rows : Database) :
    (call.counting place).locks rows = [countLock call place] := by
  -- An update keeps the key of the state, so either way the lock is that of the session.
  obtain ⟨_ | state, disposition, missingBefore⟩ := place
  · rfl
  · have named := (Table.get?_eq_some.mp (tracked nofun)).2
    have kept : (state.count call.values disposition missingBefore).session = call.session := by
      rw [← named, TelemetrySequenceState.count]
      split_ifs <;> rfl
    exact congrArg (fun session => [Lock.row (.state session)]) kept

/-- A statement that is refused leads to a rollback. -/
theorem accept_refusal {note later : AcceptNote} {stmt : Stmt}
    {reply : Except StorageError stmt.Reply} (backed : note.Backed call receipt session server)
    (performed : (sessionMachine ι).exec () session server (.statement stmt) = some (reply, after))
    (fails : (stmt.exec (postgres.replay (note.log call receipt) server.committed)).1 =
      .error .integrity)
    (moved : note.moves call receipt (.statement stmt) (.error .integrity) later)
    (logged : later.log call receipt = note.log call receipt)
    (locked : later.locks call = note.locks call)
    (fact : later.Fact call receipt server.committed) :
    note.Advances call receipt session server after (.statement stmt) reply := by
  -- A refused statement changes nothing on the server, and the locks stay.
  obtain ⟨rfl, rfl⟩ := backed.1.refused performed fails
  refine ⟨later, moved, ⟨?_, fact⟩, .nothing _⟩
  rw [logged, locked]
  exact backed.1

variable (valid : call.Valid) (pending : receipt.validationStatus = .pending)
variable (reachable : Reachable server.committed)
variable {req : Sql Stmt} {reply : Except StorageError (Sql.Reply Stmt.Reply req)}

include valid reachable in
/-- The look at the sequence state gives the packet its place. -/
theorem window_advances {attempt : Nat} {reply : Except StorageError (Option TelemetrySequenceState)}
    (backed : (window attempt).Backed call receipt session server)
    (performed : (sessionMachine ι).exec () session server (.statement (.selectState call.session)) =
      some (reply, after)) :
    (window attempt).Advances call receipt session server after
      (.statement (.selectState call.session)) reply := by
  obtain ⟨waiting, begun, unused⟩ := backed.2
  cases tracked : server.committed.states.get? call.session with
  | none =>
    -- A second attempt would have found the state that made the first one fail.
    have first : attempt = 0 := by
      by_contra again
      obtain ⟨state, found⟩ := begun again
      cases tracked.symm.trans found
    have fact : (ready attempt ⟨none, .first, call.values.sequenceNumber⟩).Fact call receipt
        server.committed := ⟨waiting, rfl, fun _ => first, fun other => absurd rfl other⟩
    refine accept_statement backed performed none (congrArg Except.ok tracked)
      ⟨⟨none, .first, call.values.sequenceNumber⟩, rfl, rfl, rfl⟩ rfl ?_ fact
    show [own call] = lockRow _ (server.committed.states.get? call.session) ++ [own call]
    rw [tracked]
    rfl
  | some state =>
    -- The mark of a session has its packet, so the new packet does not stand on it.
    cases position : sequencePosition call.values.sequenceNumber (some state) with
    | none =>
      obtain ⟨_, same, onMark⟩ := sequencePosition_eq_none.mp position
      cases same
      obtain ⟨packet, stored, same⟩ :=
        reachable.accounting.packet_on_mark valid.range tracked onMark
      exact absurd same (packetBySource_eq_none.mp unused packet stored)
    | some place =>
      obtain ⟨disposition, missingBefore⟩ := place
      have fact : (ready attempt ⟨some state, disposition, missingBefore⟩).Fact call receipt
          server.committed := ⟨waiting, position, nofun, fun _ => ⟨unused, tracked⟩⟩
      refine accept_statement backed performed (some state) (congrArg Except.ok tracked)
        ⟨⟨some state, disposition, missingBefore⟩, rfl, position, rfl⟩ rfl ?_ fact
      show [Lock.row (.state call.session), own call] =
        lockRow _ (server.committed.states.get? call.session) ++ [own call]
      rw [tracked, ← (Table.get?_eq_some.mp tracked).2]
      rfl

include valid pending reachable in
/-- The packet is added, unless another call has added it. -/
theorem ready_advances {attempt : Nat} {place : Placement} {reply : Except StorageError Unit}
    (backed : (ready attempt place).Backed call receipt session server)
    (performed : (sessionMachine ι).exec () session server
      (.statement (.insertPacket (call.packet receipt place))) = some (reply, after)) :
    (ready attempt place).Advances call receipt session server after
      (.statement (.insertPacket (call.packet receipt place))) reply := by
  obtain ⟨waiting, placed, first, relied⟩ := backed.2
  have named : receipt.receiptId = call.receiptId := (Table.get?_eq_some.mp waiting.1).2
  -- Another call may have committed a packet for the key in between.
  cases found : server.committed.packetBySource call.key with
  | none =>
    have packet := (waiting.admits valid pending reachable found attempt place).1
    refine accept_statement backed performed () (congrArg Prod.fst (if_pos packet))
      (Or.inl ⟨rfl, rfl⟩) rfl ?_ ⟨waiting, placed, first, found, fun tracked => (relied tracked).2⟩
    show packetLocks call ++ _ = [_, .value (.packetReceipt receipt.receiptId), _] ++ _
    rw [named]
    rfl
  | some existing =>
    obtain ⟨stored, same⟩ := of_packetBySource found
    -- A call that holds the sequence state relies on its key having no packet.
    have untracked : place.tracked = none := by
      by_contra tracked
      cases found.symm.trans (relied tracked).1
    have fails : (Stmt.insertPacket (call.packet receipt place)).exec
        (postgres.replay ((ready attempt place).log call receipt) server.committed) =
        (.error .integrity, _) := if_neg fun packet => packet.2.2.1 existing stored same
    refine accept_refusal backed performed (congrArg Prod.fst fails)
      (Or.inr ⟨rfl, first untracked, rfl⟩) rfl ?_
      ⟨waiting, AcceptCall.begun_of_packet reachable.accounting stored same⟩
    show [own call] = stateLock call place ++ [own call]
    rw [stateLock, untracked]
    rfl

include valid pending reachable in
/-- The packet is counted, unless another call has begun the session. -/
theorem packed_advances {attempt : Nat} {place : Placement}
    {reply : Except StorageError (call.counting place).Reply}
    (backed : (packed attempt place).Backed call receipt session server)
    (performed : (sessionMachine ι).exec () session server (.statement (call.counting place)) =
      some (reply, after)) :
    (packed attempt place).Advances call receipt session server after
      (.statement (call.counting place)) reply := by
  obtain ⟨waiting, placed, first, unused, relied⟩ := backed.2
  obtain ⟨packet, admits, -⟩ := waiting.admits valid pending reachable unused attempt place
  have seen : postgres.replay ((packed attempt place).log call receipt) server.committed = _ :=
    replay_packed packet
  have locked : ∀ rows, (counted attempt place).locks call =
      (call.counting place).locks rows ++ (packed attempt place).locks call := by
    intro rows
    rw [counting_locks relied rows]
    rfl
  -- A state that was locked is still there; one that was missing may have been added.
  obtain ⟨_ | state, disposition, missingBefore⟩ := place
  · cases tracked : server.committed.states.get? call.session with
    | none =>
      refine accept_statement backed performed () ?_ (Or.inl ⟨rfl, rfl⟩) rfl (locked _)
        ⟨waiting, placed, unused, tracked⟩
      rw [seen]
      exact congrArg Prod.fst (if_pos (admits tracked))
    | some state =>
      refine accept_refusal backed performed ?_ (Or.inr ⟨rfl, first rfl, rfl⟩) rfl rfl
        ⟨waiting, state, tracked⟩
      rw [seen]
      refine congrArg Prod.fst (if_neg fun admitted => ?_)
      cases tracked.symm.trans admitted.1
  · exact accept_statement backed performed () rfl ⟨rfl, rfl⟩ rfl (locked _)
      ⟨waiting, placed, unused, relied nofun⟩

/-- The call settles its receipt against the packet under its key. -/
def AcceptNote.Settling : AcceptNote → Prop
  | matched _ | compared _ _ | linked _ _ | informed _ _ | repeated _ _ | disputed _ => True
  | _ => False

include pending reachable in
/-- A call whose key has a packet settles its receipt and commits. -/
theorem settling_advances {note : AcceptNote} (settling : note.Settling)
    (backed : note.Backed call receipt session server) (next : note.next call receipt = some req)
    (performed : (sessionMachine ι).exec () session server req = some (reply, after)) :
    note.Advances call receipt session server after req reply := by
  have ledger := reachable.ledger
  -- The commit leaves the receipt as the transaction has written it.
  have settled : ∀ {existing exact event},
      call.Waiting receipt server.committed →
      call.Compared receipt existing exact server.committed →
      (server.committed.settle (call.linked receipt existing exact) event).receipts.get?
          call.receiptId = some (call.linked receipt existing exact) ∧
        call.Compared receipt existing exact
          (server.committed.settle (call.linked receipt existing exact) event) := by
    intro existing exact event waiting compared
    obtain ⟨stored, same, origin, found, result⟩ := compared
    have named : (call.linked receipt existing exact).receiptId = call.receiptId :=
      (AcceptCall.linked_receiptId ..).trans (Table.get?_eq_some.mp waiting.1).2
    have other := waiting.not_source pending ledger stored
    refine ⟨?_, stored, same, origin, ?_, result⟩
    · exact (Table.get?_set_of_used waiting.1 named call.receiptId).trans (if_pos rfl)
    · exact (Table.get?_set_of_used waiting.1 named existing.sourceReceiptId).trans
        ((if_neg other.symm).trans found)
  -- Up to the commit, the statements only read or write rows that the call has locked.
  cases note with
  | opening | opened | window | ready | packed | counted | hired | marked | sealed | outrun
  | preceded | duplicate | conflict | accepted => exact settling.elim
  | matched existing =>
    cases next
    obtain ⟨waiting, stored, same⟩ := backed.2
    obtain ⟨origin, -, found, -⟩ :=
      ledger.source_of_packet (Table.get?_eq_some.mp waiting.1).1 pending stored
    exact accept_statement backed performed (some origin) (congrArg Except.ok found) ⟨_, rfl, rfl⟩
      rfl rfl ⟨waiting, stored, same, origin, found, rfl⟩
  | compared existing exact =>
    cases next
    have named : (call.linked receipt existing exact).receiptId = call.receiptId :=
      (AcceptCall.linked_receiptId ..).trans (Table.get?_eq_some.mp backed.2.1.1).2
    have fact : (linked existing exact).Fact call receipt server.committed := backed.2
    refine accept_statement backed performed () rfl ⟨rfl, rfl⟩ rfl ?_ fact
    show _ = [Lock.row (.receipt (call.linked receipt existing exact).receiptId)] ++ _
    rw [named]
    rfl
  | linked existing exact =>
    cases exact with
    | true =>
      cases next
      exact accept_statement backed performed
        (server.committed.jobByPacket existing.packetId) rfl ⟨_, rfl, rfl⟩ rfl rfl
        ⟨backed.2.1, backed.2.2, rfl⟩
    | false =>
      cases next
      exact accept_statement backed performed () rfl ⟨rfl, rfl⟩ rfl rfl backed.2
  | informed existing job =>
    cases next
    exact accept_statement backed performed () rfl ⟨rfl, rfl⟩ rfl rfl backed.2
  | repeated existing job =>
    cases next
    obtain ⟨rfl, rfl⟩ := Dialect.commit_eq performed
    rw [AcceptNote.Advances, show server.view postgres session = _ from backed.1.view]
    exact ⟨.duplicate existing job, ⟨rfl, rfl⟩, ⟨.leave _ _ _, settled backed.2.1 backed.2.2.1⟩,
      .repeated existing job⟩
  | disputed existing =>
    cases next
    obtain ⟨rfl, rfl⟩ := Dialect.commit_eq performed
    rw [AcceptNote.Advances, show server.view postgres session = _ from backed.1.view]
    exact ⟨.conflict existing, ⟨rfl, rfl⟩, ⟨.leave _ _ _, settled backed.2.1 backed.2.2⟩,
      .disputed existing⟩

include valid pending reachable in
/-- Every request of a call leads from note to note. -/
theorem accept_advances {note : AcceptNote} (backed : note.Backed call receipt session server)
    (next : note.next call receipt = some req)
    (performed : (sessionMachine ι).exec () session server req = some (reply, after)) :
    note.Advances call receipt session server after req reply := by
  -- One case for each request of the call; the branches that can fail have lemmas of their own.
  cases note with
  | duplicate | conflict | accepted => cases next
  | matched | compared | linked | informed | repeated | disputed =>
    exact settling_advances pending reachable trivial backed next performed
  | opening attempt =>
    cases next
    have found := backed.2.1.1
    refine accept_statement backed performed (some receipt) (congrArg Except.ok found) ⟨rfl, rfl⟩ rfl
      ?_ backed.2
    show [own call] = lockRow _ (server.committed.receipts.get? call.receiptId) ++ []
    rw [found, own, ← (Table.get?_eq_some.mp found).2]
    rfl
  | opened attempt =>
    cases next
    -- The first look at the key leads to the settling or to the placing of a packet.
    cases found : server.committed.packetBySource call.key with
    | none =>
      refine accept_statement backed performed none (congrArg Except.ok found) (Or.inl ⟨rfl, rfl⟩)
        rfl ?_ ⟨backed.2.1, backed.2.2, found⟩
      show [own call] = lockRow _ (server.committed.packetBySource call.key) ++ [own call]
      rw [found]
      rfl
    | some existing =>
      refine accept_statement backed performed (some existing) (congrArg Except.ok found)
        (Or.inr ⟨existing, rfl, rfl⟩) rfl ?_ ⟨backed.2.1, of_packetBySource found⟩
      show [_, own call] = lockRow _ (server.committed.packetBySource call.key) ++ [own call]
      rw [found]
      rfl
  | window attempt =>
    cases next
    exact window_advances valid reachable backed performed
  | ready attempt place =>
    cases next
    exact ready_advances valid pending reachable backed performed
  | packed attempt place =>
    cases next
    exact packed_advances valid pending reachable backed performed
  | counted attempt place =>
    cases next
    -- The job has a fresh identifier and belongs to a packet that is not committed yet.
    obtain ⟨waiting, placed, unused, tracked⟩ := backed.2
    obtain ⟨packet, state, job⟩ := waiting.admits valid pending reachable unused attempt place
    refine accept_statement backed performed () ?_ ⟨rfl, rfl⟩ rfl rfl backed.2
    rw [replay_counted packet fun untracked => state (tracked.trans untracked)]
    exact congrArg Prod.fst (if_pos job)
  | hired attempt place =>
    cases next
    have named : receipt.receiptId = call.receiptId := (Table.get?_eq_some.mp backed.2.1.1).2
    refine accept_statement backed performed () rfl ⟨rfl, rfl⟩ rfl ?_ backed.2
    show _ = [Lock.row (.receipt receipt.receiptId)] ++ _
    rw [named]
    rfl
  | marked attempt place =>
    cases next
    exact accept_statement backed performed () rfl ⟨rfl, rfl⟩ rfl rfl backed.2
  | sealed attempt place =>
    cases next
    obtain ⟨waiting, placed, unused, tracked⟩ := backed.2
    obtain ⟨packet, state, job⟩ := waiting.admits valid pending reachable unused attempt place
    -- The commit publishes what the session sees: the packet with everything that hangs on it.
    have seen : server.view postgres session = _ := backed.1.view.trans
      (replay_sealed packet (fun untracked => state (tracked.trans untracked)) job)
    obtain ⟨rfl, rfl⟩ := Dialect.commit_eq performed
    rw [AcceptNote.Advances, seen]
    refine ⟨.accepted attempt place, ⟨rfl, rfl⟩, ⟨.leave _ _ _, ?_, ?_⟩, .sealed attempt place⟩
    · have named : (acceptedReceipt receipt call.values).receiptId = call.receiptId :=
        (Table.get?_eq_some.mp waiting.1).2
      exact (Table.get?_set_of_used waiting.1 named call.receiptId).trans (if_pos rfl)
    · exact (Table.mem_insert packet.1).mpr (Or.inr rfl)
  | outrun | preceded =>
    cases next
    obtain ⟨rfl, rfl⟩ := Dialect.rollback_eq performed
    exact ⟨opening 1, ⟨rfl, rfl⟩, ⟨.leave _ _ _, backed.2.1, fun _ => backed.2.2⟩, .nothing _⟩

end Steps

/-- A call that relies on the state of its session holds it, or the right to add it. -/
theorem AcceptNote.Fact.state_held {call : AcceptCall} {receipt : TelemetryDeliveryReceipt}
    {note : AcceptNote} {db : Database} (fact : note.Fact call receipt db) (holds : note.HoldsState) :
    (db.states.get? call.session = none ∧ .value (.session call.session) ∈ note.locks call) ∨
      ((∃ state, db.states.get? call.session = some state) ∧
        .row (.state call.session) ∈ note.locks call) := by
  -- A call that has found no state holds the right to add it, any other one holds the row.
  cases note with
  | opening | opened | matched | compared | linked | informed | repeated | disputed | window | outrun
  | preceded | duplicate | conflict | accepted => exact holds.elim
  | ready attempt place | packed attempt place =>
    obtain ⟨_ | state, disposition, missingBefore⟩ := place
    · exact absurd rfl holds
    · have relied := fact.2.2.2
      first
        | exact Or.inr ⟨⟨state, (relied nofun).2⟩, by simp [locks, stateLock]⟩
        | exact Or.inr ⟨⟨state, relied.2 nofun⟩, by simp [locks, stateLock]⟩
  | counted attempt place | hired attempt place | marked attempt place | sealed attempt place =>
    have tracked := fact.2.2.2
    obtain ⟨_ | state, disposition, missingBefore⟩ := place
    · exact Or.inl ⟨tracked, by simp [locks, countLock]⟩
    · exact Or.inr ⟨⟨state, tracked⟩, by simp [locks, countLock]⟩

/-- The key that a call relies on has no packet. -/
theorem AcceptNote.Fact.unused {call : AcceptCall} {receipt : TelemetryDeliveryReceipt}
    {note : AcceptNote} {db : Database} (fact : note.Fact call receipt db) (needs : note.NeedsKey) :
    db.packetBySource call.key = none := by
  -- Each note that needs the key says that it has no packet.
  cases note with
  | opening | opened | matched | compared | linked | informed | repeated | disputed | outrun
  | preceded | duplicate | conflict | accepted => exact needs.elim
  | window => exact fact.2.2
  | ready => exact (fact.2.2.2 needs).1
  | packed => exact fact.2.2.2.1
  | counted | hired | marked | sealed => exact fact.2.2.1

section Rivals
variable {ι : Type} [DecidableEq ι] {call rival : AcceptCall}
variable {receipt rivalReceipt : TelemetryDeliveryReceipt} {session other : ι}
variable {server after : Sessions ι} {note theirs : AcceptNote}

open AcceptNote

omit [DecidableEq ι] in
/-- A lock has one holder. -/
theorem AcceptNote.Backed.holder_eq (backed : note.Backed call receipt session server)
    (spared : theirs.Backed rival rivalReceipt other server) {lock : Lock}
    (mine : lock ∈ note.locks call) (yours : lock ∈ theirs.locks rival) : session = other :=
  Option.some.inj (((backed.1.holder lock).mpr mine).symm.trans ((spared.1.holder lock).mpr yours))

omit [DecidableEq ι] in
/-- Only one call at a time relies on the state of a session. -/
theorem AcceptNote.Backed.state_exclusive (backed : note.Backed call receipt session server)
    (spared : theirs.Backed rival rivalReceipt other server) (same : call.session = rival.session)
    (holds : note.HoldsState) (relies : theirs.HoldsState) : session = other := by
  -- Either both calls hold the same lock, or they disagree on whether the session has a state.
  rcases backed.2.state_held holds with ⟨none, mine⟩ | ⟨⟨state, found⟩, mine⟩ <;>
    rcases spared.2.state_held relies with ⟨untracked, yours⟩ | ⟨⟨stored, known⟩, yours⟩
  · exact backed.holder_eq spared mine (same ▸ yours)
  · cases none.symm.trans (same ▸ known)
  · cases found.symm.trans (same ▸ untracked)
  · exact backed.holder_eq spared mine (same ▸ yours)

/-- The step of one call leaves the notes of the others true. -/
theorem accept_spares {req : Sql Stmt} {reply : Except StorageError (Sql.Reply Stmt.Reply req)}
    (valid : call.Valid) (pending : receipt.validationStatus = .pending)
    (reachable : Reachable server.committed) (different : session ≠ other) (apart : rival.Apart call)
    (backed : note.Backed call receipt session server)
    (spared : theirs.Backed rival rivalReceipt other server)
    (performed : (sessionMachine ι).exec () session server req = some (reply, after))
    (publishes : call.Publishes receipt server.committed note after.committed)
    (undisturbed : (∃ attempt, theirs = .window attempt) →
      server.committed.packetBySource rival.key = none →
        after.committed.packetBySource rival.key = none) :
    theirs.Backed rival rivalReceipt other after := by
  refine ⟨Dialect.owns_other spared.1 different performed, ?_⟩
  have fact := spared.2
  have spares := publishes.spares valid pending reachable backed.2
  have states := publishes.state_kept backed.2
  -- A call that adds a packet relies on the state of its session.
  have exclusive : (∃ attempt place, note = .sealed attempt place) → theirs.HoldsState →
      rival.session ≠ call.session := by
    rintro ⟨attempt, place, rfl⟩ relies same
    exact different (backed.state_exclusive spared same.symm trivial relies)
  have key : theirs.NeedsKey → after.committed.packetBySource rival.key = none := by
    intro needs
    have unused := fact.unused needs
    by_cases between : ∃ attempt, theirs = .window attempt
    · exact undisturbed between unused
    · refine packetBySource_eq_none.mpr fun packet stored same => ?_
      rcases publishes.packets valid pending reachable backed.2 stored with
        old | ⟨attempt, place, rfl, rfl⟩
      · exact packetBySource_eq_none.mp unused packet old same
      · -- The call that adds the packet would share its key with the other one.
        have keys : call.key = rival.key := same
        have sessions : call.session = rival.session :=
          congrArg (fun key : Int × Int × Int => (key.1, key.2.1)) keys
        by_cases relies : theirs.HoldsState
        · exact exclusive ⟨attempt, place, rfl⟩ relies sessions.symm
        · cases theirs with
          | opening | opened | matched | compared | linked | informed | repeated | disputed | outrun
          | preceded | duplicate | conflict | accepted => exact needs.elim
          | window attempt => exact between ⟨attempt, rfl⟩
          | ready => exact relies needs
          | packed trial placed =>
            have mine : Lock.value (.packetSource call.key) ∈ (sealed attempt place).locks call := by
              simp [locks, packetLocks]
            have yours : Lock.value (.packetSource call.key) ∈ (packed trial placed).locks rival := by
              simp [locks, packetLocks, keys]
            exact different (backed.holder_eq spared mine yours)
          | counted | hired | marked | sealed => exact relies trivial
  -- A commit rewrites the receipt of its call alone, which no packet comes from.
  have settled : (∀ existing ∈ server.committed.packets, existing.sourceReceiptId ≠ call.receiptId) ∨
      after.committed = server.committed := by
    generalize after.committed = published at publishes
    cases publishes with
    | nothing => exact Or.inr rfl
    | repeated | disputed | sealed =>
      exact Or.inl fun existing stored =>
        backed.2.1.not_source pending reachable.ledger stored
  rcases settled with settled | unchanged
  · exact fact.spared spares apart settled key fun relies =>
      states rival.session fun adds => exclusive adds relies
  · rwa [unchanged]

end Rivals

namespace AcceptNote
variable {call : AcceptCall} {receipt : TelemetryDeliveryReceipt} {note : AcceptNote}
variable {place : Placement} {lock : Lock}

/-- How many kinds of calls a call can wait for, one behind the other. -/
def rank : AcceptNote → Nat
  | opened _ | window _ => 3
  | ready _ _ => 2
  | packed _ place => if place.tracked = none then 1 else 0
  | _ => 0

/-- An acceptance locks the state of its session where there is one. -/
theorem mem_stateLock : lock ∈ stateLock call place ↔
    place.tracked ≠ none ∧ lock = .row (.state call.session) := by
  -- By whether the session was tracked.
  obtain ⟨_ | state, disposition, missingBefore⟩ := place <;> simp [stateLock]

/-- An acceptance counts under the key of a new state or under the row of a known one. -/
theorem eq_countLock : lock = countLock call place ↔
    (place.tracked = none ∧ lock = .value (.session call.session)) ∨
      (place.tracked ≠ none ∧ lock = .row (.state call.session)) := by
  -- By whether the session was tracked.
  obtain ⟨_ | state, disposition, missingBefore⟩ := place <;> simp [countLock]

attribute [local simp] locks own mem_stateLock packetLocks eq_countLock jobLocks rank

/-- A call locks no receipt but its own. -/
theorem receipt_of_lock {receiptId : UUID} (held : .row (.receipt receiptId) ∈ note.locks call) :
    receiptId = call.receiptId := by
  -- By the note: the one receipt that is locked is the call's own.
  cases note <;> simp_all

/-- A call that locks a packet waits for nobody. -/
theorem rank_of_packet {packetId : String} (held : .row (.packet packetId) ∈ note.locks call) :
    note.rank = 0 := by
  -- By the note: a call that found a packet is as far as any.
  cases note <;> simp_all

/-- A call that locks the state of a session does not wait for such a lock. -/
theorem rank_of_state {session : Int × Int} (held : .row (.state session) ∈ note.locks call) :
    note.rank ≤ 2 := by
  -- By the note: the state is locked once the look for a packet is over.
  cases note <;> simp_all

/-- A call that has added a packet waits for the right to begin a session at most. -/
theorem rank_of_value {value : UniqueValue} (held : .value value ∈ note.locks call) :
    note.rank ≤ 1 := by
  -- Only a call that has added its packet holds values.
  cases note with
  | packed attempt place => by_cases untracked : place.tracked = none <;> simp [untracked]
  | _ => simp_all

/-- A call that begins a session waits for nobody. -/
theorem rank_of_session {session : Int × Int} (held : .value (.session session) ∈ note.locks call) :
    note.rank = 0 := by
  -- By the note: a new session is locked by counting, after which nothing is waited for.
  cases note <;> simp_all

/-- A call adds no job but its own. -/
theorem job_of_lock {jobId : UUID} (held : .value (.jobId jobId) ∈ note.locks call) :
    ∃ attempt, jobId = call.uuid4 attempt := by
  -- By the note: a job is new in each attempt.
  cases note with
  | hired attempt | marked attempt | sealed attempt => exact ⟨attempt, by simp_all⟩
  | _ => simp_all

/-- A call that adds a job has added its packet. -/
theorem packet_of_lock {packetId : String} (held : .value (.jobPacket packetId) ∈ note.locks call) :
    .value (.packetId packetId) ∈ note.locks call := by
  -- By the note: a call inserts its packet before its job.
  cases note <;> simp_all

/-- A call that holds a lock has not returned. -/
theorem next_of_lock (held : lock ∈ note.locks call) : ∃ req, note.next call receipt = some req := by
  -- A note that holds a lock is not final, so it names a next statement.
  cases note with
  | duplicate | conflict | accepted | opening => simp_all
  | linked existing exact => cases exact <;> simp [next]
  | _ => simp [next]

end AcceptNote

/-- Calls on distinct pending receipts, with unused and distinct job identifiers. -/
structure AcceptanceSetup {ι : Type} (db : Database) (calls : ι → AcceptCall)
    (receipts : ι → TelemetryDeliveryReceipt) : Prop where
  valid : ∀ session, (calls session).Valid
  waiting : ∀ session, (calls session).Waiting (receipts session) db
  pending : ∀ session, (receipts session).validationStatus = .pending
  apart : ∀ first second, first ≠ second → (calls first).Apart (calls second)

/-- What is left of a call is about to look at the sequence state. -/
def AwaitsState : Option (Repo PacketAcceptanceResult) → Prop
  | some (.request (.statement (.selectState _)) _) => True
  | _ => False

instance (rest : Option (Repo PacketAcceptanceResult)) : Decidable (AwaitsState rest) := by
  unfold AwaitsState
  split <;> infer_instance

/-- No key gets its packet while a call has looked for the packet without having looked at the
sequence state yet. -/
def Undisturbed {ι : Type} (calls : ι → AcceptCall)
    (config config' : RaceConfig ι PacketAcceptanceResult) : Prop :=
  ∀ session, AwaitsState (config.threads session) →
    config.state.committed.packetBySource (calls session).key = none →
      config'.state.committed.packetBySource (calls session).key = none

instance {ι : Type} [Fintype ι] (calls : ι → AcceptCall)
    (config config' : RaceConfig ι PacketAcceptanceResult) :
    Decidable (Undisturbed calls config config') :=
  inferInstanceAs (Decidable (∀ _, _ → _ → _))

/-- One session makes its next request and disturbs no call. -/
structure UndisturbedStep {ι : Type} [DecidableEq ι] (calls : ι → AcceptCall)
    (config config' : RaceConfig ι PacketAcceptanceResult) : Prop where
  step : RaceStep config config'
  undisturbed : Undisturbed calls config config'

/-- How far all the calls have come. -/
structure Contest {ι : Type} (db : Database) (calls : ι → AcceptCall)
    (receipts : ι → TelemetryDeliveryReceipt) (config : RaceConfig ι PacketAcceptanceResult)
    (notes : ι → AcceptNote) : Prop where
  cast : Cast (fun session => acceptRole (calls session) (receipts session))
    (fun session outcome note => note.returned (calls session) (receipts session) outcome)
    (fun session => AcceptNote.Backed (calls session) (receipts session) session) config notes
  reachable : Reachable config.state.committed
  /-- A packet that was not there before is that of a call that has accepted its receipt. -/
  origin : ∀ packet ∈ config.state.committed.packets, packet ∈ db.packets ∨
    ∃ session attempt place, notes session = .accepted attempt place ∧
      packet = (calls session).packet (receipts session) place

section Contests
variable {ι : Type} {db : Database} {calls : ι → AcceptCall}
variable {receipts : ι → TelemetryDeliveryReceipt}
variable {config config' : RaceConfig ι PacketAcceptanceResult} {notes : ι → AcceptNote}

/-- The calls start with a look for their receipts. -/
theorem Contest.start (reachable : Reachable db) (setup : AcceptanceSetup db calls receipts) :
    Contest db calls receipts (startRace db fun session => (calls session).program)
      fun _ => .opening 0 where
  cast := {
    plays := fun session =>
      ⟨_, rfl, acceptCall_plays (setup.valid session) (setup.pending session)⟩
    backed := fun session =>
      ⟨Server.owns_idle _ _, setup.waiting session, fun again => absurd rfl again⟩ }
  reachable := reachable
  origin := fun _ => Or.inl

/-- A call that has found no packet is about to look at the sequence state. -/
theorem Contest.awaits (contest : Contest db calls receipts config notes) {session : ι}
    {attempt : Nat} (kind : notes session = .window attempt) :
    AwaitsState (config.threads session) := by
  -- A call at this note has one request to make, which is the look at the state.
  obtain ⟨program, present, plays⟩ := contest.cast.plays session
  rw [kind] at plays
  rw [present]
  cases program with
  | done result => exact plays.elim
  | raise error => exact plays.elim
  | request req rest =>
    cases plays.1
    trivial

variable [DecidableEq ι]

/-- A contest goes on with every undisturbed step. -/
theorem Contest.step (contest : Contest db calls receipts config notes)
    (setup : AcceptanceSetup db calls receipts) (step : UndisturbedStep calls config config') :
    ∃ notes', Contest db calls receipts config' notes' := by
  -- The acting call goes on by its role, and its step leaves the notes of the others true.
  obtain ⟨⟨running, performed⟩, undisturbed⟩ := step
  rename_i session req rest choice reply state
  obtain ⟨permitted, -⟩ := contest.cast.request running
  have backed := contest.cast.backed session
  have valid := setup.valid session
  have pending := setup.pending session
  obtain ⟨later, moved, own, publishes⟩ :=
    accept_advances valid pending contest.reachable backed permitted performed
  refine ⟨Function.update notes session later, ?_, ?_, fun packet stored => ?_⟩
  -- Behind its look for the packet, a call relies on nobody committing one.
  · refine contest.cast.act running moved own fun other different => ?_
    refine accept_spares valid pending contest.reachable different.symm
      (setup.apart other session different) backed (contest.cast.backed other) performed publishes ?_
    rintro ⟨attempt, kind⟩
    exact undisturbed other (contest.awaits kind)
  · exact publishes.reachable valid pending contest.reachable backed.2
  · rcases publishes.packets valid pending contest.reachable backed.2 stored with old |
      ⟨attempt, place, kind, rfl⟩
    · refine (contest.origin packet old).imp_right ?_
      rintro ⟨place, attempt, placement, kind, rfl⟩
      -- The call that has accepted its receipt has no request left.
      have other : place ≠ session := by
        rintro rfl
        rw [show (acceptRole _ _).permits _ _ = _ from rfl, kind] at permitted
        cases permitted
      exact ⟨place, attempt, placement, (Function.update_of_ne other ..).trans kind, rfl⟩
    · refine Or.inr ⟨session, attempt, place, (Function.update_self ..).trans ?_, rfl⟩
      rw [show (acceptRole _ _).permits _ _ = _ from rfl, kind] at permitted
      cases permitted
      rw [kind] at moved
      exact moved.2

/-- A contest goes on in every undisturbed interleaving. -/
theorem Contest.run (contest : Contest db calls receipts config notes)
    (setup : AcceptanceSetup db calls receipts)
    (run : Relation.ReflTransGen (UndisturbedStep calls) config config') :
    ∃ notes', Contest db calls receipts config' notes' := by
  -- By induction on the run.
  induction run with
  | refl => exact ⟨notes, contest⟩
  | tail _ step ih =>
    obtain ⟨_, reached⟩ := ih
    exact reached.step setup step

omit [DecidableEq ι] in
/-- A call that waits for another one has a greater rank. -/
theorem Contest.rank_lt (contest : Contest db calls receipts config notes)
    (setup : AcceptanceSetup db calls receipts) {session other : ι} (different : other ≠ session)
    {stmt : Stmt}
    (next : (notes session).next (calls session) (receipts session) = some (.statement stmt))
    {lock : Lock} (wanted : lock ∈ stmt.locks (config.state.view postgres session))
    (held : config.state.holder lock = some other) :
    (notes other).rank < (notes session).rank := by
  -- The wanted lock is held by another call, which has come further for every kind of lock.
  have backed := contest.cast.backed session
  have theirs := ((contest.cast.backed other).1.holder lock).mp held
  have alone : lock ∉ (notes session).locks (calls session) := fun mine =>
    different (Option.some.inj (held.symm.trans ((backed.1.holder lock).mpr mine)))
  have apart := setup.apart other session different
  have foreign : lock ≠ .row (.receipt (calls session).receiptId) := by
    rintro rfl
    exact apart.receipts (AcceptNote.receipt_of_lock theirs).symm
  cases kind : notes session <;> rw [kind] at next backed alone
  case repeated | disputed | sealed | outrun | preceded | duplicate | conflict | accepted => cases next
  case matched | informed | marked =>
    cases next
    cases wanted
  case linked existing exact => cases exact <;> cases next <;> cases wanted
  -- Nobody else locks the receipt of a call.
  case opening =>
    cases next
    obtain ⟨row, found, rfl⟩ := mem_lockRow.mp wanted
    rw [(Table.get?_eq_some.mp found).2] at foreign
    exact absurd rfl foreign
  case compared existing exact =>
    cases next
    have named := (Table.get?_eq_some.mp backed.2.1.1).2
    rw [List.mem_singleton.mp wanted, AcceptCall.linked_receiptId, named] at foreign
    exact absurd rfl foreign
  case hired attempt place =>
    cases next
    have named := (Table.get?_eq_some.mp backed.2.1.1).2
    refine absurd (List.mem_singleton.mp wanted) ?_
    rwa [show (acceptedReceipt (receipts session) _).receiptId = _ from named]
  -- From here on the kind of the wanted lock bounds how far its holder still has to go.
  case opened =>
    cases next
    obtain ⟨row, found, rfl⟩ := mem_lockRow.mp wanted
    rw [AcceptNote.rank_of_packet theirs]
    exact Nat.zero_lt_succ _
  case window =>
    cases next
    obtain ⟨row, found, rfl⟩ := mem_lockRow.mp wanted
    exact Nat.lt_succ_of_le (AcceptNote.rank_of_state theirs)
  case ready attempt place =>
    cases next
    have value : ∃ unique, lock = .value unique := by
      rcases List.mem_cons.mp wanted with rfl | wanted
      · exact ⟨_, rfl⟩
      · rcases List.mem_pair.mp wanted with rfl | rfl <;> exact ⟨_, rfl⟩
    obtain ⟨unique, rfl⟩ := value
    exact Nat.lt_succ_of_le (AcceptNote.rank_of_value theirs)
  case packed attempt place =>
    cases next
    rw [counting_locks backed.2.2.2.2.2] at wanted
    rcases AcceptNote.eq_countLock.mp (List.mem_singleton.mp wanted) with
      -- The count locks the row of a session, or the right to begin one.
      ⟨untracked, rfl⟩ | ⟨tracked, rfl⟩
    · rw [AcceptNote.rank_of_session theirs]
      simp [AcceptNote.rank, untracked]
    · -- The call itself has locked the state that it read.
      exact absurd (by simp [AcceptNote.locks, AcceptNote.mem_stateLock, tracked]) alone
  case counted attempt place =>
    cases next
    rcases List.mem_pair.mp wanted with rfl | rfl
    · obtain ⟨yours, same⟩ := AcceptNote.job_of_lock theirs
      exact absurd same.symm (apart.jobs yours attempt)
    · -- The other call would have added the same packet.
      have yours := AcceptNote.packet_of_lock theirs
      have mine : Lock.value (.packetId (calls session).values.packetId) ∈
          (AcceptNote.counted attempt place).locks (calls session) := by
        simp [AcceptNote.locks, AcceptNote.packetLocks]
      exact absurd ((contest.cast.backed other).holder_eq backed yours mine) different

/-- While a call has not returned, some call can make a request. -/
theorem Contest.goes_on (contest : Contest db calls receipts config notes)
    (setup : AcceptanceSetup db calls receipts) {session : ι} {req : Sql Stmt}
    (next : (notes session).next (calls session) (receipts session) = some req) :
    ∃ place req outcome, (notes place).next (calls place) (receipts place) = some req ∧
      (sessionMachine ι).exec () place config.state req = some outcome := by
  -- A call waits for calls of lower rank only, and those of the lowest rank wait for nobody.
  induction rank : (notes session).rank using Nat.strong_induction_on generalizing session req with
  | h rank ih =>
    cases req with
    | commit => exact ⟨session, _, _, next, rfl⟩
    | rollback => exact ⟨session, _, _, next, rfl⟩
    | statement stmt =>
      -- A statement is stopped only by a lock of another call.
      by_cases waits : ∃ other, other ≠ session ∧
        ∃ lock ∈ stmt.locks (config.state.view postgres session),
          config.state.holder lock = some other
      · obtain ⟨other, different, lock, wanted, held⟩ := waits
        have lower := contest.rank_lt setup different next wanted held
        obtain ⟨req, pending⟩ : ∃ req, (notes other).next (calls other) (receipts other) =
          some req := AcceptNote.next_of_lock (((contest.cast.backed other).1.holder lock).mp held)
        exact ih _ (rank ▸ lower) pending rfl
      · obtain ⟨outcome, performed⟩ := performs_of_unheld fun other different lock wanted held =>
          waits ⟨other, different, lock, wanted, held⟩
        exact ⟨session, _, outcome, next, performed⟩

/-- A contest that has come to an end has answered every call. -/
theorem Contest.answered (contest : Contest db calls receipts config notes)
    (setup : AcceptanceSetup db calls receipts) (halted : Halted (sessionMachine ι) config)
    (session : ι) : ∃ result, config.threads session = some (.done result) ∧
      (notes session).returned (calls session) (receipts session) (.ok result) := by
  -- No session blocks forever, so in a halted run each has returned.
  refine contest.cast.answered (fun session => acceptRole_determined (calls session)
    (receipts session)) (fun session req next => ?_) halted session
  obtain ⟨place, req, outcome, pending, performed⟩ := contest.goes_on setup next
  exact ⟨place, req, (), outcome, pending, performed⟩

end Contests

/-- The calls under a key have left it one packet with one job: one of them has accepted its receipt,
and the others have found the packet. -/
structure DecidedBy {ι : Type} (calls : ι → AcceptCall) (key : Int × Int × Int) (db : Database)
    (winner : ι) : Prop where
  own : (calls winner).key = key
  accepted : ∃ receipt, db.receipts.get? (calls winner).receiptId = some receipt ∧
    receipt.validationStatus = .accepted
  duplicates : ∀ session, (calls session).key = key → session ≠ winner →
    ∃ receipt, db.receipts.get? (calls session).receiptId = some receipt ∧
      receipt.validationStatus = .duplicate ∧
      receipt.duplicateOfReceiptId = some (calls winner).receiptId ∧
      receipt.logicalPacketId = some (calls winner).values.packetId
  packet : ∃! packet, packet ∈ db.packets ∧ packet.values.sourceKey = key
  job : ∃! job, job ∈ db.jobs ∧ job.packetId = (calls winner).values.packetId

section Decisions
variable {ι : Type} {db : Database} {calls : ι → AcceptCall}
variable {receipts : ι → TelemetryDeliveryReceipt} {key : Int × Int × Int}
variable {config : RaceConfig ι PacketAcceptanceResult} {notes : ι → AcceptNote}

/-- A new packet under a key is that of a call that has accepted its receipt. -/
theorem Contest.winner (contest : Contest db calls receipts config notes)
    (absent : db.packetBySource key = none) {existing : LogicalTelemetryPacket}
    (stored : existing ∈ config.state.committed.packets) (same : existing.values.sourceKey = key) :
    ∃ session attempt place, notes session = .accepted attempt place ∧
      (calls session).key = key ∧ existing = (calls session).packet (receipts session) place := by
  -- A packet that is stored was there before, or an accepted call stored it.
  rcases contest.origin existing stored with old | ⟨session, attempt, place, kind, rfl⟩
  · exact absurd same (packetBySource_eq_none.mp absent existing old)
  · exact ⟨session, attempt, place, kind, same, rfl⟩

/-- Once all calls have returned, the calls under a key without a packet are decided. -/
theorem Contest.decided (contest : Contest db calls receipts config notes)
    (setup : AcceptanceSetup db calls receipts) (reachable : Reachable db)
    (absent : db.packetBySource key = none)
    (identical : ∀ first second, (calls first).key = key → (calls second).key = key →
      (receipts first).rawBody = (receipts second).rawBody)
    (answered : ∀ session, ∃ result,
      (notes session).returned (calls session) (receipts session) (.ok result))
    {session : ι} (own : (calls session).key = key) :
    ∃ winner, DecidedBy calls key config.state.committed winner := by
  have ledger := contest.reachable.ledger
  have named : ∀ session, (receipts session).receiptId = (calls session).receiptId :=
    fun session => (Table.get?_eq_some.mp (setup.waiting session).1).2
  -- Whether the call has accepted its receipt or found a packet, there is a winner.
  obtain ⟨winner, attempt, place, kind, keyed⟩ : ∃ winner attempt place,
      notes winner = .accepted attempt place ∧ (calls winner).key = key := by
    obtain ⟨result, returned⟩ := answered session
    have fact := (contest.cast.backed session).2
    cases kind : notes session <;> rw [kind] at returned fact
    case accepted attempt place => exact ⟨session, attempt, place, kind, own⟩
    case duplicate existing job | conflict existing =>
      obtain ⟨stored, same, -⟩ := fact.2
      obtain ⟨winner, attempt, place, kind, keyed, -⟩ :=
        contest.winner absent stored (same.trans own)
      exact ⟨winner, attempt, place, kind, keyed⟩
    all_goals exact returned.elim
  have fact := (contest.cast.backed winner).2
  rw [kind] at fact
  obtain ⟨receipt, stored⟩ := fact
  have only : ∀ packet ∈ config.state.committed.packets, packet.values.sourceKey = key →
      packet = (calls winner).packet (receipts winner) place := fun packet among same =>
    ledger.sourceUnique packet among _ stored (same.trans keyed.symm)
  refine ⟨winner, keyed, ⟨_, receipt, rfl⟩, fun other same different => ?_,
    ⟨_, ⟨stored, keyed⟩, fun packet found => only packet found.1 found.2⟩, ?_⟩
  -- Any other call under the key has found the packet of the winner.
  · obtain ⟨result, returned⟩ := answered other
    have theirs := (contest.cast.backed other).2
    cases kind : notes other <;> rw [kind] at returned theirs
    case accepted attempt rival =>
      -- Two packets under one key would be one packet with two sources.
      have packets := only _ theirs.2 same
      have sources : (receipts other).receiptId = (receipts winner).receiptId :=
        congrArg (·.sourceReceiptId) packets
      rw [named, named] at sources
      exact absurd sources (setup.apart other winner different).receipts
    case duplicate existing job =>
      obtain ⟨found, among, equal, -⟩ := theirs
      cases only existing among (equal.trans same)
      exact ⟨_, found, rfl, congrArg some (named winner), rfl⟩
    case conflict existing =>
      -- The source of the packet is the receipt of the winner, which holds the same bytes.
      obtain ⟨-, among, equal, origin, source, result⟩ := theirs
      cases only existing among (equal.trans same)
      rw [show (LogicalTelemetryPacket.sourceReceiptId _) = _ from named winner, receipt] at source
      cases source
      have digests : ∀ session, (receipts session).bodySha256 =
          sha256Hex (receipts session).rawBody := fun session =>
        (reachable.ledger.receipts _ (Table.get?_eq_some.mp (setup.waiting session).1).1).digest
      have bytes := identical winner other keyed same
      have exact : isExactDuplicate (receipts other) ((calls winner).packet (receipts winner) place)
          (some (acceptedReceipt (receipts winner) (calls winner).values)) = true := by
        simp [isExactDuplicate, AcceptCall.packet, newPacket, acceptedReceipt, digests, bytes]
      cases result.symm.trans exact
    all_goals exact returned.elim
  · obtain ⟨job, member, same, -⟩ := ledger.jobOfPacket stored
    exact ⟨job, ⟨member, same⟩, fun other found =>
      ledger.jobUnique other found.1 job member (found.2.trans same.symm)⟩

end Decisions

/--
Acceptances under races.

Any number of `accept_packet_and_create_job` calls on distinct pending receipts interleave their
statements; among them are calls that hold identical bytes under a key that has no packet. They come
to an end. In every interleaving in which no call gives a packet to a key that another call stands
before, no call raises, the tables are those of a serial history, and when no call can go on all have
returned: one of the calls under the key has accepted its receipt and added a packet with a job, and
the others have found it as their duplicate. Numbers are unbounded here; those of decoded packets and
the counts of them stay within the ranges of their columns (`Reachable.inRange`).
-/
theorem acceptance_races {ι : Type} [DecidableEq ι] [Fintype ι] (db : Database)
    (reachable : Reachable db) (calls : ι → AcceptCall) (receipts : ι → TelemetryDeliveryReceipt)
    (setup : AcceptanceSetup db calls receipts) (key : Int × Int × Int)
    (absent : db.packetBySource key = none)
    (identical : ∀ first second, (calls first).key = key → (calls second).key = key →
      (receipts first).rawBody = (receipts second).rawBody) :
    Terminates (sessionMachine ι) (startRace db fun session => (calls session).program) ∧
    ∀ config, Relation.ReflTransGen (UndisturbedStep calls)
        (startRace db fun session => (calls session).program) config →
      Reachable config.state.committed ∧
      (∀ session error, config.threads session ≠ some (.raise error)) ∧
      (Halted (sessionMachine ι) config →
        (∀ session, ∃ result, config.threads session = some (.done result)) ∧
        ((∃ session, (calls session).key = key) →
          ∃ winner, DecidedBy calls key config.state.committed winner)) := by
  -- The contest holds along the run; its notes say what every call has returned.
  refine ⟨terminates _ _, fun config run => ?_⟩
  obtain ⟨notes, contest⟩ := (Contest.start reachable setup).run setup run
  refine ⟨contest.reachable, contest.cast.not_raised fun session =>
    acceptRole_determined (calls session) (receipts session), fun halted => ?_⟩
  have answered := contest.answered setup halted
  refine ⟨fun session => ?_, fun ⟨session, own⟩ => ?_⟩
  · obtain ⟨result, present, -⟩ := answered session
    exact ⟨result, present⟩
  · refine contest.decided setup reachable absent identical (fun session => ?_) own
    obtain ⟨result, -, returned⟩ := answered session
    exact ⟨result, returned⟩

/-- The turns of a race that disturb no call. -/
def UndisturbedTurns {ι : Type} [DecidableEq ι] (calls : ι → AcceptCall) :
    List ι → RaceConfig ι PacketAcceptanceResult → Prop
  | [], _ => True
  | session :: rest, config =>
    Undisturbed calls config (config.act (sessionMachine ι) session ()) ∧
      UndisturbedTurns calls rest (config.act (sessionMachine ι) session ())

instance decidableUndisturbedTurns {ι : Type} [DecidableEq ι] [Fintype ι] (calls : ι → AcceptCall) :
    (turns : List ι) → (config : RaceConfig ι PacketAcceptanceResult) →
      Decidable (UndisturbedTurns calls turns config)
  | [], _ => isTrue trivial
  | _ :: rest, _ =>
    have := decidableUndisturbedTurns calls rest
    inferInstanceAs (Decidable (_ ∧ _))

/-- Turns that disturb no call are undisturbed steps. -/
theorem undisturbed_turns {ι : Type} [DecidableEq ι] {calls : ι → AcceptCall} (turns : List ι)
    {config : RaceConfig ι PacketAcceptanceResult}
    (undisturbed : UndisturbedTurns calls turns config) :
    Relation.ReflTransGen (UndisturbedStep calls) config
      (turns.foldl (fun config session => config.act (sessionMachine ι) session ()) config) := by
  -- By induction on the turns; a turn of a call that cannot go on changes nothing.
  induction turns generalizing config with
  | nil => exact .refl
  | cons session rest ih =>
    obtain ⟨first, later⟩ := undisturbed
    have continued := ih later
    rcases Config.act_cases (sessionMachine ι) session () config with same | step
    · rw [same] at continued
      rwa [List.foldl_cons, same]
    · exact .head ⟨step, first⟩ continued

/-- Deliveries of one session: the first two hold the same bytes, and the last one is ahead. -/
def contestDelivery (session : Fin 3) : Delivery where
  rawBody := if session = 2 then [2] else [1]
  peerCertificateIdentity := "vendor"
  presentedRequestId := none
  canonicalRequestId := none
  contentType := none
  receivedAt := 0

/-- The receipt of a delivery before its acceptance. -/
def contestReceipt (session : Fin 3) : TelemetryDeliveryReceipt :=
  (contestDelivery session).receipt session none

/-- The tables with the receipts of all deliveries. -/
def contestDatabase : Database :=
  databaseAfter ([0, 1, 2].map fun session : Fin 3 =>
    (⟨fun _ => session, 0⟩, .recordDelivery (contestDelivery session) none))

/-- The acceptances of the deliveries: the first two have the sequence number 5, the last one 10. -/
def contestCall (session : Fin 3) : AcceptCall where
  receiptId := session
  values := {
    protocolVersion := 1
    payloadId := 1
    bootId := 1
    sequenceNumber := if session = 2 then 10 else 5
    sampleTimestampUs := 0
    temperatureCentiC := 0
    voltageMv := 0
    operatingMode := 0
    faultFlags := 0 }
  options := { now := 0 }
  uuid4 attempt := 2 * session + if attempt = 0 then 0 else 1

/-- The deliveries stand ready for their acceptances. -/
theorem contest_setup : AcceptanceSetup contestDatabase contestCall contestReceipt where
  valid session := ⟨by decide +revert, by decide +revert, by decide +revert⟩
  waiting session := by
    refine ⟨?_, fun attempt => rfl⟩
    decide +kernel +revert
  pending session := rfl
  apart := by
    have receipts : ∀ first second : Fin 3, first ≠ second →
        (contestCall first).receiptId ≠ (contestCall second).receiptId := by decide
    have jobs : ∀ first second : Fin 3, first ≠ second → ∀ mine yours : Bool,
        (2 * first + if mine = true then 0 else 1 : UUID) ≠
          2 * second + if yours = true then 0 else 1 := by decide
    -- Each call names its jobs by its own number.
    intro first second different
    refine ⟨receipts first second different, fun mine yours => ?_⟩
    simpa [contestCall] using jobs first second different (mine = 0) (yours = 0)

/-- The key of the first two calls has no packet before. -/
theorem contest_absent : contestDatabase.packetBySource (1, 1, 5) = none := by
  -- The tables are searched.
  decide +kernel

/-- The calls under that key hold identical bytes. -/
theorem contest_identical : ∀ first second, (contestCall first).key = (1, 1, 5) →
    (contestCall second).key = (1, 1, 5) →
    (contestReceipt first).rawBody = (contestReceipt second).rawBody := by
  -- Every pair of calls is compared.
  decide

/-- Both calls look for the packet before it is there, and neither is stopped on the way. -/
def closeTurns : List (Fin 3) :=
  List.replicate 3 0 ++ List.replicate 3 1 ++ List.replicate 6 0 ++ List.replicate 9 2 ++
    List.replicate 10 1

/-- One of the two calls accepts its receipt, and the other one finds the packet. -/
theorem contest_decided :
    ∃ winner, DecidedBy contestCall (1, 1, 5)
      (runRace contestDatabase (fun session => (contestCall session).program)
        closeTurns).state.committed winner := by
  have race := acceptance_races contestDatabase (reachable_databaseAfter _) contestCall
    contestReceipt contest_setup (1, 1, 5) contest_absent contest_identical
  have run : Relation.ReflTransGen (UndisturbedStep contestCall) _
      (runRace contestDatabase (fun session => (contestCall session).program) closeTurns) :=
    undisturbed_turns closeTurns (by decide +kernel)
  refine ((race.2 _ run).2.2 ?_).2 ⟨0, by decide⟩
  -- Every call has returned, so none has a request left.
  rintro _ ⟨running, -⟩
  rename_i session _ _ _ _ _
  have returned : ∀ session, ((runRace contestDatabase
      (fun session => (contestCall session).program) closeTurns).result session).isSome = true := by
    decide +kernel
  have result := returned session
  rw [RaceConfig.result, running] at result
  cases result

/-- The third call begins the session behind the look of the first one, and the second call commits
the packet behind the second look of the first one. -/
def overtakingTurns : List (Fin 3) :=
  List.replicate 3 0 ++ List.replicate 9 2 ++ List.replicate 5 0 ++ List.replicate 9 1 ++
    List.replicate 3 0

/-- What a call has raised. -/
def raceError (config : RaceConfig (Fin 3) PacketAcceptanceResult) (session : Fin 3) :
    Option StorageError :=
  match config.threads session with
  | some (.raise error) => some error
  | _ => none

/-- An integrity error can escape both attempts of a call. -/
theorem overtaken_acceptance_raises :
    ¬∀ (db : Database) (calls : Fin 3 → AcceptCall) (receipts : Fin 3 → TelemetryDeliveryReceipt)
      (key : Int × Int × Int), Reachable db → AcceptanceSetup db calls receipts →
      db.packetBySource key = none →
      (∀ first second, (calls first).key = key → (calls second).key = key →
        (receipts first).rawBody = (receipts second).rawBody) →
      ∀ config, Relation.ReflTransGen RaceStep
          (startRace db fun session => (calls session).program) config →
        ∀ session, config.threads session ≠ some (.raise .integrity) := by
  -- The turns leave the first call with the error of its second attempt.
  intro claimed
  have raised : raceError (runRace contestDatabase (fun session => (contestCall session).program)
      overtakingTurns) 0 = some .integrity := by decide +kernel
  refine claimed contestDatabase contestCall contestReceipt (1, 1, 5) (reachable_databaseAfter _)
    contest_setup contest_absent contest_identical _ (runRace_run _ _ overtakingTurns) 0 ?_
  rw [raceError] at raised
  split at raised
  next error left =>
    cases raised
    exact left
  next => cases raised

end Cislunar
