import Cislunar.Foundation.Interleaving
import Cislunar.Foundation.ReadCommitted
import Cislunar.Telemetry.Repository

/-!
The repository on PostgreSQL at READ COMMITTED: which locks its statements take.

`SELECT ... FOR UPDATE` and updates lock the rows they find; an insertion keeps the values of its
unique constraints from other transactions until its own transaction ends.
-/

namespace Cislunar

open Foundation

/-- A row that can be locked. -/
inductive RowName where
  | receipt (receiptId : UUID)
  | identity (requestId : UUID)
  | packet (packetId : String)
  | state (session : Int × Int)
  | job (jobId : UUID)
  deriving DecidableEq

/-- A value that a primary key or a unique constraint admits once. -/
inductive UniqueValue where
  | receiptId (value : UUID)
  | requestId (value : UUID)
  | firstReceiptId (value : UUID)
  | packetId (value : String)
  | packetReceipt (value : UUID)
  | packetSource (value : Int × Int × Int)
  | session (value : Int × Int)
  | jobId (value : UUID)
  | jobPacket (value : String)
  | processedPacket (value : String)
  | processedJob (value : UUID)
  deriving DecidableEq

/-- What a transaction can keep from others. -/
inductive Lock where
  | row (name : RowName)
  /-- A value that was inserted and may still be withdrawn. -/
  | value (unique : UniqueValue)
  deriving DecidableEq

/-- The lock on a row that was found. -/
def lockRow {ρ : Type} (name : ρ → RowName) (found : Option ρ) : List Lock :=
  (found.map fun row => .row (name row)).toList

/-- The locks that a statement takes, given the rows it sees. -/
def Stmt.locks : Stmt → Database → List Lock
  | selectReceipt receiptId true, db =>
    lockRow (fun row => .receipt row.receiptId) (db.receipts.get? receiptId)
  | selectIdentity requestId, db =>
    lockRow (fun row => .identity row.requestId) (db.identities.get? requestId)
  | selectPacketBySource source, db =>
    lockRow (fun row => .packet row.packetId) (db.packetBySource source)
  | selectState session, db => lockRow (fun row => .state row.session) (db.states.get? session)
  | selectJob jobId true, db => lockRow (fun row => .job row.jobId) (db.jobs.get? jobId)
  | insertReceipt row, _ => [.value (.receiptId row.receiptId)]
  | insertIdentity row, _ =>
    [.value (.requestId row.requestId), .value (.firstReceiptId row.firstReceiptId)]
  | insertPacket row, _ => [.value (.packetId row.packetId),
    .value (.packetReceipt row.sourceReceiptId), .value (.packetSource row.values.sourceKey)]
  | insertState row, _ => [.value (.session row.session)]
  | insertJob row, _ => [.value (.jobId row.jobId), .value (.jobPacket row.packetId)]
  | insertProcessed row, _ =>
    [.value (.processedPacket row.packetId), .value (.processedJob row.processingJobId)]
  | updateReceipt row, _ => [.row (.receipt row.receiptId)]
  | updateState row, _ => [.row (.state row.session)]
  | updateJob row, _ => [.row (.job row.jobId)]
  | _, _ => []

/-- The statements of the repository with their locks. -/
def postgres : Dialect StorageError Stmt Stmt.Reply Database Lock := ⟨Stmt.exec, Stmt.locks⟩

/-- Concurrent sessions over the telemetry tables. -/
abbrev Sessions (ι : Type) := Server ι Stmt Database Lock

/-- The server as a machine for its sessions. -/
abbrev sessionMachine (ι : Type) [DecidableEq ι] :
    Machine ι StorageError (Sql Stmt) (Sql.Reply Stmt.Reply) (Sessions ι) :=
  postgres.machine

/-- The sessions and what is left of the call that each of them runs. -/
abbrev RaceConfig (ι α : Type) :=
  Config ι StorageError (Sql Stmt) (Sql.Reply Stmt.Reply) (Sessions ι) α

/-- One session makes its next request. -/
abbrev RaceStep {ι α : Type} [DecidableEq ι] : RaceConfig ι α → RaceConfig ι α → Prop :=
  Interleaves (sessionMachine ι)

/-- Calls that start on the same tables, one in each session. -/
def startRace {ι α : Type} (db : Database) (calls : ι → Repo α) : RaceConfig ι α :=
  ⟨.idle db, fun session => some (calls session)⟩

/-- The race in which the sessions take their turns as listed; who has to wait misses the turn. -/
def runRace {ι α : Type} [DecidableEq ι] (db : Database) (calls : ι → Repo α) (turns : List ι) :
    RaceConfig ι α :=
  turns.foldl (fun config session => config.act (sessionMachine ι) session ()) (startRace db calls)

/-- Every list of turns is an interleaving. -/
theorem runRace_run {ι α : Type} [DecidableEq ι] (db : Database) (calls : ι → Repo α)
    (turns : List ι) :
    Relation.ReflTransGen RaceStep (startRace db calls) (runRace db calls turns) := by
  -- By induction on the turns, from any configuration.
  have continued : ∀ config : RaceConfig ι α, Relation.ReflTransGen RaceStep config
      (turns.foldl (fun config session => config.act (sessionMachine ι) session ()) config) := by
    induction turns with
    | nil => exact fun _ => .refl
    | cons session rest ih =>
      exact fun config => (config.act_interleaves (sessionMachine ι) session ()).trans (ih _)
  exact continued _

/-- A statement under a note. -/
theorem plays_sql {ν : Type} {role : Role StorageError (Sql Stmt) (Sql.Reply Stmt.Reply) ν}
    (stmt : Stmt) {note : ν} {post : Except StorageError stmt.Reply → ν → Prop}
    (permitted : role.permits note (.statement stmt))
    (reached : ∀ reply later, role.moves note (.statement stmt) reply later → post reply later) :
    Plays role.inside post (sql stmt) note :=
  .call permitted reached

/-- A lock on a row that was found. -/
theorem mem_lockRow {ρ : Type} {name : ρ → RowName} {found : Option ρ} {lock : Lock} :
    lock ∈ lockRow name found ↔ ∃ row, found = some row ∧ lock = .row (name row) := by
  -- There is a lock where a row was found.
  cases found <;> simp [lockRow]

/-- A statement is executed when nobody else holds its locks. -/
theorem performs_of_unheld {ι : Type} [DecidableEq ι] {server : Sessions ι} {session : ι} {stmt : Stmt}
    (unheld : ∀ other, other ≠ session → ∀ lock ∈ stmt.locks (server.view postgres session),
      server.holder lock ≠ some other) :
    ∃ outcome, (sessionMachine ι).exec () session server (.statement stmt) = some outcome :=
  Dialect.statement_free (Server.free_of_unheld unheld)

/-- The result of a call that has returned. -/
def RaceConfig.result {ι α : Type} (config : RaceConfig ι α) (session : ι) : Option α :=
  match config.threads session with
  | some (.done value) => some value
  | _ => none

end Cislunar
