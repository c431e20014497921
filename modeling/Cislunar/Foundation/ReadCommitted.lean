import Cislunar.Foundation.Role
import Cislunar.Foundation.Transaction

/-!
Concurrent sessions of a database server at the isolation level READ COMMITTED.

A statement sees the rows that are committed when it is executed, and the writes of its own
transaction. It waits while another transaction holds a lock that it needs; a commit publishes the
writes of a transaction, and commits and rollbacks release its locks.
-/

namespace Foundation

/-- What a server needs to know about its statements. -/
structure Dialect (ε Stmt : Type) (Reply : Stmt → Type) (δ Lock : Type) where
  /-- The effect of a statement on the rows it sees. -/
  exec : (stmt : Stmt) → δ → Except ε (Reply stmt) × δ
  /-- The locks that a statement takes, given the rows it sees. -/
  locks : Stmt → δ → List Lock

/-- The committed rows and the open transactions of a server. -/
structure Server (ι Stmt δ Lock : Type) where
  committed : δ
  /-- The statements of the open transaction of each session. -/
  log : ι → List Stmt
  holder : Lock → Option ι

section
variable {ι ε Stmt : Type} {Reply : Stmt → Type} {δ Lock : Type}

/-- The rows after some statements, each of which changes them or fails. -/
def Dialect.replay (dialect : Dialect ε Stmt Reply δ Lock) (log : List Stmt) (rows : δ) : δ :=
  log.foldl (fun seen stmt => (dialect.exec stmt seen).2) rows

/-- One more statement of a transaction. -/
theorem Dialect.replay_snoc (dialect : Dialect ε Stmt Reply δ Lock) (log : List Stmt) (stmt : Stmt)
    (rows : δ) :
    dialect.replay (log ++ [stmt]) rows = (dialect.exec stmt (dialect.replay log rows)).2 :=
  List.foldl_append ..

namespace Server

/-- A server without open transactions. -/
def idle (committed : δ) : Server ι Stmt δ Lock := ⟨committed, fun _ => [], fun _ => none⟩

/-- The rows that a session sees. -/
def view (dialect : Dialect ε Stmt Reply δ Lock) (server : Server ι Stmt δ Lock) (session : ι) : δ :=
  dialect.replay (server.log session) server.committed

variable [DecidableEq ι] [DecidableEq Lock]

/-- No other session holds any of some locks. -/
def Free (server : Server ι Stmt δ Lock) (session : ι) (locks : List Lock) : Prop :=
  ∀ lock ∈ locks, server.holder lock = none ∨ server.holder lock = some session

omit [DecidableEq Lock] in
instance (server : Server ι Stmt δ Lock) (session : ι) (locks : List Lock) :
    Decidable (server.Free session locks) :=
  inferInstanceAs (Decidable (∀ lock ∈ locks, _))

/-- A statement joins the transaction of its session. -/
def join (server : Server ι Stmt δ Lock) (session : ι) (stmt : Stmt) (locks : List Lock) :
    Server ι Stmt δ Lock where
  committed := server.committed
  log := Function.update server.log session (server.log session ++ [stmt])
  holder lock := if lock ∈ locks then some session else server.holder lock

/-- The transaction of a session ends. -/
def leave (server : Server ι Stmt δ Lock) (session : ι) (committed : δ) :
    Server ι Stmt δ Lock where
  committed := committed
  log := Function.update server.log session []
  holder lock := if server.holder lock = some session then none else server.holder lock

end Server

variable [DecidableEq ι] [DecidableEq Lock]

/-- The server as a machine; a failed statement leaves its transaction to be rolled back. -/
def Dialect.machine (dialect : Dialect ε Stmt Reply δ Lock) :
    Machine ι ε (Sql Stmt) (Sql.Reply Reply) (Server ι Stmt δ Lock) where
  Choice := Unit
  exec _ session server
    | .statement stmt =>
      let seen := server.view dialect session
      match (dialect.exec stmt seen).1 with
      | .error error => some (.error error, server)
      | .ok reply =>
        if server.Free session (dialect.locks stmt seen) then
          some (.ok reply, server.join session stmt (dialect.locks stmt seen))
        else none
    | .commit => some (.ok (), server.leave session (server.view dialect session))
    | .rollback => some (.ok (), server.leave session server.committed)

variable {dialect : Dialect ε Stmt Reply δ Lock} {server after : Server ι Stmt δ Lock}
variable {session other : ι}

namespace Dialect

/-- What a statement can do. -/
theorem statement_cases {choice : Unit} {stmt : Stmt} {reply : Except ε (Reply stmt)}
    (performed : dialect.machine.exec choice session server (.statement stmt) =
      some (reply, after)) :
    (∃ error, reply = .error error ∧ after = server ∧
      (dialect.exec stmt (server.view dialect session)).1 = .error error) ∨
    ∃ value, reply = .ok value ∧
      (dialect.exec stmt (server.view dialect session)).1 = .ok value ∧
      server.Free session (dialect.locks stmt (server.view dialect session)) ∧
      after = server.join session stmt (dialect.locks stmt (server.view dialect session)) := by
  -- The machine answers an error as it is, and a value once the locks are free.
  unfold machine at performed
  dsimp only at performed
  split at performed
  next error failed =>
    cases performed
    exact Or.inl ⟨error, rfl, rfl, failed⟩
  next value answered =>
    split at performed
    next free =>
      cases performed
      exact Or.inr ⟨value, rfl, answered, free, rfl⟩
    next => cases performed

/-- A statement waits only for locks that others hold. -/
theorem statement_free {choice : Unit} {stmt : Stmt}
    (free : server.Free session (dialect.locks stmt (server.view dialect session))) :
    ∃ outcome, dialect.machine.exec choice session server (.statement stmt) = some outcome := by
  -- The only way to block is a lock of another session, and there is none.
  unfold machine
  dsimp only
  split
  · exact ⟨_, rfl⟩
  · exact ⟨_, if_pos free⟩

/-- A commit publishes the rows that its session sees. -/
theorem commit_eq {choice : Unit} {reply : Except ε (Sql.Reply Reply .commit)}
    (performed : dialect.machine.exec choice session server .commit = some (reply, after)) :
    reply = .ok () ∧ after = server.leave session (server.view dialect session) := by
  -- A commit takes no lock, so it is always performed.
  obtain ⟨rfl, rfl⟩ := Prod.mk.inj (Option.some.inj performed.symm)
  exact ⟨rfl, rfl⟩

/-- A rollback leaves the rows as they were. -/
theorem rollback_eq {choice : Unit} {reply : Except ε (Sql.Reply Reply .rollback)}
    (performed : dialect.machine.exec choice session server .rollback = some (reply, after)) :
    reply = .ok () ∧ after = server.leave session server.committed := by
  -- A rollback takes no lock, so it is always performed.
  obtain ⟨rfl, rfl⟩ := Prod.mk.inj (Option.some.inj performed.symm)
  exact ⟨rfl, rfl⟩

end Dialect

namespace Server

/-- The transaction of a session: its statements so far and the locks it holds. -/
structure Owns (server : Server ι Stmt δ Lock) (session : ι) (log : List Stmt)
    (locks : List Lock) : Prop where
  log : server.log session = log
  holder : ∀ lock, server.holder lock = some session ↔ lock ∈ locks

variable {log : List Stmt} {locks taken : List Lock} {stmt : Stmt}

omit [DecidableEq ι] [DecidableEq Lock] in
/-- Nobody owns anything on an idle server. -/
theorem owns_idle (committed : δ) (session : ι) :
    (idle committed : Server ι Stmt δ Lock).Owns session [] [] :=
  ⟨rfl, by simp [idle]⟩

omit [DecidableEq ι] [DecidableEq Lock] in
/-- Locks that nobody else holds are free. -/
theorem free_of_unheld
    (unheld : ∀ other, other ≠ session → ∀ lock ∈ taken, server.holder lock ≠ some other) :
    server.Free session taken := by
  -- A lock without a holder is free for anyone, and one of its own for the session.
  intro lock wanted
  cases held : server.holder lock with
  | none => exact Or.inl rfl
  | some owner =>
    by_cases mine : owner = session
    · exact Or.inr (congrArg some mine)
    · exact absurd held (unheld owner mine lock wanted)

namespace Owns

/-- A statement adds itself and its locks to its transaction. -/
theorem join (owns : server.Owns session log locks) (stmt : Stmt) (taken : List Lock) :
    (server.join session stmt taken).Owns session (log ++ [stmt]) (taken ++ locks) where
  log := by simp [Server.join, owns.log]
  holder lock := by
    by_cases new : lock ∈ taken <;> simp [Server.join, new, owns.holder]

omit [DecidableEq Lock] in
/-- The transaction that has ended owns nothing. -/
theorem leave (server : Server ι Stmt δ Lock) (session : ι) (committed : δ) :
    (server.leave session committed).Owns session [] [] where
  log := Function.update_self ..
  holder lock := by
    by_cases mine : server.holder lock = some session <;> simp [Server.leave, mine]

/-- A statement of another session takes nothing away. -/
theorem join_other (owns : server.Owns session log locks) (different : other ≠ session)
    (free : server.Free other taken) : (server.join other stmt taken).Owns session log locks where
  log := by simp [Server.join, Function.update_of_ne different.symm, owns.log]
  holder lock := by
    by_cases new : lock ∈ taken
    · -- The lock was free for the other session, so it is not one of ours.
      have theirs : server.holder lock ≠ some session := by
        rcases free lock new with unheld | held
        · simp [unheld]
        · simp [held, different]
      have missing : lock ∉ locks := fun mine => theirs ((owns.holder lock).mpr mine)
      simp [Server.join, new, different, missing]
    · simp [Server.join, new, owns.holder]

omit [DecidableEq Lock] in
/-- The end of another transaction takes nothing away. -/
theorem leave_other (owns : server.Owns session log locks) (different : other ≠ session)
    (committed : δ) : (server.leave other committed).Owns session log locks where
  log := by simp [Server.leave, Function.update_of_ne different.symm, owns.log]
  holder lock := by
    rw [← owns.holder lock]
    by_cases theirs : server.holder lock = some other
    · simp [Server.leave, theirs, different]
    · simp [Server.leave, theirs]

omit [DecidableEq ι] [DecidableEq Lock] in
/-- What a session sees of the committed rows. -/
theorem view (owns : server.Owns session log locks) :
    server.view dialect session = dialect.replay log server.committed := by
  -- The view of a session is its own log replayed on what is committed.
  rw [Server.view, owns.log]

end Owns

end Server

/-- A statement that succeeds on the rows its session sees joins the transaction. -/
theorem Server.Owns.answered {choice : Unit} {stmt : Stmt} {reply : Except ε (Reply stmt)}
    {log : List Stmt} {locks : List Lock} (owns : server.Owns session log locks)
    (performed : dialect.machine.exec choice session server (.statement stmt) =
      some (reply, after)) {value : Reply stmt}
    (answers : (dialect.exec stmt (dialect.replay log server.committed)).1 = .ok value) :
    reply = .ok value ∧ after.committed = server.committed ∧
      after.Owns session (log ++ [stmt])
        (dialect.locks stmt (dialect.replay log server.committed) ++ locks) := by
  -- What the session sees is its log on the committed rows, so the other case contradicts the
  -- answer.
  rcases Dialect.statement_cases performed with ⟨error, rfl, -, failed⟩ | ⟨same, rfl, answered, -, rfl⟩
  · rw [owns.view] at failed
    cases failed.symm.trans answers
  · rw [owns.view] at answered ⊢
    cases answered.symm.trans answers
    exact ⟨rfl, rfl, owns.join stmt _⟩

/-- A statement that fails on the rows its session sees changes nothing. -/
theorem Server.Owns.refused {choice : Unit} {stmt : Stmt} {reply : Except ε (Reply stmt)}
    {log : List Stmt} {locks : List Lock} (owns : server.Owns session log locks)
    (performed : dialect.machine.exec choice session server (.statement stmt) =
      some (reply, after)) {error : ε}
    (fails : (dialect.exec stmt (dialect.replay log server.committed)).1 = .error error) :
    reply = .error error ∧ after = server := by
  -- What the session sees is its log on the committed rows, so a value contradicts the failure.
  rcases Dialect.statement_cases performed with ⟨own, rfl, same, failed⟩ | ⟨_, -, answered, -, -⟩
  · rw [owns.view] at failed
    cases failed.symm.trans fails
    exact ⟨rfl, same⟩
  · rw [owns.view] at answered
    cases answered.symm.trans fails

/-- What another session does leaves a transaction alone. -/
theorem Dialect.owns_other {choice : Unit} {req : Sql Stmt} {reply : Except ε (Sql.Reply Reply req)}
    {log : List Stmt} {locks : List Lock} (owns : server.Owns session log locks)
    (different : other ≠ session)
    (performed : dialect.machine.exec choice other server req = some (reply, after)) :
    after.Owns session log locks := by
  -- A statement takes only locks that are free, and an end releases only those of its own session.
  cases req with
  | statement stmt =>
    rcases Dialect.statement_cases performed with ⟨_, -, rfl, -⟩ | ⟨_, -, -, free, rfl⟩
    · exact owns
    · exact owns.join_other different free
  | commit =>
    obtain ⟨-, rfl⟩ := Dialect.commit_eq performed
    exact owns.leave_other different _
  | rollback =>
    obtain ⟨-, rfl⟩ := Dialect.rollback_eq performed
    exact owns.leave_other different _

/-- The rules of a role for the statements inside a transaction. -/
def Role.inside {ν : Type} (role : Role ε (Sql Stmt) (Sql.Reply Reply) ν) : Role ε Stmt Reply ν where
  permits note stmt := role.permits note (.statement stmt)
  moves note stmt reply later := role.moves note (.statement stmt) reply later

/-- How a transaction ends after its body. -/
def Role.closes {ν α : Type} (role : Role ε (Sql Stmt) (Sql.Reply Reply) ν)
    (post : Except ε α → ν → Prop) : Except ε α → ν → Prop
  | .ok value, note => role.permits note .commit ∧ ∀ reply later, role.moves note .commit reply later →
    match reply with
    | .ok _ => post (.ok value) later
    | .error error => post (.error error) later
  | .error error, note => role.permits note .rollback ∧
    ∀ reply later, role.moves note .rollback reply later → post (.error error) later

omit [DecidableEq ι] [DecidableEq Lock] in
/-- A transaction plays the role that its body and its end play. -/
theorem Plays.transaction {ν α : Type} {role : Role ε (Sql Stmt) (Sql.Reply Reply) ν}
    {post : Except ε α → ν → Prop} {body : Prog ε Stmt Reply α} {note : ν}
    (plays : Plays role.inside (role.closes post) body note) :
    Plays role post (Foundation.transaction body) note := by
  -- By induction on the body, whose value is followed by a commit and whose error by a rollback.
  induction body generalizing note with
  | done value =>
    refine ⟨plays.1, fun reply later moved => ?_⟩
    have reached := plays.2 reply later moved
    cases reply <;> exact reached
  | raise error => exact plays
  | request stmt next ih =>
    exact ⟨plays.1, fun reply later moved => ih reply (plays.2 reply later moved)⟩

end

end Foundation
