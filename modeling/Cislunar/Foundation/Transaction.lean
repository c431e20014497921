import Cislunar.Foundation.Program

/-!
Transactions as programs of statements between a begin and a commit or a rollback.

A transaction that nothing interrupts is atomic: its statements take effect together, or not at all.
-/

namespace Foundation

open Prog

/-- What a session sends to a database server. -/
inductive Sql (Stmt : Type) where
  | statement (stmt : Stmt)
  | commit
  | rollback

/-- What the server answers. -/
def Sql.Reply {Stmt : Type} (Reply : Stmt → Type) : Sql Stmt → Type
  | statement stmt => Reply stmt
  | commit => Unit
  | rollback => Unit

section
variable {ε Stmt : Type} {Reply : Stmt → Type} {α δ : Type}

/-- Run a body as one transaction: commit where it returns and roll back where it raises. -/
def transaction : Prog ε Stmt Reply α → Prog ε (Sql Stmt) (Sql.Reply Reply) α
  | .done value => .request .commit fun
    | .ok _ => .done value
    | .error error => .raise error
  | .raise error => .request .rollback fun _ => .raise error
  | .request stmt next => .request (.statement stmt) fun reply => transaction (next reply)

/-- `for attempt in range(2)` around a body whose errors of one kind are forgiven once. -/
def retryOnce {Req : Type} {Answer : Req → Type} (retries : ε → Bool)
    (attempt : Nat → Prog ε Req Answer α) : Prog ε Req Answer α :=
  (attempt 0).tryCatch fun error => if retries error then attempt 1 else .raise error

variable (exec : (stmt : Stmt) → δ → Except ε (Reply stmt) × δ)

/-- One session alone: statements change a working copy beside the committed state. -/
def serialExec : (req : Sql Stmt) → δ × δ → Except ε (Sql.Reply Reply req) × (δ × δ)
  | .statement stmt, (committed, working) =>
    ((exec stmt working).1, (committed, (exec stmt working).2))
  | .commit, (_, working) => (.ok (), (working, working))
  | .rollback, (committed, _) => (.ok (), (committed, committed))

/-- Run a program of transactions with nothing else happening. -/
def serially (program : Prog ε (Sql Stmt) (Sql.Reply Reply) α) (state : δ) : Except ε α × δ :=
  ((program.runAlone (serialExec exec) (state, state)).1,
    (program.runAlone (serialExec exec) (state, state)).2.1)

/-- The effect of a body as a whole: an error leaves the state as it was. -/
def atomically (body : Prog ε Stmt Reply α) (state : δ) : Except ε α × δ :=
  match body.runAlone exec state with
  | (.ok value, next) => (.ok value, next)
  | (.error error, _) => (.error error, state)

/-- An attempt that returned has run its body to the end. -/
theorem atomically_eq_ok {body : Prog ε Stmt Reply α} {state next : δ} {value : α} :
    atomically exec body state = (.ok value, next) ↔
      body.runAlone exec state = (.ok value, next) := by
  -- A value is committed, and an error is not a value.
  rw [atomically]
  rcases body.runAlone exec state with ⟨_ | _, _⟩ <;> simp

/-- An attempt that raised has changed nothing. -/
theorem atomically_eq_error {body : Prog ε Stmt Reply α} {state next : δ} {error : ε} :
    atomically exec body state = (.error error, next) ↔
      (body.runAlone exec state).1 = .error error ∧ next = state := by
  -- An error rolls back to the state before.
  rw [atomically]
  rcases body.runAlone exec state with ⟨_ | _, _⟩ <;> simp [eq_comm]

/-- A transaction alone publishes its working copy on return and drops it on an error. -/
theorem runAlone_transaction (body : Prog ε Stmt Reply α) (committed working : δ) :
    (transaction body).runAlone (serialExec exec) (committed, working) =
      match body.runAlone exec working with
      | (.ok value, next) => (.ok value, (next, next))
      | (.error error, _) => (.error error, (committed, committed)) := by
  -- By induction on the body, whose statements all work on the working copy.
  induction body generalizing working with
  | done value => rfl
  | raise error => rfl
  | request stmt next ih => exact ih _ _

/-- A transaction alone ends outside a transaction, with the effect of its body as a whole. -/
theorem runAlone_transaction_atomically (body : Prog ε Stmt Reply α) (state : δ) :
    (transaction body).runAlone (serialExec exec) (state, state) =
      ((atomically exec body state).1,
        ((atomically exec body state).2, (atomically exec body state).2)) := by
  -- The view and the committed state agree before, and again after the last statement.
  rw [runAlone_transaction, atomically]
  rcases body.runAlone exec state with ⟨_ | _, _⟩ <;> rfl

/-- A transaction alone has the effect of its body as a whole. -/
@[simp] theorem serially_transaction (body : Prog ε Stmt Reply α) (state : δ) :
    serially exec (transaction body) state = atomically exec body state := by
  -- Serial runs read off the committed state.
  rw [serially, runAlone_transaction_atomically]

/-- A program that only raises changes nothing. -/
@[simp] theorem serially_raise (error : ε) (state : δ) :
    serially exec (.raise error : Prog ε (Sql Stmt) (Sql.Reply Reply) α) state =
      (.error error, state) := rfl

/-- Two attempts alone: the second starts from the state the first one left unchanged. -/
theorem serially_retryOnce (retries : ε → Bool) (attempt : Nat → Prog ε Stmt Reply α) (state : δ) :
    serially exec (retryOnce retries fun index => transaction (attempt index)) state =
      match atomically exec (attempt 0) state with
      | (.ok value, next) => (.ok value, next)
      | (.error error, _) =>
        if retries error then atomically exec (attempt 1) state else (.error error, state) := by
  -- A failed first attempt has left the state as it was, which is where the second one starts.
  rw [serially, retryOnce, runAlone_tryCatch, runAlone_transaction_atomically]
  cases first : atomically exec (attempt 0) state with
  | mk outcome next =>
    cases outcome with
    | ok value => rfl
    | error error =>
      obtain ⟨_, rfl⟩ := (atomically_eq_error exec).mp first
      by_cases again : retries error = true
      · simp only [again, if_true]
        rw [runAlone_transaction_atomically]
      · simp only [again, if_false, Bool.false_eq_true]
        rfl

/-- Two attempts alone end as one of them does from the same state. -/
theorem serially_retryOnce_cases (retries : ε → Bool) (attempt : Nat → Prog ε Stmt Reply α)
    (state : δ) : ∃ index, serially exec (retryOnce retries fun index => transaction (attempt index))
      state = atomically exec (attempt index) state := by
  -- The second attempt counts if it is made, and the first one otherwise.
  rw [serially_retryOnce]
  cases first : atomically exec (attempt 0) state with
  | mk outcome next =>
    cases outcome with
    | ok value => exact ⟨0, first.symm⟩
    | error error =>
      obtain ⟨_, rfl⟩ := (atomically_eq_error exec).mp first
      by_cases again : retries error = true
      · exact ⟨1, if_pos again⟩
      · exact ⟨0, (if_neg again).trans first.symm⟩

end

end Foundation
