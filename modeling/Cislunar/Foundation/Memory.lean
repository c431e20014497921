import Cislunar.Foundation.Transaction

/-!
Transactions of a session that remembers what it has loaded.

Statements consult and change a memory beside the database; a rollback expires the memory. As long
as the memory agrees with the database, the session does what one without a memory does.
-/

namespace Foundation

open Prog

section
variable {ε Stmt : Type} {Reply : Stmt → Type} {α δ μ : Type}
variable (exec : (stmt : Stmt) → μ × δ → Except ε (Reply stmt) × μ × δ) (expired : μ)

/-- One session alone with a memory beside the committed state and the working copy. -/
def rememberingExec : (req : Sql Stmt) → μ × δ × δ → Except ε (Sql.Reply Reply req) × μ × δ × δ
  | .statement stmt, (memory, committed, working) =>
    ((exec stmt (memory, working)).1, (exec stmt (memory, working)).2.1, committed,
      (exec stmt (memory, working)).2.2)
  | .commit, (memory, _, working) => (.ok (), memory, working, working)
  | .rollback, (_, committed, _) => (.ok (), expired, committed, committed)

/-- Run a program of transactions from a memory with nothing else happening. -/
def remembering (program : Prog ε (Sql Stmt) (Sql.Reply Reply) α) (memory : μ) (state : δ) :
    Except ε α × δ :=
  ((program.runAlone (rememberingExec exec expired) (memory, state, state)).1,
    (program.runAlone (rememberingExec exec expired) (memory, state, state)).2.2.1)

/-- The effect of a body as a whole: an error leaves the database as it was. -/
def atomicallyFrom (body : Prog ε Stmt Reply α) (memory : μ) (state : δ) : Except ε α × δ :=
  match body.runAlone exec (memory, state) with
  | (.ok value, _, next) => (.ok value, next)
  | (.error error, _) => (.error error, state)

/-- An attempt that raised has changed nothing. -/
theorem atomicallyFrom_error {body : Prog ε Stmt Reply α} {memory : μ} {state next : δ} {error : ε}
    (raised : atomicallyFrom exec body memory state = (.error error, next)) : next = state := by
  -- A body that raised has its changes thrown away; one that returned is no error.
  rw [atomicallyFrom] at raised
  rcases ran : body.runAlone exec (memory, state) with ⟨_ | _, _, _⟩
  · rw [ran] at raised
    exact (congrArg Prod.snd raised).symm
  · rw [ran] at raised
    cases raised

/-- A program that only raises changes nothing. -/
@[simp] theorem remembering_raise (error : ε) (memory : μ) (state : δ) :
    remembering exec expired (.raise error : Prog ε (Sql Stmt) (Sql.Reply Reply) α) memory state =
      (.error error, state) := rfl

/-- A transaction alone publishes its working copy on return and drops it on an error. -/
theorem runAlone_transaction_remembering (body : Prog ε Stmt Reply α) (memory : μ)
    (committed working : δ) :
    (transaction body).runAlone (rememberingExec exec expired) (memory, committed, working) =
      match body.runAlone exec (memory, working) with
      | (.ok value, later, next) => (.ok value, later, next, next)
      | (.error error, _) => (.error error, expired, committed, committed) := by
  -- By induction on the body, from any memory and any working copy.
  induction body generalizing memory working with
  | done value => rfl
  | raise error => rfl
  | request stmt next ih => exact ih _ _ _

/-- A transaction alone has the effect of its body as a whole. -/
theorem remembering_transaction (body : Prog ε Stmt Reply α) (memory : μ) (state : δ) :
    remembering exec expired (transaction body) memory state = atomicallyFrom exec body memory state := by
  -- The body runs alone, and its outcome decides between commit and rollback.
  rw [remembering, runAlone_transaction_remembering, atomicallyFrom]
  rcases body.runAlone exec (memory, state) with ⟨_ | _, _, _⟩ <;> rfl

/-- Two attempts alone: the second starts from an expired memory and the same database. -/
theorem remembering_retryOnce (retries : ε → Bool) (attempt : Nat → Prog ε Stmt Reply α) (memory : μ)
    (state : δ) :
    remembering exec expired (retryOnce retries fun index => transaction (attempt index)) memory
        state =
      match atomicallyFrom exec (attempt 0) memory state with
      | (.ok value, next) => (.ok value, next)
      | (.error error, _) =>
        if retries error then atomicallyFrom exec (attempt 1) expired state
        else (.error error, state) := by
  rw [remembering, retryOnce, runAlone_tryCatch, runAlone_transaction_remembering, atomicallyFrom]
  rcases (attempt 0).runAlone exec (memory, state) with ⟨error | value, later, next⟩
  · by_cases again : retries error = true
    -- The first attempt was rolled back.
    · simp only [again, if_true]
      rw [← remembering_transaction exec expired, remembering]
    · simp only [again, if_false, Bool.false_eq_true]
      rfl
  · rfl

variable {exec expired}

/--
A session whose memory agrees with the database does what a session without a memory does.

The relation says what agreement is: an expired memory agrees with every database, and a statement
answers alike and keeps the agreement.
-/
theorem remembering_eq_serially {plain : (stmt : Stmt) → δ → Except ε (Reply stmt) × δ}
    (Agrees : μ → δ → Prop) (fresh : ∀ state, Agrees expired state)
    (each : ∀ stmt memory state, Agrees memory state →
      ∃ later, exec stmt (memory, state) = ((plain stmt state).1, later, (plain stmt state).2) ∧
        Agrees later (plain stmt state).2)
    (program : Prog ε (Sql Stmt) (Sql.Reply Reply) α) {memory : μ} {state : δ}
    (agrees : Agrees memory state) :
    remembering exec expired program memory state = serially plain program state := by
  -- Both sessions keep the same committed state and the same working copy.
  have alike : ∀ (rest : Prog ε (Sql Stmt) (Sql.Reply Reply) α) (memory : μ)
      (committed working : δ), Agrees memory working →
      ∃ later, rest.runAlone (rememberingExec exec expired) (memory, committed, working) =
        ((rest.runAlone (serialExec plain) (committed, working)).1, later,
          (rest.runAlone (serialExec plain) (committed, working)).2) := by
    intro rest
    induction rest with
    | done value => exact fun memory _ _ _ => ⟨memory, rfl⟩
    | raise error => exact fun memory _ _ _ => ⟨memory, rfl⟩
    | request req next ih =>
      intro memory committed working agrees
      cases req with
      | statement stmt =>
        obtain ⟨later, same, kept⟩ := each stmt memory working agrees
        rw [runAlone, runAlone, rememberingExec, serialExec, same]
        exact ih _ later committed _ kept
      | commit => exact ih _ memory working working agrees
      | rollback => exact ih _ expired committed committed (fresh committed)
  obtain ⟨later, same⟩ := alike program memory state state agrees
  rw [remembering, serially, same]

end

end Foundation
