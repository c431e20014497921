import Cislunar.Foundation.Role
import Cislunar.Foundation.Transaction

/-!
Servers that refuse some statements.

A transaction that passes errors on ends with the refusal and changes nothing, or no statement of it
was refused.
-/

namespace Foundation

section
variable {ε Req : Type} {Reply : Req → Type} {σ α β : Type}

/-- An execution that refuses the requests it does not accept. -/
def refusing (accepts : Req → Bool) (refusal : ε)
    (exec : (req : Req) → σ → Except ε (Reply req) × σ) (req : Req) (state : σ) :
    Except ε (Reply req) × σ :=
  if accepts req then exec req state else (.error refusal, state)

/-- A program that raises every error it gets as a reply. -/
def Prog.Forwards : Prog ε Req Reply α → Prop
  | .done _ => True
  | .raise _ => True
  | .request _ next => (∀ error, next (.error error) = .raise error) ∧ ∀ reply, Forwards (next reply)

namespace Prog.Forwards

/-- A single request raises its error. -/
theorem call (req : Req) : (Prog.call req : Prog ε Req Reply _).Forwards := by
  -- The error of the request is handed on, and there is nothing else to forward.
  refine ⟨fun error => rfl, fun reply => ?_⟩
  cases reply <;> trivial

/-- A sequence raises what its parts raise. -/
theorem bind {program : Prog ε Req Reply α} {after : α → Prog ε Req Reply β}
    (first : program.Forwards) (second : ∀ value, (after value).Forwards) :
    (program >>= after).Forwards := by
  -- By induction on the first program: an error that it forwards skips the second.
  induction program with
  | done value => exact second value
  | raise error => trivial
  | request req next ih =>
    refine ⟨fun error => ?_, fun reply => ih reply (first.2 reply)⟩
    show next (.error error) >>= after = .raise error
    rw [first.1 error]
    rfl

end Prog.Forwards

variable {accepts : Req → Bool} {refusal : ε} {exec : (req : Req) → σ → Except ε (Reply req) × σ}

variable (accepts refusal exec) in
/-- A refused request ends a program that forwards its errors. -/
theorem runAlone_refusing {program : Prog ε Req Reply α} (forwards : program.Forwards) (state : σ) :
    program.runAlone (refusing accepts refusal exec) state = program.runAlone exec state ∨
      (program.runAlone (refusing accepts refusal exec) state).1 = .error refusal := by
  -- By induction on the program: it is the same up to a refused request, where it ends.
  induction program generalizing state with
  | done value => exact Or.inl rfl
  | raise error => exact Or.inl rfl
  | request req next ih =>
    cases accepted : accepts req with
    | true =>
      have served : refusing accepts refusal exec req state = exec req state := if_pos accepted
      rw [Prog.runAlone, Prog.runAlone, served]
      exact ih _ (forwards.2 _) _
    | false =>
      have refused : refusing accepts refusal exec req state = (.error refusal, state) :=
        if_neg (by simp [accepted])
      rw [Prog.runAlone, refused]
      dsimp only
      rw [forwards.1]
      exact Or.inr rfl

/-- Executions that agree on what a role permits run its programs alike. -/
theorem runAlone_congr_of_plays {ν : Type} {role : Role ε Req Reply ν}
    {strict : (req : Req) → σ → Except ε (Reply req) × σ} {invariant : σ → Prop}
    (each : ∀ note req state, invariant state → role.permits note req →
      strict req state = exec req state ∧ invariant (exec req state).2 ∧
        ∃ later, role.moves note req (exec req state).1 later)
    {post : Except ε α → ν → Prop} {program : Prog ε Req Reply α} {note : ν} {state : σ}
    (plays : Plays role post program note) (held : invariant state) :
    program.runAlone strict state = program.runAlone exec state := by
  -- By induction on the program: both executions answer a permitted request alike.
  induction program generalizing note state with
  | done value => rfl
  | raise error => rfl
  | request req next ih =>
    obtain ⟨same, kept, later, moved⟩ := each note req state held plays.1
    rw [Prog.runAlone, Prog.runAlone, same]
    exact ih _ (plays.2 _ later moved) kept

end

section
variable {ε Stmt : Type} {Reply : Stmt → Type} {α δ : Type} {accepts : Stmt → Bool} {refusal : ε}
variable {exec strict : (stmt : Stmt) → δ → Except ε (Reply stmt) × δ}

variable (accepts refusal exec) in
/-- A transaction with a refused statement has no effect. -/
theorem atomically_refusing {body : Prog ε Stmt Reply α} (forwards : body.Forwards) (state : δ) :
    atomically (refusing accepts refusal exec) body state = atomically exec body state ∨
      atomically (refusing accepts refusal exec) body state = (.error refusal, state) := by
  -- A refusal is an error of the body, and the transaction rolls back.
  rcases runAlone_refusing accepts refusal exec forwards state with same | refused
  · rw [atomically, atomically, same]
    exact Or.inl rfl
  · exact Or.inr ((atomically_eq_error _).mpr ⟨refused, rfl⟩)

/-- Two attempts of a transaction with a refused statement have no effect. -/
theorem serially_refusing_retryOnce {retries : ε → Bool} (fatal : retries refusal = false)
    {attempt : Nat → Prog ε Stmt Reply α} (forwards : ∀ index, (attempt index).Forwards)
    (state : δ) :
    serially (refusing accepts refusal exec) (retryOnce retries fun index =>
        transaction (attempt index)) state =
      serially exec (retryOnce retries fun index => transaction (attempt index)) state ∨
    serially (refusing accepts refusal exec) (retryOnce retries fun index =>
        transaction (attempt index)) state = (.error refusal, state) := by
  -- A refusal of the first attempt is fatal, and one of the second leaves the state alone.
  rw [serially_retryOnce, serially_retryOnce]
  rcases atomically_refusing accepts refusal exec (forwards 0) state with same | refused
  · rw [same]
    cases atomically exec (attempt 0) state with
    | mk outcome next =>
      cases outcome with
      | ok value => exact Or.inl rfl
      | error error =>
        dsimp only
        split
        · exact atomically_refusing accepts refusal exec (forwards 1) state
        · exact Or.inl rfl
  · rw [refused]
    exact Or.inr (if_neg (by simp [fatal]))

/-- Executions that agree on the body of a transaction agree on the transaction. -/
theorem atomically_congr {body : Prog ε Stmt Reply α} {state : δ}
    (same : body.runAlone strict state = body.runAlone exec state) :
    atomically strict body state = atomically exec body state := by
  rw [atomically, atomically, same]

/-- Executions that agree on each attempt agree on two attempts. -/
theorem serially_retryOnce_congr {retries : ε → Bool} {attempt : Nat → Prog ε Stmt Reply α}
    {state : δ} (same : ∀ index, (attempt index).runAlone strict state =
      (attempt index).runAlone exec state) :
    serially strict (retryOnce retries fun index => transaction (attempt index)) state =
      serially exec (retryOnce retries fun index => transaction (attempt index)) state := by
  -- At most the first two attempts are made.
  rw [serially_retryOnce, serially_retryOnce, atomically_congr (same 0), atomically_congr (same 1)]

end

end Foundation
