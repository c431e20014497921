import Cislunar.Foundation.Role

/-!
Complete runs of a program alone, where every request has one of several effects.

A run of a composed program splits where its parts meet.
-/

namespace Foundation

section
variable {ε Req : Type} {Reply : Req → Type} {σ α β : Type}
variable (step : (req : Req) → σ → Except ε (Reply req) → σ → Prop)

/-- A program runs from a state to an outcome and a last state. -/
inductive Runs : Prog ε Req Reply α → σ → Except ε α → σ → Prop where
  | done (value : α) (state : σ) : Runs (.done value) state (.ok value) state
  | raise (error : ε) (state : σ) : Runs (.raise error) state (.error error) state
  | request {req : Req} {next : Except ε (Reply req) → Prog ε Req Reply α} {before middle after : σ}
      {reply : Except ε (Reply req)} {outcome : Except ε α}
      (performed : step req before reply middle) (rest : Runs (next reply) middle outcome after) :
      Runs (.request req next) before outcome after

variable {step}

namespace Runs

/-- One step runs a single request. -/
theorem call {req : Req} {before after : σ} {outcome : Except ε (Reply req)}
    (performed : step req before outcome after) : Runs step (Prog.call req) before outcome after := by
  refine .request performed ?_
  -- Whichever way the request ends, the program ends with it.
  cases outcome with
  | ok value => exact .done value after
  | error error => exact .raise error after

/-- A sequence goes on with the value of its first part. -/
theorem bind {first : Prog ε Req Reply α} {next : α → Prog ε Req Reply β} {before middle after : σ}
    {value : α} {outcome : Except ε β} (run : Runs step first before (.ok value) middle)
    (rest : Runs step (next value) middle outcome after) :
    Runs step (first >>= next) before outcome after := by
  -- By induction on the first part: its run is extended by that of the second.
  induction first generalizing before with
  | done answer =>
    cases run
    exact rest
  | raise error => cases run
  | request req later ih =>
    cases run with
    | request performed run => exact .request performed (ih _ run)

/-- A sequence stops with the error of its first part. -/
theorem bind_error {first : Prog ε Req Reply α} (next : α → Prog ε Req Reply β) {before after : σ}
    {error : ε} (run : Runs step first before (.error error) after) :
    Runs step (first >>= next) before (.error error) after := by
  -- By induction on the first part: its run is already that of the whole.
  induction first generalizing before with
  | done answer => cases run
  | raise failure =>
    cases run
    exact .raise _ _
  | request req later ih =>
    cases run with
    | request performed run => exact .request performed (ih _ run)

/-- A guarded program goes on with its handler where its body raises. -/
theorem tryCatch_error {body : Prog ε Req Reply α} {handler : ε → Prog ε Req Reply α}
    {before middle after : σ} {error : ε} {outcome : Except ε α}
    (run : Runs step body before (.error error) middle)
    (rest : Runs step (handler error) middle outcome after) :
    Runs step (body.tryCatch handler) before outcome after := by
  -- By induction on the body: its run is extended by that of the handler.
  induction body generalizing before with
  | done answer => cases run
  | raise failure =>
    cases run
    exact rest
  | request req later ih =>
    cases run with
    | request performed run => exact .request performed (ih _ run)

/-- A single request runs as one step. -/
theorem of_call {req : Req} {before after : σ} {outcome : Except ε (Reply req)}
    (run : Runs step (Prog.call req) before outcome after) : step req before outcome after := by
  -- After the reply there is nothing left to do.
  cases run with
  | @request _ _ _ _ _ reply _ performed rest =>
    cases reply with
    | ok value =>
      cases rest
      exact performed
    | error error =>
      cases rest
      exact performed

/-- A sequence stops with the error of its first part, or goes on with its value. -/
theorem of_bind {first : Prog ε Req Reply α} {next : α → Prog ε Req Reply β} {before after : σ}
    {outcome : Except ε β} (run : Runs step (first >>= next) before outcome after) :
    (∃ error, outcome = .error error ∧ Runs step first before (.error error) after) ∨
      ∃ value middle, Runs step first before (.ok value) middle ∧
        Runs step (next value) middle outcome after := by
  -- By induction on the first part, which ends somewhere in the run.
  induction first generalizing before with
  | done value => exact .inr ⟨value, before, .done value before, run⟩
  | raise error =>
    cases run
    exact .inl ⟨error, rfl, .raise error _⟩
  | request req later ih =>
    cases run with
    | request performed rest =>
      rcases ih _ rest with ⟨error, failed, part⟩ | ⟨value, middle, part, rest⟩
      · exact .inl ⟨error, failed, .request performed part⟩
      · exact .inr ⟨value, middle, .request performed part, rest⟩

/-- A guarded program ends as its body, or its handler ends it. -/
theorem of_tryCatch {body : Prog ε Req Reply α} {handler : ε → Prog ε Req Reply α}
    {before after : σ} {outcome : Except ε α}
    (run : Runs step (body.tryCatch handler) before outcome after) :
    (∃ value, outcome = .ok value ∧ Runs step body before (.ok value) after) ∨
      ∃ error middle, Runs step body before (.error error) middle ∧
        Runs step (handler error) middle outcome after := by
  -- By induction on the body, which ends somewhere in the run.
  induction body generalizing before with
  | done value =>
    cases run
    exact .inl ⟨value, rfl, .done value _⟩
  | raise error => exact .inr ⟨error, before, .raise error before, run⟩
  | request req later ih =>
    cases run with
    | request performed rest =>
      rcases ih _ rest with ⟨value, returned, part⟩ | ⟨error, middle, part, rest⟩
      · exact .inl ⟨value, returned, .request performed part⟩
      · exact .inr ⟨error, middle, .request performed part, rest⟩

/-- A run of a program that plays a role ends as the role demands and keeps what each step keeps. -/
theorem of_plays {ν : Type} {role : Role ε Req Reply ν} {invariant : σ → Prop}
    (each : ∀ note req before reply after, invariant before → role.permits note req →
      step req before reply after → invariant after ∧ ∃ later, role.moves note req reply later)
    {post : Except ε α → ν → Prop} {program : Prog ε Req Reply α} {note : ν} {before after : σ}
    {outcome : Except ε α} (plays : Plays role post program note) (held : invariant before)
    (run : Runs step program before outcome after) :
    invariant after ∧ ∃ last, post outcome last := by
  -- By induction on the program: each step keeps the invariant and moves the note on.
  induction program generalizing note before with
  | done value =>
    cases run
    exact ⟨held, note, plays⟩
  | raise error =>
    cases run
    exact ⟨held, note, plays⟩
  | request req next ih =>
    cases run with
    | request performed rest =>
      obtain ⟨kept, later, moved⟩ := each note req _ _ _ held plays.1 performed
      exact ih _ (plays.2 _ later moved) kept rest

/-- Executions that a step permits make a run, so every program has one. -/
theorem of_runAlone {exec : (req : Req) → σ → Except ε (Reply req) × σ}
    (permitted : ∀ req state, step req state (exec req state).1 (exec req state).2)
    (program : Prog ε Req Reply α) (state : σ) :
    Runs step program state (program.runAlone exec state).1 (program.runAlone exec state).2 := by
  -- On the program, from any state: each request is answered by the function.
  induction program generalizing state with
  | done value => exact .done value state
  | raise error => exact .raise error state
  | request req next ih => exact .request (permitted req state) (ih _ _)

end Runs

end

end Foundation
