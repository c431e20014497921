import Cislunar.Foundation.Runs
import Cislunar.Foundation.Triple

/-!
Pre- and postconditions for programs that run alone.

A program that follows a protocol among others follows it alone too, so what was proved of it for
every interleaving can be used about its lone runs.
-/

namespace Foundation

section
variable {ε Req : Type} {Reply : Req → Type} {σ α β : Type}
variable (step : (req : Req) → σ → Except ε (Reply req) → σ → Prop)

/-- From every state with the precondition, a lone run of a program ends with the postcondition. -/
def Solo (pre : σ → Prop) (program : Prog ε Req Reply α) (post : Except ε α → σ → Prop) : Prop :=
  ∀ before outcome after, pre before → Runs step program before outcome after → post outcome after

variable {step} {pre : σ → Prop}

/-- A run of a sequence whose first part only returns passes through a value of it. -/
theorem Runs.of_bind_ok {first : Prog ε Req Reply α} {next : α → Prog ε Req Reply β}
    {middle : α → σ → Prop} {before after : σ} {outcome : Except ε β}
    (returns : ∀ reply state, Runs step first before reply state →
      ∃ value, reply = .ok value ∧ middle value state)
    (run : Runs step (first >>= next) before outcome after) :
    ∃ value state, Runs step first before (.ok value) state ∧ middle value state ∧
      Runs step (next value) state outcome after := by
  rcases run.of_bind with ⟨error, -, part⟩ | ⟨value, state, part, rest⟩
  · -- The first part does not raise, so the sequence cannot stop there.
    obtain ⟨value, answered, -⟩ := returns _ after part
    cases answered
  · obtain ⟨answer, answered, reached⟩ := returns _ state part
    cases answered
    exact ⟨value, state, part, reached, rest⟩

namespace Solo

/-- A returned value needs nothing but its postcondition. -/
theorem done {value : α} {post : Except ε α → σ → Prop}
    (reached : ∀ state, pre state → post (.ok value) state) : Solo step pre (.done value) post := by
  -- A finished program takes no step.
  intro before outcome after held run
  cases run
  exact reached before held

/-- A raised error needs nothing but its postcondition. -/
theorem raise {error : ε} {post : Except ε α → σ → Prop}
    (reached : ∀ state, pre state → post (.error error) state) :
    Solo step pre (.raise error) post := by
  -- A program that has raised takes no step.
  intro before outcome after held run
  cases run
  exact reached before held

/-- A request ends as one of its steps does. -/
theorem call {req : Req} {post : Except ε (Reply req) → σ → Prop}
    (each : ∀ before reply after, pre before → step req before reply after → post reply after) :
    Solo step pre (Prog.call req) post :=
  fun before outcome after held run => each before outcome after held run.of_call

/-- A sequence meets in the middle, where its first part has to return. -/
theorem bind {program : Prog ε Req Reply α} {next : α → Prog ε Req Reply β}
    {middle : α → σ → Prop} {post : Except ε β → σ → Prop}
    (first : Solo step pre program fun outcome state =>
      ∃ value, outcome = .ok value ∧ middle value state)
    (second : ∀ value, Solo step (middle value) (next value) post) :
    Solo step pre (program >>= next) post := by
  -- The run of a sequence is one of its first part, which returns, and then one of the second.
  intro before outcome after held run
  obtain ⟨value, between, -, reached, rest⟩ :=
    run.of_bind_ok fun reply state => first before reply state held
  exact second value between outcome after reached rest

/-- A handler takes over where its body raises. -/
theorem tryCatch {program : Prog ε Req Reply α} {handler : ε → Prog ε Req Reply α}
    {middle : ε → σ → Prop} {post : Except ε α → σ → Prop}
    (body : Solo step pre program fun outcome state =>
      (∀ value, outcome = .ok value → post (.ok value) state) ∧
        ∀ error, outcome = .error error → middle error state)
    (second : ∀ error, Solo step (middle error) (handler error) post) :
    Solo step pre (program.tryCatch handler) post := by
  -- The handler starts in the state in which the body has raised.
  intro before outcome after held run
  rcases run.of_tryCatch with ⟨value, rfl, part⟩ | ⟨error, between, part, rest⟩
  · exact (body before _ after held part).1 value rfl
  · exact second error between outcome after ((body before _ between held part).2 error rfl) rest

/-- A handler that is never needed can be left out. -/
theorem unhandled {program : Prog ε Req Reply α} (handler : ε → Prog ε Req Reply α)
    {middle : α → σ → Prop}
    (body : Solo step pre program fun outcome state =>
      ∃ value, outcome = .ok value ∧ middle value state) :
    Solo step pre (program.tryCatch handler) fun outcome state =>
      ∃ value, outcome = .ok value ∧ middle value state := by
  -- The body returns, so the handler does not run.
  intro before outcome after held run
  rcases run.of_tryCatch with ⟨value, rfl, part⟩ | ⟨error, between, part, -⟩
  · exact body before _ after held part
  · obtain ⟨value, answered, -⟩ := body before _ between held part
    cases answered

/-- A stronger precondition and a weaker postcondition ask less. -/
theorem weaken {stronger : σ → Prop} {program : Prog ε Req Reply α}
    {post weaker : Except ε α → σ → Prop} (solo : Solo step pre program post)
    (before : ∀ state, stronger state → pre state)
    (after : ∀ outcome state, post outcome state → weaker outcome state) :
    Solo step stronger program weaker := by
  intro first outcome last held run
  exact after outcome last (solo first outcome last (before first held) run)

end Solo

end

section
variable {ι ε Req : Type} {Reply : Req → Type} {σ α : Type}
variable {protocol : Protocol ι ε Req Reply σ} {machine : Machine ι ε Req Reply σ} {thread : ι}
variable {step : (req : Req) → σ → Except ε (Reply req) → σ → Prop}

/-- A program that follows a protocol among others follows it alone. -/
theorem Safe.alone {program : Prog ε Req Reply α} {post : Except ε α → σ → Prop} {before after : σ}
    {outcome : Except ε α}
    (each : ∀ req before reply after, protocol.invariant before → step req before reply after →
      ∃ later choice, protocol.rely thread before later ∧ protocol.invariant later ∧
        machine.exec choice thread later req = some (reply, after))
    (safe : Safe protocol machine thread post program before) (valid : protocol.invariant before)
    (run : Runs step program before outcome after) :
    protocol.invariant after ∧ post outcome after := by
  -- Each step of the run is a move of the surroundings and then a step of the machine.
  induction run with
  | done value state => exact ⟨valid, safe⟩
  | raise error state => exact ⟨valid, safe⟩
  | @request req next before middle after reply outcome performed rest ih =>
    obtain ⟨later, choice, moved, still, executed⟩ := each req before reply middle valid performed
    obtain ⟨invariant, -, -, continues⟩ := safe later moved still choice reply middle executed
    exact ih continues invariant

end

end Foundation
