import Mathlib.Logic.Relation
import Mathlib.Logic.Function.Basic

/-!
Programs over atomic requests, run alone or interleaved with others.

A program is data: it returns, raises, or waits for the reply to one request.
The same program can therefore be run to completion or be stepped among other threads.
-/

namespace Foundation

/-- What stands in one of some places after a change: what was put there, or what stood elsewhere. -/
theorem update_eq_some {ι α : Type} [DecidableEq ι] {places : ι → Option α} {changed place : ι}
    {content : Option α} {value : α} :
    Function.update places changed content place = some value ↔
      (place = changed ∧ content = some value) ∨ (place ≠ changed ∧ places place = some value) := by
  -- Either the place is the changed one, or it reads as before.
  by_cases same : place = changed
  · subst same
    simp
  · simp [same]

/-- A finite program that issues requests and may raise. -/
inductive Prog (ε Req : Type) (Reply : Req → Type) (α : Type) where
  /-- The program has returned. -/
  | done (value : α)
  /-- The program has raised. -/
  | raise (error : ε)
  /-- The program waits for the reply to a request, which may itself be an error. -/
  | request (req : Req) (next : Except ε (Reply req) → Prog ε Req Reply α)

namespace Prog

variable {ε Req : Type} {Reply : Req → Type} {α β γ : Type}

/-- Run a second program on the value the first returns. -/
def bind : Prog ε Req Reply α → (α → Prog ε Req Reply β) → Prog ε Req Reply β
  | done value, after => after value
  | raise error, _ => raise error
  | request req next, after => request req fun reply => (next reply).bind after

instance : Monad (Prog ε Req Reply) where
  pure := done
  bind := bind

/-- Run a handler on the error a program raises. -/
def tryCatch : Prog ε Req Reply α → (ε → Prog ε Req Reply α) → Prog ε Req Reply α
  | done value, _ => done value
  | raise error, handler => handler error
  | request req next, handler => request req fun reply => (next reply).tryCatch handler

/-- One request whose error, if any, is raised. -/
def call (req : Req) : Prog ε Req Reply (Reply req) :=
  request req fun
    | .ok reply => done reply
    | .error error => raise error

/-- A completed outcome as a program. -/
def ofExcept : Except ε α → Prog ε Req Reply α
  | .ok value => done value
  | .error error => raise error

/-- A pure value is a program that is done. -/
@[simp] theorem pure_eq (value : α) : (pure value : Prog ε Req Reply α) = done value := rfl

/-- A program that is done hands its value over. -/
@[simp] theorem done_bind (value : α) (after : α → Prog ε Req Reply β) :
    (done value >>= after) = after value := rfl

/-- A program that has raised goes no further. -/
@[simp] theorem raise_bind (error : ε) (after : α → Prog ε Req Reply β) :
    ((raise error : Prog ε Req Reply α) >>= after) = raise error := rfl

/-- A request comes before whatever follows it. -/
@[simp] theorem request_bind (req : Req) (next : Except ε (Reply req) → Prog ε Req Reply α)
    (after : α → Prog ε Req Reply β) :
    (request req next >>= after) = request req fun reply => next reply >>= after := rfl

section Sequential
variable {σ : Type} (exec : (req : Req) → σ → Except ε (Reply req) × σ)

/-- Run a program to completion with nothing else happening. -/
def runAlone : Prog ε Req Reply α → σ → Except ε α × σ
  | done value, state => (.ok value, state)
  | raise error, state => (.error error, state)
  | request req next, state =>
    let outcome := exec req state
    (next outcome.1).runAlone outcome.2

/-- A program that is done leaves the state alone. -/
@[simp] theorem runAlone_done (value : α) (state : σ) :
    (done value : Prog ε Req Reply α).runAlone exec state = (.ok value, state) := rfl

/-- A program that has raised leaves the state alone. -/
@[simp] theorem runAlone_raise (error : ε) (state : σ) :
    (raise error : Prog ε Req Reply α).runAlone exec state = (.error error, state) := rfl

/-- A sequence of programs runs the second where the first returned. -/
theorem runAlone_bind (first : Prog ε Req Reply α) (after : α → Prog ε Req Reply β) (state : σ) :
    (first >>= after).runAlone exec state =
      match first.runAlone exec state with
      | (.ok value, middle) => (after value).runAlone exec middle
      | (.error error, middle) => (.error error, middle) := by
  -- Each request moves the state once and leaves the claim about its continuation.
  induction first generalizing state with
  | done value => rfl
  | raise error => rfl
  | request req next ih => exact ih _ _

/-- A guarded program runs its handler where the body raised. -/
theorem runAlone_tryCatch (body : Prog ε Req Reply α) (handler : ε → Prog ε Req Reply α)
    (state : σ) :
    (body.tryCatch handler).runAlone exec state =
      match body.runAlone exec state with
      | (.ok value, middle) => (.ok value, middle)
      | (.error error, middle) => (handler error).runAlone exec middle := by
  -- By induction on the body: the handler comes in where the body raises.
  induction body generalizing state with
  | done value => rfl
  | raise error => rfl
  | request req next ih => exact ih _ _

/-- What every request keeps holds where a program ends. -/
theorem runAlone_invariant {exec} {invariant : σ → Prop}
    (each : ∀ req state, invariant state → invariant (exec req state).2)
    (program : Prog ε Req Reply α) {state : σ} (held : invariant state) :
    invariant (program.runAlone exec state).2 := by
  -- By induction on the program, from any state that has the property.
  induction program generalizing state with
  | done value => exact held
  | raise error => exact held
  | request req next ih => exact ih _ (each req state held)

/-- One request runs as its own execution. -/
@[simp] theorem runAlone_call (req : Req) (state : σ) :
    (call req : Prog ε Req Reply _).runAlone exec state = exec req state := by
  -- By the reply, which ends the program either way.
  rw [call, runAlone]
  cases outcome : exec req state with
  | mk reply next => cases reply <;> rfl

/-- A request that succeeds hands its reply to the rest of the program. -/
theorem runAlone_call_bind_ok {req : Req} {after : Reply req → Prog ε Req Reply α} {state next : σ}
    {reply : Reply req} (answered : exec req state = (.ok reply, next)) :
    (call req >>= after).runAlone exec state = (after reply).runAlone exec next := by
  -- The reply is handed to the continuation.
  rw [runAlone_bind, runAlone_call, answered]

/-- A request that fails ends the rest of the program. -/
theorem runAlone_call_bind_error {req : Req} {after : Reply req → Prog ε Req Reply α}
    {state next : σ} {error : ε} (failed : exec req state = (.error error, next)) :
    (call req >>= after).runAlone exec state = (.error error, next) := by
  -- The continuation is never reached.
  rw [runAlone_bind, runAlone_call, failed]

end Sequential

/-- A program whose requests are all of an allowed kind, whatever the replies are. -/
def Only (allowed : Req → Prop) : Prog ε Req Reply α → Prop
  | done _ => True
  | raise _ => True
  -- The rest of the program may depend on the reply, so each reply counts.
  | request req next => allowed req ∧ ∀ reply, Only allowed (next reply)

section Only
variable {allowed : Req → Prop}

/-- One allowed request is all a call makes. -/
theorem Only.call {req : Req} (permitted : allowed req) :
    (Prog.call req : Prog ε Req Reply _).Only allowed := by
  -- There is one request, and nothing after it.
  refine ⟨permitted, fun reply => ?_⟩
  cases reply <;> trivial

/-- A sequence makes the requests of its parts. -/
theorem Only.bind {program : Prog ε Req Reply α} {after : α → Prog ε Req Reply β}
    (head : program.Only allowed) (tail : ∀ value, (after value).Only allowed) :
    (program >>= after).Only allowed := by
  -- On the head; where it ends, the continuation takes over.
  induction program with
  | done value => exact tail value
  | raise error => trivial
  | request req next ih => exact ⟨head.1, fun reply => ih reply (head.2 reply)⟩

/-- A guarded program makes the requests of its body and of its handler. -/
theorem Only.tryCatch {program : Prog ε Req Reply α} {handler : ε → Prog ε Req Reply α}
    (head : program.Only allowed) (tail : ∀ error, (handler error).Only allowed) :
    (program.tryCatch handler).Only allowed := by
  -- On the body; where it raises, the handler takes over.
  induction program with
  | done value => trivial
  | raise error => exact tail error
  | request req next ih => exact ⟨head.1, fun reply => ih reply (head.2 reply)⟩

/-- What is allowed by a stricter rule is allowed. -/
theorem Only.mono {wider : Req → Prop} {program : Prog ε Req Reply α}
    (requests : program.Only allowed) (weaker : ∀ req, allowed req → wider req) :
    program.Only wider := by
  -- On the program, request by request.
  induction program with
  | done value => trivial
  | raise error => trivial
  | request req next ih => exact ⟨weaker req requests.1, fun reply => ih reply (requests.2 reply)⟩

end Only

end Prog

/-- What executing one request may do; a blocked request has no outcome. -/
structure Machine (ι ε Req : Type) (Reply : Req → Type) (σ : Type) where
  /-- Whatever the outcome depends on besides the state. -/
  Choice : Type
  /-- The outcome for one thread, absent while the thread has to wait. -/
  exec : Choice → ι → σ → (req : Req) → Option (Except ε (Reply req) × σ)

/-- Shared state and the programs that are still running or have finished. -/
structure Config (ι ε Req : Type) (Reply : Req → Type) (σ α : Type) where
  state : σ
  threads : ι → Option (Prog ε Req Reply α)

section Concurrent
variable {ι ε Req : Type} {Reply : Req → Type} {σ α β : Type}
variable (machine : Machine ι ε Req Reply σ)

/-- One step of a system: a thread acts, starts or disappears, or the environment moves. -/
inductive Step [DecidableEq ι] (starts : ι → σ → Prog ε Req Reply α → Prop)
    (environment : σ → σ → Prop) :
    Config ι ε Req Reply σ α → Config ι ε Req Reply σ α → Prop where
  /-- A thread's pending request is executed. -/
  | act {config : Config ι ε Req Reply σ α} {thread : ι} {req : Req}
      {next : Except ε (Reply req) → Prog ε Req Reply α} {choice : machine.Choice}
      {reply : Except ε (Reply req)} {state : σ}
      (running : config.threads thread = some (.request req next))
      (performed : machine.exec choice thread config.state req = some (reply, state)) :
      Step starts environment config
        ⟨state, Function.update config.threads thread (some (next reply))⟩
  /-- A new program starts in a place where none is running. -/
  | start {config : Config ι ε Req Reply σ α} {thread : ι} {program : Prog ε Req Reply α}
      (idle : config.threads thread = none) (allowed : starts thread config.state program) :
      Step starts environment config
        ⟨config.state, Function.update config.threads thread (some program)⟩
  /-- A program disappears at any point, finished or not. -/
  | crash {config : Config ι ε Req Reply σ α} (thread : ι) :
      Step starts environment config ⟨config.state, Function.update config.threads thread none⟩
  /-- The environment moves. -/
  | environment {config : Config ι ε Req Reply σ α} {state : σ}
      (moved : environment config.state state) :
      Step starts environment config ⟨state, config.threads⟩

variable {machine} in
/-- A step of a system is a step wherever the environment may do more. -/
theorem Step.mono [DecidableEq ι] {starts : ι → σ → Prog ε Req Reply α → Prop}
    {less more : σ → σ → Prop} {config config' : Config ι ε Req Reply σ α}
    (wider : ∀ before after, less before after → more before after)
    (step : Step machine starts less config config') : Step machine starts more config config' := by
  -- Only a step of the environment depends on what the environment may do.
  cases step with
  | act running performed => exact .act running performed
  | start idle allowed => exact .start idle allowed
  | crash thread => exact .crash thread
  | environment moved => exact .environment (wider _ _ moved)

variable {machine} in
/-- A program that runs after a step ran before it, has just acted or has just started. -/
theorem Step.running_cases [DecidableEq ι] {starts : ι → σ → Prog ε Req Reply α → Prop}
    {environment : σ → σ → Prop} {config config' : Config ι ε Req Reply σ α}
    (step : Step machine starts environment config config') {thread : ι}
    {program : Prog ε Req Reply α} (running : config'.threads thread = some program) :
    config.threads thread = some program ∨
    (∃ req next choice reply, config.threads thread = some (.request req next) ∧
      machine.exec choice thread config.state req = some (reply, config'.state) ∧
      program = next reply) ∨
    starts thread config.state program := by
  -- Each kind of step changes one place of the threads at most.
  cases step with
  | act acting performed =>
    rcases update_eq_some.mp running with ⟨rfl, continued⟩ | ⟨-, before⟩
    · exact Or.inr (Or.inl ⟨_, _, _, _, acting, performed, (Option.some.inj continued).symm⟩)
    · exact Or.inl before
  | start idle allowed =>
    rcases update_eq_some.mp running with ⟨rfl, started⟩ | ⟨-, before⟩
    · exact Or.inr (Or.inr (Option.some.inj started ▸ allowed))
    · exact Or.inl before
  | crash actor =>
    rcases update_eq_some.mp running with ⟨-, gone⟩ | ⟨-, before⟩
    · cases gone
    · exact Or.inl before
  | environment moved => exact Or.inl running

/-- A step of a system in which requests wait for a condition on the configuration. -/
inductive GuardedStep [DecidableEq ι] (starts : ι → σ → Prog ε Req Reply α → Prop)
    (environment : σ → σ → Prop) (allowed : Config ι ε Req Reply σ α → ι → Req → Prop) :
    Config ι ε Req Reply σ α → Config ι ε Req Reply σ α → Prop where
  | act {config : Config ι ε Req Reply σ α} {thread : ι} {req : Req}
      {next : Except ε (Reply req) → Prog ε Req Reply α} {choice : machine.Choice}
      {reply : Except ε (Reply req)} {state : σ}
      (running : config.threads thread = some (.request req next))
      (guarded : allowed config thread req)
      (performed : machine.exec choice thread config.state req = some (reply, state)) :
      GuardedStep starts environment allowed config
        ⟨state, Function.update config.threads thread (some (next reply))⟩
  | start {config : Config ι ε Req Reply σ α} {thread : ι} {program : Prog ε Req Reply α}
      (idle : config.threads thread = none) (begins : starts thread config.state program) :
      GuardedStep starts environment allowed config
        ⟨config.state, Function.update config.threads thread (some program)⟩
  | crash {config : Config ι ε Req Reply σ α} (thread : ι) :
      GuardedStep starts environment allowed config
        ⟨config.state, Function.update config.threads thread none⟩
  | environment {config : Config ι ε Req Reply σ α} {state : σ}
      (moved : environment config.state state) :
      GuardedStep starts environment allowed config ⟨state, config.threads⟩

variable {machine} in
/-- A step under a condition is a step. -/
theorem GuardedStep.step [DecidableEq ι] {starts : ι → σ → Prog ε Req Reply α → Prop}
    {environment : σ → σ → Prop} {allowed : Config ι ε Req Reply σ α → ι → Req → Prop}
    {config config' : Config ι ε Req Reply σ α}
    (guarded : GuardedStep machine starts environment allowed config config') :
    Step machine starts environment config config' := by
  -- The condition is dropped, and the rest of the step is the same.
  cases guarded with
  | act running _ performed => exact .act running performed
  | start idle begins => exact .start idle begins
  | crash thread => exact .crash thread
  | environment moved => exact .environment moved

/-- A machine on which only some requests are made in each state. -/
def Machine.restrict (machine : Machine ι ε Req Reply σ) (allowed : σ → Req → Bool) :
    Machine ι ε Req Reply σ where
  Choice := machine.Choice
  exec choice thread state req :=
    if allowed state req then machine.exec choice thread state req else none

variable {machine} in
/-- What is performed under a restriction is allowed, and is performed without it. -/
theorem Machine.of_restrict {allowed : σ → Req → Bool} {choice : machine.Choice} {thread : ι}
    {state after : σ} {req : Req} {reply : Except ε (Reply req)}
    (performed : (machine.restrict allowed).exec choice thread state req = some (reply, after)) :
    allowed state req = true ∧ machine.exec choice thread state req = some (reply, after) := by
  -- A restricted machine does nothing where the condition fails.
  unfold Machine.restrict at performed
  dsimp only at performed
  split at performed
  next holds => exact ⟨holds, performed⟩
  next => cases performed

variable {machine} in
/-- A step under a restriction is a step. -/
theorem Step.of_restrict [DecidableEq ι] {allowed : σ → Req → Bool}
    {starts : ι → σ → Prog ε Req Reply α → Prop} {environment : σ → σ → Prop}
    {config config' : Config ι ε Req Reply σ α}
    (step : Step (machine.restrict allowed) starts environment config config') :
    Step machine starts environment config config' := by
  -- Only an act goes through the restricted machine.
  cases step with
  | act running performed => exact .act running (Machine.of_restrict performed).2
  | start idle permitted => exact .start idle permitted
  | crash thread => exact .crash thread
  | environment moved => exact .environment moved

/-- Let a thread execute its pending request, if it has one and need not wait. -/
def Config.act [DecidableEq ι] (machine : Machine ι ε Req Reply σ) (thread : ι)
    (choice : machine.Choice) (config : Config ι ε Req Reply σ α) : Config ι ε Req Reply σ α :=
  match config.threads thread with
  | some (.request req next) =>
    match machine.exec choice thread config.state req with
    | some (reply, state) => ⟨state, Function.update config.threads thread (some (next reply))⟩
    | none => config
  | _ => config

/-- A thread that is let act takes at most one step. -/
theorem Config.act_run [DecidableEq ι] {starts : ι → σ → Prog ε Req Reply α → Prop}
    {environment : σ → σ → Prop} (thread : ι) (choice : machine.Choice)
    (config : Config ι ε Req Reply σ α) :
    Relation.ReflTransGen (Step machine starts environment) config
      (config.act machine thread choice) := by
  -- A thread without a request, or whose request the machine does not perform, stays as it is.
  rw [Config.act]
  split
  next req next running =>
    split
    next reply state performed => exact .single (.act running performed)
    next => exact .refl
  next => exact .refl

/-- Let a thread act once for each of some choices. -/
def Config.actAll [DecidableEq ι] (machine : Machine ι ε Req Reply σ) (thread : ι)
    (choices : List machine.Choice) (config : Config ι ε Req Reply σ α) :
    Config ι ε Req Reply σ α :=
  choices.foldl (fun current choice => current.act machine thread choice) config

/-- A thread that is let act again and again runs. -/
theorem Config.actAll_run [DecidableEq ι] {starts : ι → σ → Prog ε Req Reply α → Prop}
    {environment : σ → σ → Prop} (thread : ι) (choices : List machine.Choice)
    (config : Config ι ε Req Reply σ α) :
    Relation.ReflTransGen (Step machine starts environment) config
      (config.actAll machine thread choices) := by
  -- On the choices, from any configuration.
  induction choices generalizing config with
  | nil => exact .refl
  | cons choice rest ih => exact (config.act_run machine thread choice).trans (ih _)

/--
What threads agree on: an invariant of the state and, for each thread, the changes it tolerates.

A thread may act only in ways that keep the invariant and that every other thread tolerates.
-/
structure Protocol (ι ε Req : Type) (Reply : Req → Type) (σ : Type) where
  /-- Holds between any two actions. -/
  invariant : σ → Prop
  /-- What a thread expects of the actions of all others. -/
  rely : ι → σ → σ → Prop
  /-- What every action of a thread has to satisfy besides. -/
  action : ι → σ → (req : Req) → Except ε (Reply req) → σ → Prop
  rely_refl : ∀ thread state, rely thread state state
  rely_trans : ∀ thread first second third,
    rely thread first second → rely thread second third → rely thread first third

variable {machine} (protocol : Protocol ι ε Req Reply σ)

/--
A program follows the protocol from a state on.

Before each of its requests the others may have moved; its own action must keep the invariant, be
tolerated by the others and leave a program that again follows the protocol.
-/
def Safe (machine : Machine ι ε Req Reply σ) (thread : ι) (post : Except ε α → σ → Prop) :
    Prog ε Req Reply α → σ → Prop
  | .done value, state => post (.ok value) state
  | .raise error, state => post (.error error) state
  | .request req next, state =>
    ∀ before, protocol.rely thread state before → protocol.invariant before →
    ∀ choice reply after, machine.exec choice thread before req = some (reply, after) →
      protocol.invariant after ∧
      (∀ other, other ≠ thread → protocol.rely other before after) ∧
      protocol.action thread before req reply after ∧
      Safe machine thread post (next reply) after

variable {protocol} {thread : ι}

/-- A single request follows the protocol when each of its executions does. -/
theorem Safe.call {req : Req} {post : Except ε (Reply req) → σ → Prop} {state : σ}
    (each : ∀ before, protocol.rely thread state before → protocol.invariant before →
      ∀ choice reply after, machine.exec choice thread before req = some (reply, after) →
        protocol.invariant after ∧ (∀ other, other ≠ thread → protocol.rely other before after) ∧
        protocol.action thread before req reply after ∧ post reply after) :
    Safe protocol machine thread post (Prog.call req) state := by
  -- The reply is the outcome, whichever of the two it is.
  intro before moved held choice reply after performed
  obtain ⟨kept, tolerated, acted, reached⟩ := each before moved held choice reply after performed
  refine ⟨kept, tolerated, acted, ?_⟩
  cases reply <;> exact reached

/-- A sequence is safe when the second program is safe wherever the first returns. -/
theorem Safe.bind {program : Prog ε Req Reply α} {after : α → Prog ε Req Reply β}
    {post : Except ε β → σ → Prop} {state : σ}
    (first : Safe protocol machine thread (fun outcome reached =>
      match outcome with
      | .ok value => Safe protocol machine thread post (after value) reached
      | .error error => post (.error error) reached) program state) :
    Safe protocol machine thread post (program >>= after) state := by
  -- By induction on the first program; the condition at its value is the safety of the second.
  induction program generalizing state with
  | done value => exact first
  | raise error => exact first
  | request req next ih =>
    intro before moved held choice reply reached performed
    obtain ⟨kept, tolerated, acted, rest⟩ := first before moved held choice reply reached performed
    exact ⟨kept, tolerated, acted, ih reply rest⟩

/-- A guarded program is safe when its handler is safe wherever the body raises. -/
theorem Safe.tryCatch {program : Prog ε Req Reply α} {handler : ε → Prog ε Req Reply α}
    {post : Except ε α → σ → Prop} {state : σ}
    (body : Safe protocol machine thread (fun outcome reached =>
      match outcome with
      | .ok value => post (.ok value) reached
      | .error error => Safe protocol machine thread post (handler error) reached) program state) :
    Safe protocol machine thread post (program.tryCatch handler) state := by
  -- By induction on the body; the condition at its error is the safety of the handler.
  induction program generalizing state with
  | done value => exact body
  | raise error => exact body
  | request req next ih =>
    intro before moved held choice reply reached performed
    obtain ⟨kept, tolerated, acted, rest⟩ := body before moved held choice reply reached performed
    exact ⟨kept, tolerated, acted, ih reply rest⟩

/-- A weaker final condition asks less of a program. -/
theorem Safe.weaken {program : Prog ε Req Reply α} {post post' : Except ε α → σ → Prop} {state : σ}
    (safe : Safe protocol machine thread post program state)
    (weaker : ∀ outcome reached, post outcome reached → post' outcome reached) :
    Safe protocol machine thread post' program state := by
  -- By induction on the program, with the condition weakened at its ends.
  induction program generalizing state with
  | done value => exact weaker _ _ safe
  | raise error => exact weaker _ _ safe
  | request req next ih =>
    intro before moved held choice reply reached performed
    obtain ⟨kept, tolerated, acted, rest⟩ := safe before moved held choice reply reached performed
    exact ⟨kept, tolerated, acted, ih reply rest⟩

/-- A program is safe when the protocol permits its requests in every state. -/
theorem Safe.of_only {allowed : Req → Prop} {program : Prog ε Req Reply α} {state : σ}
    (requests : program.Only allowed)
    (each : ∀ before, protocol.invariant before → ∀ req, allowed req →
      ∀ choice reply after, machine.exec choice thread before req = some (reply, after) →
        protocol.invariant after ∧ (∀ other, other ≠ thread → protocol.rely other before after) ∧
        protocol.action thread before req reply after) :
    Safe protocol machine thread (fun _ _ => True) program state := by
  -- The protocol permits each request by itself, so it does not matter what the others do between.
  induction program generalizing state with
  | done value => trivial
  | raise error => trivial
  | request req next ih =>
    intro before _ held choice reply after performed
    obtain ⟨kept, tolerated, acted⟩ :=
      each before held req requests.1 choice reply after performed
    exact ⟨kept, tolerated, acted, ih reply (requests.2 reply)⟩

/-- A final condition that survives whatever the thread tolerates. -/
def Stable (protocol : Protocol ι ε Req Reply σ)
    (thread : ι) (post : Except ε α → σ → Prop) : Prop :=
  ∀ outcome first second, post outcome first → protocol.rely thread first second →
    protocol.invariant second → post outcome second

/-- A program stays safe while the others move. -/
theorem Safe.moved {program : Prog ε Req Reply α} {post : Except ε α → σ → Prop} {first second : σ}
    (stable : Stable protocol thread post) (safe : Safe protocol machine thread post program first)
    (tolerated : protocol.rely thread first second) (held : protocol.invariant second) :
    Safe protocol machine thread post program second := by
  -- What the others have done before the next request can be added to what they do next.
  cases program with
  | done value => exact stable _ _ _ safe tolerated held
  | raise error => exact stable _ _ _ safe tolerated held
  | request req next =>
    intro before moved
    exact safe before (protocol.rely_trans _ _ _ _ tolerated moved)

section Soundness
variable [DecidableEq ι] {starts : ι → σ → Prog ε Req Reply α → Prop} {environment : σ → σ → Prop}
variable {post : ι → Except ε α → σ → Prop}

/-- The invariant holds and every running program follows the protocol. -/
def Sound (machine : Machine ι ε Req Reply σ)
    (protocol : Protocol ι ε Req Reply σ)
    (post : ι → Except ε α → σ → Prop) (config : Config ι ε Req Reply σ α) : Prop :=
  protocol.invariant config.state ∧ ∀ thread program, config.threads thread = some program →
    Safe protocol machine thread (post thread) program config.state

/-- One step of a system of protocol-following programs keeps the system sound. -/
theorem Sound.step {config config' : Config ι ε Req Reply σ α}
    (stable : ∀ thread, Stable protocol thread (post thread))
    (startsSafe : ∀ thread state program, protocol.invariant state → starts thread state program →
      Safe protocol machine thread (post thread) program state)
    (environmentSafe : ∀ before after, protocol.invariant before → environment before after →
      protocol.invariant after ∧ ∀ thread, protocol.rely thread before after)
    (sound : Sound machine protocol post config)
    (step : Step machine starts environment config config') :
    Sound machine protocol post config' := by
  -- The acting thread follows the protocol by its own safety; the others tolerate its action.
  obtain ⟨held, follows⟩ := sound
  cases step with
  | @act actor req next choice reply state running performed =>
    obtain ⟨kept, tolerated, _, rest⟩ := follows actor _ running _
      (protocol.rely_refl _ _) held choice reply state performed
    refine ⟨kept, fun thread program among => ?_⟩
    rcases update_eq_some.mp among with ⟨rfl, continued⟩ | ⟨other, before⟩
    · cases continued
      exact rest
    · exact (follows thread program before).moved (stable thread) (tolerated thread other) kept
  | @start actor program idle allowed =>
    refine ⟨held, fun thread other among => ?_⟩
    rcases update_eq_some.mp among with ⟨rfl, started⟩ | ⟨-, before⟩
    · cases started
      exact startsSafe thread _ program held allowed
    · exact follows thread other before
  | crash actor =>
    refine ⟨held, fun thread other among => ?_⟩
    rcases update_eq_some.mp among with ⟨-, gone⟩ | ⟨-, before⟩
    · cases gone
    · exact follows thread other before
  | @environment state moved =>
    obtain ⟨kept, tolerated⟩ := environmentSafe _ _ held moved
    exact ⟨kept, fun thread program among =>
      (follows thread program among).moved (stable thread) (tolerated thread) kept⟩

/-- Whole runs of protocol-following programs keep the system sound. -/
theorem Sound.run {config config' : Config ι ε Req Reply σ α}
    (stable : ∀ thread, Stable protocol thread (post thread))
    (startsSafe : ∀ thread state program, protocol.invariant state → starts thread state program →
      Safe protocol machine thread (post thread) program state)
    (environmentSafe : ∀ before after, protocol.invariant before → environment before after →
      protocol.invariant after ∧ ∀ thread, protocol.rely thread before after)
    (sound : Sound machine protocol post config)
    (run : Relation.ReflTransGen (Step machine starts environment) config config') :
    Sound machine protocol post config' := by
  -- By induction on the run.
  induction run with
  | refl => exact sound
  | tail _ step ih => exact ih.step stable startsSafe environmentSafe step

omit [DecidableEq ι] in
/-- Every action taken in a sound system satisfies what the protocol asks of actions. -/
theorem Sound.action {config : Config ι ε Req Reply σ α} {req : Req}
    {next : Except ε (Reply req) → Prog ε Req Reply α} {choice : machine.Choice}
    {reply : Except ε (Reply req)} {state : σ}
    (sound : Sound machine protocol post config)
    (running : config.threads thread = some (.request req next))
    (performed : machine.exec choice thread config.state req = some (reply, state)) :
    protocol.action thread config.state req reply state :=
  (sound.2 thread _ running _ (protocol.rely_refl _ _) sound.1 choice reply state performed).2.2.1

/-- A machine that does nothing that another does not do. -/
def Machine.Narrows (narrow wide : Machine ι ε Req Reply σ) : Prop :=
  ∀ choice thread state req outcome, narrow.exec choice thread state req = some outcome →
    ∃ choice', wide.exec choice' thread state req = some outcome

omit [DecidableEq ι] in
/-- A restriction narrows a machine. -/
theorem Machine.restrict_narrows (machine : Machine ι ε Req Reply σ) (allowed : σ → Req → Bool) :
    (machine.restrict allowed).Narrows machine :=
  fun choice _ _ _ _ performed => ⟨choice, (Machine.of_restrict performed).2⟩

omit [DecidableEq ι] in
/-- A program that follows the protocol follows it where less can happen. -/
theorem Safe.narrow {narrow : Machine ι ε Req Reply σ} {program : Prog ε Req Reply α}
    {post : Except ε α → σ → Prop} {state : σ} (narrows : narrow.Narrows machine)
    (safe : Safe protocol machine thread post program state) :
    Safe protocol narrow thread post program state := by
  -- By induction on the program: every reply of the narrow machine is one of the other.
  induction program generalizing state with
  | done value => exact safe
  | raise error => exact safe
  | request req next ih =>
    intro before moved held choice reply after performed
    obtain ⟨choice', done⟩ := narrows choice thread before req _ performed
    obtain ⟨kept, tolerated, acted, rest⟩ := safe before moved held choice' reply after done
    exact ⟨kept, tolerated, acted, ih reply rest⟩

omit [DecidableEq ι] in
/-- A program that follows the protocol follows it where fewer requests are allowed. -/
theorem Safe.restrict {program : Prog ε Req Reply α} {post : Except ε α → σ → Prop} {state : σ}
    (allowed : σ → Req → Bool) (safe : Safe protocol machine thread post program state) :
    Safe protocol (machine.restrict allowed) thread post program state :=
  safe.narrow (machine.restrict_narrows allowed)

/-- Where the actions of a sound system meet a condition, a step of it is a step under the condition. -/
theorem Step.restrict {allowed : σ → Req → Bool} {config config' : Config ι ε Req Reply σ α}
    (meets : ∀ thread before req reply after, protocol.invariant before →
      protocol.action thread before req reply after → allowed before req = true)
    (sound : Sound machine protocol post config)
    (step : Step machine starts environment config config') :
    Step (machine.restrict allowed) starts environment config config' := by
  -- An act meets the condition, and no other step asks for it.
  cases step with
  | @act actor req next choice reply state running performed =>
    have permitted := meets _ _ _ _ _ sound.1 (sound.action running performed)
    exact .act running ((if_pos permitted).trans performed)
  | start idle starting => exact .start idle starting
  | crash thread => exact .crash thread
  | environment moved => exact .environment moved

/-- Where the actions of a sound system meet a condition, a run of it is a run under the condition. -/
theorem Sound.run_restrict {allowed : σ → Req → Bool} {config config' : Config ι ε Req Reply σ α}
    (stable : ∀ thread, Stable protocol thread (post thread))
    (startsSafe : ∀ thread state program, protocol.invariant state → starts thread state program →
      Safe protocol machine thread (post thread) program state)
    (environmentSafe : ∀ before after, protocol.invariant before → environment before after →
      protocol.invariant after ∧ ∀ thread, protocol.rely thread before after)
    (meets : ∀ thread before req reply after, protocol.invariant before →
      protocol.action thread before req reply after → allowed before req = true)
    (sound : Sound machine protocol post config)
    (run : Relation.ReflTransGen (Step machine starts environment) config config') :
    Sound machine protocol post config' ∧
      Relation.ReflTransGen (Step (machine.restrict allowed) starts environment) config config' := by
  -- By induction on the run: the system is sound before each step.
  induction run with
  | refl => exact ⟨sound, .refl⟩
  | tail _ step ih =>
    exact ⟨ih.1.step stable startsSafe environmentSafe step,
      ih.2.tail (step.restrict meets ih.1)⟩

end Soundness

end Concurrent

end Foundation
