import Cislunar.Foundation.Runs
import Mathlib.Order.Basic

/-!
A program that can run alone can take all its turns in a row among others.

A run uses finitely many places, so there is always a place for one more program.
-/

namespace Foundation

section
variable {ε Req : Type} {Reply : Req → Type} {σ α β : Type}

/-- A guarded program returns what its body returns. -/
theorem Runs.tryCatch {step : (req : Req) → σ → Except ε (Reply req) → σ → Prop}
    {body : Prog ε Req Reply α} (handler : ε → Prog ε Req Reply α) {before after : σ} {value : α}
    (run : Runs step body before (.ok value) after) :
    Runs step (body.tryCatch handler) before (.ok value) after := by
  -- By induction on the body, which never raises in the run.
  induction body generalizing before with
  | done answer =>
    cases run
    exact .done _ _
  | raise error => cases run
  | request req next ih =>
    cases run with
    | request performed rest => exact .request performed (ih _ rest)

/-- A completed outcome runs to that outcome. -/
theorem Runs.ofExcept {step : (req : Req) → σ → Except ε (Reply req) → σ → Prop}
    (outcome : Except ε α) (state : σ) : Runs step (Prog.ofExcept outcome) state outcome state := by
  -- No request is made.
  cases outcome with
  | ok value => exact .done value state
  | error error => exact .raise error state

end

section
variable {ε Req : Type} {Reply : Req → Type} {σ α : Type} {machine : Machine Nat ε Req Reply σ}
variable {starts : Nat → σ → Prog ε Req Reply α → Prop} {environment : σ → σ → Prop}

/-- What the machine may do for one place. -/
def Machine.Does (machine : Machine Nat ε Req Reply σ) (thread : Nat) (req : Req) (before : σ)
    (reply : Except ε (Reply req)) (after : σ) : Prop :=
  ∃ choice, machine.exec choice thread before req = some (reply, after)

/-- A program in a place takes all its turns. -/
theorem Runs.turns {thread : Nat} {program : Prog ε Req Reply α} {before after : σ}
    {outcome : Except ε α} (run : Runs (machine.Does thread) program before outcome after)
    {threads : Nat → Option (Prog ε Req Reply α)} (running : threads thread = some program) :
    ∃ threads', Relation.ReflTransGen (Step machine starts environment) ⟨before, threads⟩
      ⟨after, threads'⟩ := by
  -- By induction on the run: each request is one step of the system.
  induction run generalizing threads with
  | done value state => exact ⟨threads, .refl⟩
  | raise error state => exact ⟨threads, .refl⟩
  | @request req next before middle after reply outcome performed rest ih =>
    obtain ⟨choice, executed⟩ := performed
    obtain ⟨threads', later⟩ := @ih (Function.update threads thread (some (next reply)))
      (Function.update_self ..)
    exact ⟨threads', Relation.ReflTransGen.head (.act running executed) later⟩

/-- A program that takes its turns leaves the other places alone. -/
theorem Config.actAll_other {thread other : Nat} (different : other ≠ thread)
    (choices : List machine.Choice) (config : Config Nat ε Req Reply σ α) :
    (config.actAll machine thread choices).threads other = config.threads other := by
  -- One turn updates at most the place that takes it, and so do they all.
  have once : ∀ (choice : machine.Choice) (config : Config Nat ε Req Reply σ α),
      (config.act machine thread choice).threads other = config.threads other := by
    intro choice config
    rw [Config.act]
    split
    next =>
      split
      next => exact Function.update_of_ne different ..
      next => rfl
    next => rfl
  induction choices generalizing config with
  | nil => rfl
  | cons choice rest ih => exact (ih _).trans (once choice config)

/-- The configuration after a program is started in a place and takes some turns there. -/
def Config.launch (machine : Machine Nat ε Req Reply σ) (thread : Nat) (program : Prog ε Req Reply α)
    (choices : List machine.Choice) (config : Config Nat ε Req Reply σ α) :
    Config Nat ε Req Reply σ α :=
  Config.actAll machine thread choices
    ⟨config.state, Function.update config.threads thread (some program)⟩

/-- A program that is started in a place leaves the other places alone. -/
theorem Config.launch_other {thread other : Nat} (different : other ≠ thread)
    (program : Prog ε Req Reply α) (choices : List machine.Choice)
    (config : Config Nat ε Req Reply σ α) :
    (config.launch machine thread program choices).threads other = config.threads other := by
  -- Neither the start nor the turns touch another place.
  have started : Function.update config.threads thread (some program) other =
      config.threads other := Function.update_of_ne different ..
  exact (Config.actAll_other different choices _).trans started

/-- A program that may be started in a free place runs there. -/
theorem Config.launch_run {config : Config Nat ε Req Reply σ α} {thread : Nat}
    (free : config.threads thread = none) {program : Prog ε Req Reply α}
    (allowed : starts thread config.state program) (choices : List machine.Choice) :
    Relation.ReflTransGen (Step machine starts environment) config
      (config.launch machine thread program choices) := by
  -- The start is the first step, and the turns are the rest.
  have started : Step machine starts environment config
      ⟨config.state, Function.update config.threads thread (some program)⟩ := .start free allowed
  exact .head started (Config.actAll_run machine thread choices _)

/-- From some place on no place is in use. -/
def Config.Bounded (config : Config Nat ε Req Reply σ α) : Prop :=
  ∃ bound, ∀ thread, bound ≤ thread → config.threads thread = none

/-- A step uses at most one more place. -/
theorem Config.Bounded.step {config config' : Config Nat ε Req Reply σ α}
    (bounded : config.Bounded) (step : Step machine starts environment config config') :
    config'.Bounded := by
  -- Only the place of the step comes into use, so the bound has to be above it.
  obtain ⟨bound, idle⟩ := bounded
  cases step with
  | @act actor req next choice reply state running performed =>
    refine ⟨max bound (actor + 1), fun thread above => ?_⟩
    have other : thread ≠ actor := by omega
    exact (Function.update_of_ne other ..).trans (idle thread (by omega))
  | @start actor program free allowed =>
    refine ⟨max bound (actor + 1), fun thread above => ?_⟩
    have other : thread ≠ actor := by omega
    exact (Function.update_of_ne other ..).trans (idle thread (by omega))
  | crash actor =>
    refine ⟨bound, fun thread above => ?_⟩
    by_cases same : thread = actor
    · subst same
      exact Function.update_self ..
    · exact (Function.update_of_ne same ..).trans (idle thread above)
  | environment moved => exact ⟨bound, idle⟩

/-- A run uses finitely many places. -/
theorem Config.Bounded.run {config config' : Config Nat ε Req Reply σ α} (bounded : config.Bounded)
    (run : Relation.ReflTransGen (Step machine starts environment) config config') :
    config'.Bounded := by
  -- On the steps.
  induction run with
  | refl => exact bounded
  | tail _ step ih => exact ih.step step

/-- A program that may start and can run alone can be run from start to end. -/
theorem Config.Bounded.completes {config : Config Nat ε Req Reply σ α} (bounded : config.Bounded)
    {before after : σ} (here : config.state = before) {program : Prog ε Req Reply α}
    (allowed : ∀ thread, starts thread before program) {outcome : Except ε α}
    (runs : ∀ thread, Runs (machine.Does thread) program before outcome after) :
    ∃ config', Relation.ReflTransGen (Step machine starts environment) config config' ∧
      config'.state = after ∧ config'.Bounded := by
  -- The program is started above the bound and takes its turns there.
  subst here
  obtain ⟨bound, idle⟩ := bounded
  have free := idle bound (Nat.le_refl bound)
  have started : Step machine starts environment config
      ⟨config.state, Function.update config.threads bound (some program)⟩ :=
    .start free (allowed bound)
  obtain ⟨threads', later⟩ := (runs bound).turns (Function.update_self ..)
  have run := Relation.ReflTransGen.head started later
  exact ⟨_, run, rfl, Bounded.run ⟨bound, idle⟩ run⟩

end

end Foundation
