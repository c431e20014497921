import Cislunar.Foundation.Triple
import Mathlib.Logic.Nontrivial.Defs

/-!
Programs of which only the returned values matter, and programs that keep a fact throughout.

What is known when a handler takes over from a program that keeps a fact is what was known when the
program began.
-/

namespace Foundation

section
variable {ι ε Req : Type} {Reply : Req → Type} {σ α β : Type}
variable (protocol : Protocol ι ε Req Reply σ) (machine : Machine ι ε Req Reply σ) (thread : ι)

/-- From a precondition a program returns only what satisfies a condition. -/
def Returns (pre : σ → Prop) (program : Prog ε Req Reply α) (post : α → σ → Prop) : Prop :=
  Triple protocol machine thread pre program fun outcome state =>
    ∀ value, outcome = .ok value → post value state

/-- A program keeps a fact, and where it returns there is more to say. -/
def Keeps (fact : σ → Prop) (program : Prog ε Req Reply α) (post : α → σ → Prop) : Prop :=
  Triple protocol machine thread fact program fun outcome state =>
    fact state ∧ ∀ value, outcome = .ok value → post value state

variable {protocol machine thread} {fact : σ → Prop}

namespace Returns
variable {pre : σ → Prop}

/-- A returned value needs nothing but what is said of it. -/
theorem done {value : α} {post : α → σ → Prop} (reached : ∀ state, pre state → post value state) :
    Returns protocol machine thread pre (.done value) post :=
  Triple.done fun state held _ same => by cases same; exact reached state held

/-- A program that raises returns nothing. -/
theorem raise {error : ε} {post : α → σ → Prop} :
    Returns protocol machine thread pre (.raise error) post :=
  Triple.raise fun _ _ _ same => by cases same

/-- A sequence meets in the middle. -/
theorem bind {program : Prog ε Req Reply α} {after : α → Prog ε Req Reply β}
    {middle : α → σ → Prop} {post : β → σ → Prop}
    (first : Returns protocol machine thread pre program middle)
    (second : ∀ value, Returns protocol machine thread (middle value) (after value) post) :
    Returns protocol machine thread pre (program >>= after) post :=
  Triple.bind (Triple.weaken first (fun _ => id) fun _ _ reached =>
    ⟨reached, fun _ _ _ same => by cases same⟩) second

/-- A handler takes over without knowing anything. -/
theorem tryCatch {program : Prog ε Req Reply α} {handler : ε → Prog ε Req Reply α}
    {post : α → σ → Prop} (body : Returns protocol machine thread pre program post)
    (second : ∀ error, Returns protocol machine thread (fun _ => True) (handler error) post) :
    Returns protocol machine thread pre (program.tryCatch handler) post :=
  Triple.tryCatch (Triple.weaken body (fun _ => id) fun _ _ reached =>
    ⟨fun value same other equal => by cases same; cases equal; exact reached _ rfl,
      fun _ _ => trivial⟩) second

/-- A stronger precondition and a weaker postcondition ask less. -/
theorem weaken {stronger : σ → Prop} {program : Prog ε Req Reply α} {post weaker : α → σ → Prop}
    (returns : Returns protocol machine thread pre program post)
    (before : ∀ state, stronger state → pre state)
    (after : ∀ value state, post value state → weaker value state) :
    Returns protocol machine thread stronger program weaker :=
  Triple.weaken returns before fun _ state reached value same =>
    after value state (reached value same)

/-- A program that keeps a fact returns with it. -/
theorem of_keeps {program : Prog ε Req Reply α} {post : α → σ → Prop}
    (keeps : Keeps protocol machine thread fact program post) :
    Returns protocol machine thread fact program fun value state => fact state ∧ post value state :=
  Triple.weaken keeps (fun _ => id) fun _ _ held value same => ⟨held.1, held.2 value same⟩

end Returns

namespace Keeps

/-- A returned value needs nothing but what is said of it. -/
theorem done {value : α} {post : α → σ → Prop} (reached : ∀ state, fact state → post value state) :
    Keeps protocol machine thread fact (.done value) post :=
  Triple.done fun state held => ⟨held, fun _ same => by cases same; exact reached state held⟩

/-- An error that is raised says nothing. -/
theorem raise {error : ε} {post : α → σ → Prop} :
    Keeps protocol machine thread fact (.raise error) post :=
  Triple.raise fun _ held => ⟨held, fun _ same => by cases same⟩

/-- A request that nobody objects to keeps what nobody takes away. -/
theorem call {req : Req} {post : Reply req → σ → Prop} (kept : Kept protocol thread fact)
    (each : ∀ before, protocol.invariant before → fact before →
      ∀ choice reply after, machine.exec choice thread before req = some (reply, after) →
        Permitted protocol thread before req reply after ∧ fact after ∧
          ∀ value, reply = .ok value → post value after) :
    Keeps protocol machine thread fact (Prog.call req) post :=
  Triple.call kept each

/-- A sequence keeps what its parts keep. -/
theorem bind {program : Prog ε Req Reply α} {after : α → Prog ε Req Reply β}
    {middle : α → σ → Prop} {post : β → σ → Prop}
    (first : Keeps protocol machine thread fact program middle)
    (second : ∀ value, Keeps protocol machine thread
      (fun state => fact state ∧ middle value state) (after value) post) :
    Keeps protocol machine thread fact (program >>= after) post := by
  -- The fact is carried through the first part and is known beside the value that it returns.
  refine Triple.bind
    (first.weaken (fun _ => id) fun outcome state held => ⟨fun value same => ?_, fun _ _ => ?_⟩)
    fun value => (second value).weaken (fun _ => id) fun _ _ held => ⟨held.1.1, held.2⟩
  · exact ⟨held.1, held.2 value same⟩
  · exact ⟨held.1, fun _ same => by cases same⟩

/-- A handler takes over with what was known before. -/
theorem tryCatch {program : Prog ε Req Reply α} {handler : ε → Prog ε Req Reply α}
    {post : α → σ → Prop} (body : Keeps protocol machine thread fact program post)
    (second : ∀ error, Keeps protocol machine thread fact (handler error) post) :
    Keeps protocol machine thread fact (program.tryCatch handler) post := by
  -- The body keeps the fact also where it raises, so the handler starts with it.
  refine Triple.tryCatch
    (body.weaken (fun _ => id) fun outcome state held => ⟨fun value same => ?_, fun _ _ => held.1⟩)
    second
  subst same
  exact held

/-- Less may be asked of what is returned. -/
theorem weaken {program : Prog ε Req Reply α} {post weaker : α → σ → Prop}
    (keeps : Keeps protocol machine thread fact program post)
    (implies : ∀ value state, fact state → post value state → weaker value state) :
    Keeps protocol machine thread fact program weaker :=
  Triple.weaken keeps (fun _ => id) fun _ state held =>
    ⟨held.1, fun value same => implies value state held.1 (held.2 value same)⟩

/-- A completed outcome makes no request. -/
theorem ofExcept (result : Except ε α) :
    Keeps protocol machine thread fact (Prog.ofExcept result) fun value _ => result = .ok value := by
  -- No request is made, so the state is the one before.
  cases result with
  | ok value => exact done fun _ _ => rfl
  | error error => exact raise

end Keeps

section Steps
variable [DecidableEq ι] {starts : ι → σ → Prog ε Req Reply α → Prop} {environment : σ → σ → Prop}
variable {config config' : Config ι ε Req Reply σ α}

/-- A step of a system is a step wherever more programs may start. -/
theorem Step.starting {more : ι → σ → Prog ε Req Reply α → Prop}
    (wider : ∀ thread state program, starts thread state program → more thread state program)
    (step : Step machine starts environment config config') :
    Step machine more environment config config' := by
  -- Only the start of a program depends on which ones may start.
  cases step with
  | act running performed => exact .act running performed
  | start idle allowed => exact .start idle (wider _ _ _ allowed)
  | crash thread => exact .crash thread
  | environment moved => exact .environment moved

/-- A step of a sound system keeps what every thread tolerates to keep. -/
theorem Sound.step_keeps [Nontrivial ι] {post : ι → Except ε α → σ → Prop}
    (kept : ∀ thread, Kept protocol thread fact)
    (environmentSafe : ∀ before after, protocol.invariant before → environment before after →
      protocol.invariant after ∧ ∀ thread, protocol.rely thread before after)
    (sound : Sound machine protocol post config)
    (step : Step machine starts environment config config') (held : fact config.state) :
    fact config'.state := by
  cases step with
  | @act actor req next choice reply state running performed =>
    -- Some other thread tolerates what the actor does.
    obtain ⟨other, different⟩ := exists_ne actor
    obtain ⟨valid, tolerated, -⟩ := sound.2 actor _ running _ (protocol.rely_refl _ _) sound.1 choice
      reply state performed
    exact kept other _ _ held (tolerated other different) valid
  | start | crash => exact held
  | @environment state moved =>
    obtain ⟨valid, tolerated⟩ := environmentSafe _ _ sound.1 moved
    obtain ⟨thread, -⟩ := exists_pair_ne ι
    exact kept thread _ _ held (tolerated thread) valid

end Steps

end

end Foundation
