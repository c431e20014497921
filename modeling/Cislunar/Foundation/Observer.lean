import Cislunar.Foundation.Triple

/-!
Machines beside which every thread keeps a note of its own actions.

The notes have no influence on the machine: a run that is noted is a run. What a thread has done can
then be said of the state, although the other threads have moved it since.
-/

namespace Foundation

section
variable {ι ε Req : Type} {Reply : Req → Type} {σ α γ : Type} [DecidableEq ι]
variable (machine : Machine ι ε Req Reply σ) (note : γ → σ → σ → γ)

/-- A machine beside which each thread notes what its actions do to the state. -/
def Machine.observe : Machine ι ε Req Reply (σ × (ι → γ)) where
  Choice := machine.Choice
  exec choice thread state req :=
    (machine.exec choice thread state.1 req).map fun outcome => (outcome.1, (outcome.2,
      Function.update state.2 thread (note (state.2 thread) state.1 outcome.2)))

variable {machine note}

/-- What a noted action did, and the note that was made of it. -/
theorem Machine.of_observe {choice : machine.Choice} {thread : ι} {state after : σ × (ι → γ)}
    {req : Req} {reply : Except ε (Reply req)}
    (performed : (machine.observe note).exec choice thread state req = some (reply, after)) :
    machine.exec choice thread state.1 req = some (reply, after.1) ∧ after.2 =
      Function.update state.2 thread (note (state.2 thread) state.1 after.1) := by
  -- Observing adds a note to the step and changes nothing in it.
  obtain ⟨outcome, acted, same⟩ := Option.map_eq_some_iff.mp performed
  obtain ⟨rfl, rfl⟩ := Prod.mk.inj same
  exact ⟨acted, rfl⟩

/-- An action leaves the notes of other threads alone. -/
theorem Machine.observe_other {choice : machine.Choice} {thread other : ι}
    {state after : σ × (ι → γ)} {req : Req} {reply : Except ε (Reply req)}
    (performed : (machine.observe note).exec choice thread state req = some (reply, after))
    (different : other ≠ thread) : after.2 other = state.2 other := by
  -- A step writes the note of its own thread only.
  rw [(Machine.of_observe performed).2, Function.update_of_ne different]

/-- A configuration without its notes. -/
def Config.forget (config : Config ι ε Req Reply (σ × (ι → γ)) α) : Config ι ε Req Reply σ α :=
  ⟨config.state.1, config.threads⟩

/-- A noted step is a step. -/
theorem Step.forget {starts : ι → σ → Prog ε Req Reply α → Prop} {environment : σ → σ → Prop}
    {noted : ι → σ × (ι → γ) → Prog ε Req Reply α → Prop}
    {moves : σ × (ι → γ) → σ × (ι → γ) → Prop}
    (starting : ∀ thread state program, noted thread state program → starts thread state.1 program)
    (moving : ∀ before after, moves before after → environment before.1 after.1)
    {config config' : Config ι ε Req Reply (σ × (ι → γ)) α}
    (step : Step (machine.observe note) noted moves config config') :
    Step machine starts environment config.forget config'.forget := by
  -- Each step of the noted system is one of the system when the notes are dropped.
  cases step with
  | act running performed => exact .act running (Machine.of_observe performed).1
  | start idle allowed => exact .start idle (starting _ _ _ allowed)
  | crash thread => exact .crash thread
  | environment moved => exact .environment (moving _ _ moved)

/-- A noted run is a run. -/
theorem forget_run {starts : ι → σ → Prog ε Req Reply α → Prop} {environment : σ → σ → Prop}
    {noted : ι → σ × (ι → γ) → Prog ε Req Reply α → Prop}
    {moves : σ × (ι → γ) → σ × (ι → γ) → Prop}
    (starting : ∀ thread state program, noted thread state program → starts thread state.1 program)
    (moving : ∀ before after, moves before after → environment before.1 after.1)
    {config config' : Config ι ε Req Reply (σ × (ι → γ)) α}
    (run : Relation.ReflTransGen (Step (machine.observe note) noted moves) config config') :
    Relation.ReflTransGen (Step machine starts environment) config.forget config'.forget :=
  run.lift Config.forget fun _ _ step => step.forget starting moving

omit [DecidableEq ι] in
variable (ι ε Reply σ γ) in
/-- Threads leave the notes of each other alone. -/
def noteProtocol : Protocol ι ε Req Reply (σ × (ι → γ)) where
  invariant _ := True
  rely thread before after := after.2 thread = before.2 thread
  action _ _ _ _ _ := True
  rely_refl _ _ := rfl
  rely_trans _ _ _ _ early late := late.trans early

variable {thread : ι}

variable (machine) in
/-- What a request does to the note of its thread. -/
theorem Triple.noted (req : Req) (pre : γ → Prop) (post : Except ε (Reply req) → γ → Prop)
    (each : ∀ written, pre written → ∀ choice before reply after,
      machine.exec choice thread before req = some (reply, after) →
        post reply (note written before after)) :
    Triple (noteProtocol ι ε Reply σ γ) (machine.observe note) thread
      (fun state => pre (state.2 thread)) (Prog.call req)
      fun outcome state => post outcome (state.2 thread) := by
  -- Nobody else writes the note of a thread, so it still is what the thread left.
  refine Triple.call (fun before after held moved _ => by rwa [moved])
    fun before _ held choice reply after performed => ?_
  obtain ⟨acted, written⟩ := Machine.of_observe performed
  refine ⟨⟨trivial, fun other different => Machine.observe_other performed different, trivial⟩, ?_⟩
  rw [written, Function.update_self]
  exact each _ held choice before.1 reply after.1 acted

/-- A program of harmless requests keeps a note as it is. -/
theorem Triple.noted_of_only (pre : γ → Prop) {allowed : Req → Prop} {program : Prog ε Req Reply α}
    (requests : program.Only allowed)
    (each : ∀ written, pre written → ∀ req, allowed req → ∀ choice before reply after,
      machine.exec choice thread before req = some (reply, after) →
        pre (note written before after)) :
    Triple (noteProtocol ι ε Reply σ γ) (machine.observe note) thread
      (fun state => pre (state.2 thread)) program fun _ state => pre (state.2 thread) := by
  -- By induction on the program: every allowed request keeps the fact about the note.
  intro state held
  induction program generalizing state with
  | done value => exact held
  | raise error => exact held
  | request req next ih =>
    intro before moved _ choice reply after performed
    obtain ⟨acted, written⟩ := Machine.of_observe performed
    have known : pre (before.2 thread) := by rwa [moved]
    refine ⟨trivial, fun other different => Machine.observe_other performed different, trivial,
      ih reply (requests.2 reply) after ?_⟩
    rw [written, Function.update_self]
    exact each _ known req requests.1 choice before.1 reply after.1 acted

/-- Any program at all leaves the notes of others alone. -/
theorem Triple.unnoted {pre : σ × (ι → γ) → Prop} (program : Prog ε Req Reply α) :
    Triple (noteProtocol ι ε Reply σ γ) (machine.observe note) thread pre program
      fun _ _ => True := by
  -- Nothing is asked of the own note, so every program qualifies.
  have all : ∀ program : Prog ε Req Reply α, program.Only fun _ => True := by
    intro program
    induction program with
    | done value => trivial
    | raise error => trivial
    | request req next ih => exact ⟨trivial, ih⟩
  exact (Triple.noted_of_only (fun _ => True) (all program)
    fun _ _ _ _ _ _ _ _ _ => trivial).weaken (fun _ _ => trivial) fun _ _ _ => trivial

end

end Foundation
