import Cislunar.Foundation.Triple

/-!
What the programs of a run see is what the states of the run hold.

The states that a run passes through are fixed once the run is given. The run is then one of a
machine that never leaves them, and whatever a program reads there is read in one of them.
-/

namespace Foundation

section
variable {ι ε Req : Type} {Reply : Req → Type} {σ α : Type}

/-- A machine that never leaves some states. -/
noncomputable def Machine.confine (machine : Machine ι ε Req Reply σ) (within : σ → Prop) :
    Machine ι ε Req Reply σ where
  Choice := machine.Choice
  exec choice thread state req := by
    classical
    exact (machine.exec choice thread state req).filter fun outcome => within outcome.2

/-- What is performed within some states is performed without them, and stays within. -/
theorem Machine.confine_exec {machine : Machine ι ε Req Reply σ} {within : σ → Prop}
    {choice : machine.Choice} {thread : ι} {state after : σ} {req : Req}
    {reply : Except ε (Reply req)} :
    (machine.confine within).exec choice thread state req = some (reply, after) ↔
      machine.exec choice thread state req = some (reply, after) ∧ within after := by
  -- A confined step is filtered by where it leads.
  simp [Machine.confine, Option.filter_eq_some_iff]

/-- Within some states a machine does less. -/
theorem Machine.Narrows.confine {narrow machine : Machine ι ε Req Reply σ}
    (narrows : narrow.Narrows machine) (within : σ → Prop) :
    (narrow.confine within).Narrows (machine.confine within) := by
  -- Confinement only restricts where a step may lead, so the wider step may lead there too.
  rintro choice thread state req ⟨reply, after⟩ performed
  obtain ⟨done, stays⟩ := Machine.confine_exec.mp performed
  obtain ⟨choice', wider⟩ := narrows choice thread state req _ done
  exact ⟨choice', Machine.confine_exec.mpr ⟨wider, stays⟩⟩

/-- A protocol in which every state is among some states. -/
def Protocol.confine (protocol : Protocol ι ε Req Reply σ) (within : σ → Prop) :
    Protocol ι ε Req Reply σ where
  invariant state := protocol.invariant state ∧ within state
  rely := protocol.rely
  action := protocol.action
  rely_refl := protocol.rely_refl
  rely_trans := protocol.rely_trans

variable {protocol : Protocol ι ε Req Reply σ} {machine : Machine ι ε Req Reply σ} {thread : ι}
variable {within : σ → Prop}

/-- A program that follows a protocol follows it within any states. -/
theorem Safe.confine {program : Prog ε Req Reply α} {post : Except ε α → σ → Prop} {state : σ}
    (safe : Safe protocol machine thread post program state) :
    Safe (protocol.confine within) (machine.confine within) thread post program state := by
  -- By induction on the program: a step within the states is a step, and it ends within them.
  induction program generalizing state with
  | done value => exact safe
  | raise error => exact safe
  | request req next ih =>
    intro before moved held choice reply after performed
    obtain ⟨done, stays⟩ := Machine.confine_exec.mp performed
    obtain ⟨kept, tolerated, acted, rest⟩ := safe before moved held.1 choice reply after done
    exact ⟨⟨kept, stays⟩, tolerated, acted, ih reply rest⟩

/-- A triple holds within any states. -/
theorem Triple.confine {pre : σ → Prop} {program : Prog ε Req Reply α}
    {post : Except ε α → σ → Prop} (triple : Triple protocol machine thread pre program post) :
    Triple (protocol.confine within) (machine.confine within) thread pre program post :=
  fun state held => (triple state held).confine

variable [DecidableEq ι] {starts : ι → σ → Prog ε Req Reply α → Prop} {environment : σ → σ → Prop}
variable {first last config config' : Config ι ε Req Reply σ α}

/-- A step into one of some states is a step within them. -/
theorem Step.confine (step : Step machine starts environment config config')
    (stays : within config'.state) :
    Step (machine.confine within) starts (fun before after => environment before after ∧
      within after) config config' := by
  -- Only acts and moves of the environment change the state.
  cases step with
  | act running performed => exact .act running (Machine.confine_exec.mpr ⟨performed, stays⟩)
  | start idle allowed => exact .start idle allowed
  | crash thread => exact .crash thread
  | environment moved => exact .environment ⟨moved, stays⟩

/-- The states that runs between two configurations pass through. -/
def Between (step : Config ι ε Req Reply σ α → Config ι ε Req Reply σ α → Prop)
    (first last : Config ι ε Req Reply σ α) (state : σ) : Prop :=
  ∃ config, Relation.ReflTransGen step first config ∧ Relation.ReflTransGen step config last ∧
    config.state = state

/-- A run is a run within the states that it passes through. -/
theorem confined_run (run : Relation.ReflTransGen (Step machine starts environment) first last) :
    Relation.ReflTransGen (Step (machine.confine (Between (Step machine starts environment) first
      last)) starts fun before after => environment before after ∧
        Between (Step machine starts environment) first last after) first last := by
  generalize shown : Between (Step machine starts environment) first last = within
  have inside : ∀ config, Relation.ReflTransGen (Step machine starts environment) first config →
      Relation.ReflTransGen (Step machine starts environment) config last → within config.state :=
    fun config early late => shown ▸ ⟨config, early, late, rfl⟩
  clear shown
  -- By induction on the run, each of whose configurations is on the way to the last.
  induction run with
  | refl => exact .refl
  | tail before step ih =>
    refine .tail (ih fun config early late => inside config early (late.tail step)) ?_
    exact step.confine (inside _ (before.tail step) .refl)

end

end Foundation
