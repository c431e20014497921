import Cislunar.Services.PayloadWorker

/-! Runs of the ground system that are written down as schedules. -/

namespace Cislunar

open Foundation

/-- The ground system with every fault of its connections. -/
def groundMachine : Machine Nat Failure Request Request.Reply Ground :=
  Ground.machine fun _ => True

/-- The steps of the ground system. -/
abbrev GroundStep : GroundConfig → GroundConfig → Prop :=
  Step groundMachine startsProcess Ground.Ticks

/-- The ground system in which no repository call decides on an object whose row has changed. -/
abbrev currentMachine : Machine Nat Failure Request Request.Reply Ground :=
  groundMachine.restrict Ground.isCurrent

/-- The steps of the ground system in which no call decides on an outdated object. -/
abbrev CurrentStep : GroundConfig → GroundConfig → Prop :=
  Step currentMachine startsProcess Ground.Ticks

/-- The steps of a ground system, where it is fixed which process runs in which place. -/
abbrev AssignedStep (system : Machine Nat Failure Request Request.Reply Ground)
    (assign : Nat → Process) : GroundConfig → GroundConfig → Prop :=
  Step system (fun thread _ program => program = (assign thread).program) Ground.Ticks

/-- One entry of a schedule. -/
inductive Event where
  | start (thread : Nat) (process : Process)
  /-- A process makes its next request, which generates the given identifier at most. -/
  | act (thread : Nat) (id : UUID) (fault : Fault)
  | crash (thread : Nat)
  | tick (duration : Nat)

/-- An event of a schedule with both stores reachable. -/
def Event.undisturbed : Event → Bool
  | .act _ _ fault => fault = .none
  | _ => true

namespace GroundConfig

/-- The configuration after an event; an event that does not apply has no effect. -/
def perform (config : GroundConfig) : Event → GroundConfig
  | .start thread process =>
    match config.threads thread with
    | none => ⟨config.state, Function.update config.threads thread (some process.program)⟩
    | some _ => config
  | .act thread id fault => config.act groundMachine thread (fun _ => id, ⟨fault, trivial⟩)
  | .crash thread => ⟨config.state, Function.update config.threads thread none⟩
  | .tick duration =>
    ⟨{ config.state with clock := config.state.clock + duration }, config.threads⟩

/-- An event that has an effect is a step of the system. -/
theorem perform_step (config : GroundConfig) (event : Event) :
    config.perform event = config ∨ GroundStep config (config.perform event) := by
  -- One case per event; a turn of a thread without a request and a second start have no effect.
  cases event with
  | start thread process =>
    rw [perform]
    split
    next idle => exact Or.inr (.start idle ⟨process, rfl⟩)
    next => exact Or.inl rfl
  | act thread id fault =>
    rw [perform]
    unfold Config.act
    split
    next request next running => exact Or.inr (.act running rfl)
    next => exact Or.inl rfl
  | crash thread => exact Or.inr (.crash thread)
  | tick duration =>
    have forward : config.state.clock ≤ config.state.clock + duration :=
      Int.le_add_of_nonneg_right (Int.natCast_nonneg duration)
    exact Or.inr (.environment ⟨_, forward, rfl⟩)

/-- An event is a step of the system, if anything. -/
theorem perform_run (config : GroundConfig) (event : Event) :
    Relation.ReflTransGen GroundStep config (config.perform event) := by
  -- An event that cannot take place changes nothing.
  rcases config.perform_step event with same | step
  · rw [same]
  · exact .single step

/-- The configuration that a schedule leads to from the empty stores. -/
def after (schedule : List Event) : GroundConfig :=
  schedule.foldl perform initial

/-- Every schedule is a run. -/
theorem after_run (schedule : List Event) :
    Relation.ReflTransGen GroundStep initial (after schedule) := by
  -- On the schedule, from any configuration.
  have continued : ∀ config, Relation.ReflTransGen GroundStep config
      (schedule.foldl perform config) := by
    induction schedule with
    | nil => exact fun _ => .refl
    | cons event rest ih => exact fun config => (config.perform_run event).trans (ih _)
  exact continued initial

/-- Every request that a schedule makes is allowed in the state it is made in. -/
def allows (allowed : Ground → Request → Bool) (config : GroundConfig) : List Event → Bool
  | [] => true
  | event :: rest =>
    (match event with
      | .act thread _ _ =>
        match config.threads thread with
        | some (.request request _) => allowed config.state request
        | _ => true
      -- Only acts make requests.
      | _ => true) && (config.perform event).allows allowed rest

/-- An allowed event is a step under the restriction, if anything. -/
theorem perform_run_restrict {allowed : Ground → Request → Bool} {config : GroundConfig}
    {event : Event} {rest : List Event} (permitted : config.allows allowed (event :: rest) = true) :
    Relation.ReflTransGen (Step (groundMachine.restrict allowed) startsProcess Ground.Ticks) config
      (config.perform event) := by
  -- The same cases; the permission is asked for the request that the thread is about to make.
  obtain ⟨head, _⟩ := Bool.and_eq_true_iff.mp permitted
  cases event with
  | start thread process =>
    rw [perform]
    split
    next idle => exact .single (.start idle ⟨process, rfl⟩)
    next => exact .refl
  | act thread id fault =>
    rw [perform]
    unfold Config.act
    split
    next request next running =>
      dsimp only at head
      rw [running] at head
      exact .single (.act running (if_pos head))
    next => exact .refl
  | crash thread => exact .single (.crash thread)
  | tick duration =>
    have forward : config.state.clock ≤ config.state.clock + duration :=
      Int.le_add_of_nonneg_right (Int.natCast_nonneg duration)
    exact .single (.environment ⟨_, forward, rfl⟩)

/-- A schedule of allowed requests is a run under the restriction. -/
theorem after_run_restrict {allowed : Ground → Request → Bool} {schedule : List Event}
    (permitted : initial.allows allowed schedule = true) :
    Relation.ReflTransGen (Step (groundMachine.restrict allowed) startsProcess Ground.Ticks) initial
      (after schedule) := by
  -- By induction on the schedule, from any configuration.
  have continued : ∀ config : GroundConfig, config.allows allowed schedule = true →
      Relation.ReflTransGen (Step (groundMachine.restrict allowed) startsProcess Ground.Ticks) config
        (schedule.foldl perform config) := by
    clear permitted
    induction schedule with
    | nil => exact fun _ _ => .refl
    | cons event rest ih =>
      intro config permitted
      exact (perform_run_restrict permitted).trans (ih _ (Bool.and_eq_true_iff.mp permitted).2)
  exact continued initial permitted

end GroundConfig

/-- Settings with three short tokens. -/
def sampleSettings : GroundSettings where
  vendorToken := "vendor"
  operatorToken := "operator"
  adminToken := "admin"
  tokensPresent := by decide
  tokensDistinct := by decide
  bodyLimit := by decide
  attemptLimit := by decide

/-- A well-formed request that carries a body. -/
def sampleRequest (rawBody : Bytes) : VendorRequest where
  vendorToken := some "vendor"
  requestId := some "00000000-0000-4000-8000-000000000001"
  contentType := some "application/octet-stream"
  contentLength := none
  chunks := [rawBody]

end Cislunar
