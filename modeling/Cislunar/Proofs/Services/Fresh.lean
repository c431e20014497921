import Cislunar.Proofs.Telemetry.IdentityMap
import Cislunar.Services.Schedule

/-!
Runs in which no call decides on an object whose row has changed.

In such a run every call does what it would do if it read its rows anew, so the run is one of a
machine on which no session holds anything.
-/

namespace Cislunar

open Foundation

namespace Ground

/-- The effect of a request whose repository call reads its rows anew. -/
def performFresh (uuid4 : Nat → UUID) (fault : Fault) (ground : Ground) :
    (request : Request) → Except Failure request.Reply × Ground
  | .clock => (.ok ground.clock, ground)
  | .repository call _ =>
    let outcome := call.exec ⟨uuid4, ground.clock⟩ ground.database
    fault.apply (.storage .database)
      (outcome.1.mapError .storage, { ground with database := outcome.2 }) ground
  | .queue call =>
    let outcome := call.exec ground.queue
    fault.apply (.queue .redis)
      (outcome.1.mapError .queue, { ground with queue := outcome.2 }) ground

/-- Who decides on current objects need not read the rows anew. -/
theorem perform_current {uuid4 : Nat → UUID} {fault : Fault} {ground : Ground} {request : Request}
    (current : ground.isCurrent request = true) :
    ground.perform uuid4 fault request = ground.performFresh uuid4 fault request := by
  -- Only a repository call looks at the object its caller holds.
  cases request with
  | clock | queue => rfl
  | repository call held =>
    rw [perform, performFresh, call.execHolding_current _ current]

/-- The effect of such a request with both stores reachable. -/
def serveFresh (uuid4 : Nat → UUID) (request : Request) (ground : Ground) :
    Except Failure request.Reply × Ground :=
  ground.performFresh uuid4 .none request

/-- The shared state as a machine on which every call reads its rows anew. -/
def freshMachine (possible : Fault → Prop) :
    Machine Nat Failure Request Request.Reply Ground where
  Choice := (Nat → UUID) × { fault : Fault // possible fault }
  exec choice _ ground request := some (ground.performFresh choice.1 choice.2 request)

/-- What is performed on current objects is performed on the rows. -/
theorem freshMachine_exec {possible : Fault → Prop}
    {choice : (Nat → UUID) × { fault : Fault // possible fault }} {thread : Nat}
    {ground after : Ground} {request : Request} {reply : Except Failure request.Reply}
    (current : ground.isCurrent request = true)
    (performed : (machine possible).exec choice thread ground request = some (reply, after)) :
    (freshMachine possible).exec choice thread ground request = some (reply, after) := by
  -- The two machines differ in what a call does with an object that is not current.
  rw [← performed]
  exact congrArg some (perform_current current).symm

end Ground

/-- What is performed where objects are current is performed on the rows. -/
theorem currentMachine_exec {choice : currentMachine.Choice} {thread : Nat} {ground after : Ground}
    {request : Request} {reply : Except Failure request.Reply}
    (performed : currentMachine.exec choice thread ground request = some (reply, after)) :
    ground.performFresh choice.1 choice.2 request = (reply, after) := by
  -- A step of the confined machine holds a current object.
  obtain ⟨current, done⟩ := Machine.of_restrict performed
  exact Option.some.inj (Ground.freshMachine_exec current done)

/-- The steps of the ground system whose calls read their rows anew. -/
abbrev FreshStep : GroundConfig → GroundConfig → Prop :=
  Step (Ground.freshMachine fun _ => True) startsProcess Ground.Ticks

/-- A step in which no call decides on an outdated object is a step on the rows. -/
theorem Step.fresh {α : Type} {possible : Fault → Prop}
    {starts : Nat → Ground → Service α → Prop} {environment : Ground → Ground → Prop}
    {config config' : Config Nat Failure Request Request.Reply Ground α}
    (step : Step ((Ground.machine possible).restrict Ground.isCurrent) starts environment config
      config') : Step (Ground.freshMachine possible) starts environment config config' := by
  -- Only an act performs a request, and with current objects it does what it does on the rows.
  cases step with
  | act running performed =>
    obtain ⟨current, done⟩ := Machine.of_restrict performed
    exact .act running (Ground.freshMachine_exec current done)
  | start idle permitted => exact .start idle permitted
  | crash thread => exact .crash thread
  | environment moved => exact .environment moved

end Cislunar
