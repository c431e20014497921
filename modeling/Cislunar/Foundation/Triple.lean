import Cislunar.Foundation.Program

/-!
Pre- and postconditions for programs that run among others.

A triple says that a program follows a protocol from every state with the precondition. What one of
its requests relies on has to survive the actions of the other threads.
-/

namespace Foundation

section
variable {ι ε Req : Type} {Reply : Req → Type} {σ α β : Type}
variable (protocol : Protocol ι ε Req Reply σ) (machine : Machine ι ε Req Reply σ) (thread : ι)

/-- A fact that the other threads cannot take away. -/
def Kept (fact : σ → Prop) : Prop :=
  ∀ before after, fact before → protocol.rely thread before after → protocol.invariant after →
    fact after

/-- A fact that a relation between states preserves. -/
def Lasting (later : σ → σ → Prop) (fact : σ → Prop) : Prop :=
  ∀ before after, fact before → later before after → fact after

/-- An action that the protocol permits. -/
structure Permitted (before : σ) (req : Req) (reply : Except ε (Reply req)) (after : σ) : Prop where
  invariant : protocol.invariant after
  tolerated : ∀ other, other ≠ thread → protocol.rely other before after
  action : protocol.action thread before req reply after

/-- From every state with the precondition a program follows the protocol to its postcondition. -/
def Triple (pre : σ → Prop) (program : Prog ε Req Reply α) (post : Except ε α → σ → Prop) : Prop :=
  ∀ state, pre state → Safe protocol machine thread post program state

variable {protocol machine thread} {pre : σ → Prop}

/-- What holds whatever the state is cannot be taken away. -/
theorem Kept.const (fact : Prop) : Kept protocol thread fun _ => fact :=
  fun _ _ held _ _ => held

/-- Two facts are kept together. -/
theorem Kept.and {first second : σ → Prop} (left : Kept protocol thread first)
    (right : Kept protocol thread second) :
    Kept protocol thread fun state => first state ∧ second state :=
  fun before after held moved valid =>
    ⟨left before after held.1 moved valid, right before after held.2 moved valid⟩

namespace Lasting
variable {later : σ → σ → Prop} {first second : σ → Prop}

/-- What is always true lasts. -/
theorem always : Lasting later fun _ => True := fun _ _ _ _ => trivial

/-- What does not depend on the state lasts. -/
theorem const (fact : Prop) : Lasting later fun _ => fact := fun _ _ held _ => held

/-- Two facts last together. -/
theorem and (left : Lasting later first) (right : Lasting later second) :
    Lasting later fun state => first state ∧ second state :=
  fun before after held moved =>
    ⟨left before after held.1 moved, right before after held.2 moved⟩

end Lasting

namespace Triple

/-- A returned value needs nothing but its postcondition. -/
theorem done {value : α} {post : Except ε α → σ → Prop}
    (reached : ∀ state, pre state → post (.ok value) state) :
    Triple protocol machine thread pre (.done value) post :=
  reached

/-- A raised error needs nothing but its postcondition. -/
theorem raise {error : ε} {post : Except ε α → σ → Prop}
    (reached : ∀ state, pre state → post (.error error) state) :
    Triple protocol machine thread pre (.raise error) post :=
  reached

/-- A request may rely on a kept precondition when it acts. -/
theorem call {req : Req} {post : Except ε (Reply req) → σ → Prop}
    (kept : Kept protocol thread pre)
    (each : ∀ before, protocol.invariant before → pre before →
      ∀ choice reply after, machine.exec choice thread before req = some (reply, after) →
        Permitted protocol thread before req reply after ∧ post reply after) :
    Triple protocol machine thread pre (Prog.call req) post := by
  -- The precondition still holds when the request is made, since it is kept until then.
  intro state held
  refine Safe.call fun before moved valid choice reply after performed => ?_
  obtain ⟨permitted, reached⟩ :=
    each before valid (kept state before held moved valid) choice reply after performed
  exact ⟨permitted.invariant, permitted.tolerated, permitted.action, reached⟩

/-- A sequence meets in the middle. -/
theorem bind {program : Prog ε Req Reply α} {after : α → Prog ε Req Reply β}
    {middle : α → σ → Prop} {post : Except ε β → σ → Prop}
    (first : Triple protocol machine thread pre program fun outcome state =>
      (∀ value, outcome = .ok value → middle value state) ∧
      (∀ error, outcome = .error error → post (.error error) state))
    (second : ∀ value, Triple protocol machine thread (middle value) (after value) post) :
    Triple protocol machine thread pre (program >>= after) post := by
  -- The middle condition is where the second program starts.
  intro state held
  refine Safe.bind ((first state held).weaken fun outcome reached both => ?_)
  cases outcome with
  | ok value => exact second value reached (both.1 value rfl)
  | error error => exact both.2 error rfl

/-- Nothing is known after the first program; a failure of it needs no explanation. -/
theorem andThen {program : Prog ε Req Reply α} {after : α → Prog ε Req Reply β}
    {post : Except ε β → σ → Prop}
    (first : Triple protocol machine thread pre program fun _ _ => True)
    (failed : ∀ error state, post (.error error) state)
    (second : ∀ value, Triple protocol machine thread (fun _ => True) (after value) post) :
    Triple protocol machine thread pre (program >>= after) post := by
  -- Whatever the first program has reached, the second one starts from it.
  intro state held
  refine Safe.bind ((first state held).weaken fun outcome reached _ => ?_)
  cases outcome with
  | ok value => exact second value reached trivial
  | error error => exact failed error reached

/-- A handler takes over where its body raises. -/
theorem tryCatch {program : Prog ε Req Reply α} {handler : ε → Prog ε Req Reply α}
    {middle : ε → σ → Prop} {post : Except ε α → σ → Prop}
    (body : Triple protocol machine thread pre program fun outcome state =>
      (∀ value, outcome = .ok value → post (.ok value) state) ∧
      (∀ error, outcome = .error error → middle error state))
    (second : ∀ error, Triple protocol machine thread (middle error) (handler error) post) :
    Triple protocol machine thread pre (program.tryCatch handler) post := by
  -- The middle condition is where the handler starts.
  intro state held
  refine Safe.tryCatch ((body state held).weaken fun outcome reached both => ?_)
  cases outcome with
  | ok value => exact both.1 value rfl
  | error error => exact second error reached (both.2 error rfl)

/-- A fact that no thread takes away can be carried over any program. -/
theorem frame {fact : σ → Prop} {program : Prog ε Req Reply α} {post : Except ε α → σ → Prop}
    {other : ι} (different : other ≠ thread) (kept : Kept protocol thread fact)
    (spared : Kept protocol other fact) (triple : Triple protocol machine thread pre program post) :
    Triple protocol machine thread (fun state => pre state ∧ fact state) program
      fun outcome state => post outcome state ∧ fact state := by
  rintro state ⟨held, known⟩
  have safe := triple state held
  clear held triple
  -- Another thread tolerates each action of the program, so the fact survives that too.
  induction program generalizing state with
  | done value => exact ⟨safe, known⟩
  | raise error => exact ⟨safe, known⟩
  | request req next ih =>
    intro before moved valid choice reply after performed
    obtain ⟨invariant, tolerated, acted, rest⟩ := safe before moved valid choice reply after performed
    have still := kept state before known moved valid
    exact ⟨invariant, tolerated, acted,
      ih reply after (spared before after still (tolerated other different) invariant) rest⟩

/-- A stronger precondition and a weaker postcondition ask less. -/
theorem weaken {stronger : σ → Prop} {program : Prog ε Req Reply α}
    {post weaker : Except ε α → σ → Prop}
    (triple : Triple protocol machine thread pre program post)
    (before : ∀ state, stronger state → pre state)
    (after : ∀ outcome state, post outcome state → weaker outcome state) :
    Triple protocol machine thread stronger program weaker :=
  fun state held => (triple state (before state held)).weaken after

end Triple

end

end Foundation
