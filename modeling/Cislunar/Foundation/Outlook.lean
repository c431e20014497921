import Cislunar.Foundation.Program

/-!
What lies ahead of a program that runs among others.

Some requests let a program pass; a wanted request is ahead when the program comes to it through
such requests alone. A program is provident when, each time it goes on from a request that does not
let it pass, the state provides for whatever is ahead of it then. It may count on the state before
the request to have provided for what was ahead already.
-/

namespace Foundation

namespace Prog
variable {ε Req : Type} {Reply : Req → Type} {α β : Type}
variable (passes : (req : Req) → Except ε (Reply req) → Prop) (wanted : Req → Prop)

/-- A program comes to a wanted request, through requests that let it pass. -/
def Ahead : Prog ε Req Reply α → Prop
  | done _ => False
  | raise _ => False
  | request req next => wanted req ∨ ∃ reply, passes req reply ∧ Ahead (next reply)

/-- A program comes to an end, through requests that let it pass. -/
def Ends : Prog ε Req Reply α → Except ε α → Prop
  | done value, outcome => outcome = .ok value
  | raise error, outcome => outcome = .error error
  | request req next, outcome => ∃ reply, passes req reply ∧ Ends (next reply) outcome

variable {passes wanted}

/-- What is ahead is ahead where more is wanted. -/
theorem Ahead.mono {more : Req → Prop} {program : Prog ε Req Reply α}
    (ahead : program.Ahead passes wanted) (wider : ∀ req, wanted req → more req) :
    program.Ahead passes more := by
  -- On the program: each request ahead is passed or wanted as before.
  induction program with
  | done value => exact ahead
  | raise error => exact ahead
  | request req next ih =>
    exact ahead.imp (wider req) fun ⟨reply, passed, later⟩ => ⟨reply, passed, ih reply later⟩

/-- Nothing is ahead of a program that makes no wanted request at all. -/
theorem not_ahead_of_only {program : Prog ε Req Reply α}
    (requests : program.Only fun req => ¬wanted req) : ¬program.Ahead passes wanted := by
  -- By induction on the program: what is ahead is its request, or ahead of a sequel.
  induction program with
  | done value => exact id
  | raise error => exact id
  | request req next ih =>
    rintro (now | ⟨reply, -, later⟩)
    · exact requests.1 now
    · exact ih reply (requests.2 reply) later

/-- Nothing is ahead where nothing is wanted. -/
theorem not_ahead_of_unwanted {program : Prog ε Req Reply α} (unwanted : ∀ req, ¬wanted req) :
    ¬program.Ahead passes wanted := by
  -- By induction on the program, whose request is as unwanted as those of its sequels.
  induction program with
  | done value => exact id
  | raise error => exact id
  | request req next ih =>
    rintro (now | ⟨reply, -, later⟩)
    · exact unwanted req now
    · exact ih reply later

/-- What is ahead of the first program of a sequence is ahead of the sequence. -/
theorem Ahead.bind {program : Prog ε Req Reply α} (ahead : program.Ahead passes wanted)
    (after : α → Prog ε Req Reply β) : (program >>= after).Ahead passes wanted := by
  -- On the head: what is ahead of it is ahead of the sequence.
  induction program with
  | done value => exact ahead.elim
  | raise error => exact ahead.elim
  | request req next ih =>
    exact ahead.imp_right fun ⟨reply, passed, later⟩ => ⟨reply, passed, ih reply later⟩

/-- What is ahead of a body is ahead of the guarded program. -/
theorem Ahead.tryCatch {program : Prog ε Req Reply α} (ahead : program.Ahead passes wanted)
    (handler : ε → Prog ε Req Reply α) : (program.tryCatch handler).Ahead passes wanted := by
  -- On the body: what is ahead of it is met before the handler can run.
  induction program with
  | done value => exact ahead.elim
  | raise error => exact ahead.elim
  | request req next ih =>
    exact ahead.imp_right fun ⟨reply, passed, later⟩ => ⟨reply, passed, ih reply later⟩

/-- What is ahead of a sequence is ahead of its first program, or of the second at an end. -/
theorem ahead_bind {program : Prog ε Req Reply α} {after : α → Prog ε Req Reply β}
    (ahead : (program >>= after).Ahead passes wanted) : program.Ahead passes wanted ∨
      ∃ value, program.Ends passes (.ok value) ∧ (after value).Ahead passes wanted := by
  -- By induction on the first program, whose value ends it and hands over to the second.
  induction program with
  | done value => exact Or.inr ⟨value, rfl, ahead⟩
  | raise error => exact ahead.elim
  | request req next ih =>
    rcases ahead with now | ⟨reply, passed, later⟩
    · exact Or.inl (Or.inl now)
    · rcases ih reply later with inside | ⟨value, ends, beyond⟩
      · exact Or.inl (Or.inr ⟨reply, passed, inside⟩)
      · exact Or.inr ⟨value, ⟨reply, passed, ends⟩, beyond⟩

/-- A sequence ends with its second program, or where the first raises. -/
theorem ends_bind {program : Prog ε Req Reply α} {after : α → Prog ε Req Reply β}
    {outcome : Except ε β} (ends : (program >>= after).Ends passes outcome) :
    (∃ value, program.Ends passes (.ok value) ∧ (after value).Ends passes outcome) ∨
      ∃ error, program.Ends passes (.error error) ∧ outcome = .error error := by
  -- By induction on the first program: the second goes on from a value, an error is the end.
  induction program with
  | done value => exact Or.inl ⟨value, rfl, ends⟩
  | raise error => exact Or.inr ⟨error, rfl, ends⟩
  | request req next ih =>
    obtain ⟨reply, passed, later⟩ := ends
    rcases ih reply later with ⟨value, first, second⟩ | ⟨error, first, same⟩
    · exact Or.inl ⟨value, ⟨reply, passed, first⟩, second⟩
    · exact Or.inr ⟨error, ⟨reply, passed, first⟩, same⟩

/-- What is ahead of a guarded program is ahead of its body, or of the handler where it raises. -/
theorem ahead_tryCatch {program : Prog ε Req Reply α} {handler : ε → Prog ε Req Reply α}
    (ahead : (program.tryCatch handler).Ahead passes wanted) : program.Ahead passes wanted ∨
      ∃ error, program.Ends passes (.error error) ∧ (handler error).Ahead passes wanted := by
  -- By induction on the body, whose error ends it and hands over to the handler.
  induction program with
  | done value => exact ahead.elim
  | raise error => exact Or.inr ⟨error, rfl, ahead⟩
  | request req next ih =>
    rcases ahead with now | ⟨reply, passed, later⟩
    · exact Or.inl (Or.inl now)
    · rcases ih reply later with inside | ⟨error, ends, beyond⟩
      · exact Or.inl (Or.inr ⟨reply, passed, inside⟩)
      · exact Or.inr ⟨error, ⟨reply, passed, ends⟩, beyond⟩

/-- A guarded program ends with its body, or with the handler where the body raises. -/
theorem ends_tryCatch {program : Prog ε Req Reply α} {handler : ε → Prog ε Req Reply α}
    {outcome : Except ε α} (ends : (program.tryCatch handler).Ends passes outcome) :
    (∃ value, program.Ends passes (.ok value) ∧ outcome = .ok value) ∨
      ∃ error, program.Ends passes (.error error) ∧ (handler error).Ends passes outcome := by
  -- By induction on the body: a value is the end, the handler goes on from an error.
  induction program with
  | done value => exact Or.inl ⟨value, rfl, ends⟩
  | raise error => exact Or.inr ⟨error, rfl, ends⟩
  | request req next ih =>
    obtain ⟨reply, passed, later⟩ := ends
    rcases ih reply later with ⟨value, first, same⟩ | ⟨error, first, second⟩
    · exact Or.inl ⟨value, ⟨reply, passed, first⟩, same⟩
    · exact Or.inr ⟨error, ⟨reply, passed, first⟩, second⟩

end Prog

section
variable {ι ε Req : Type} {Reply : Req → Type} {σ α β : Type}
variable (passes : (req : Req) → Except ε (Reply req) → Prop)

/-- Every request ahead of a program is fit, and the ends ahead satisfy a condition. -/
structure Provided (fit : Req → Prop) (post : Except ε α → Prop) (program : Prog ε Req Reply α) :
    Prop where
  ahead : ¬program.Ahead passes fun req => ¬fit req
  ends : ∀ outcome, program.Ends passes outcome → post outcome

variable {passes} {fit : Req → Prop}

namespace Provided

/-- Nothing is ahead of a program that has returned. -/
theorem done {value : α} {post : Except ε α → Prop} (reached : post (.ok value)) :
    Provided passes fit post (.done value : Prog ε Req Reply α) :=
  ⟨id, fun _ same => same ▸ reached⟩

/-- Nothing is ahead of a program that has raised. -/
theorem raise {error : ε} {post : Except ε α → Prop} (reached : post (.error error)) :
    Provided passes fit post (.raise error : Prog ε Req Reply α) :=
  ⟨id, fun _ same => same ▸ reached⟩

/-- One request has to be fit, and ends with the replies that let it pass. -/
theorem call {req : Req} {post : Except ε (Reply req) → Prop} (now : fit req)
    (reached : ∀ reply, passes req reply → post reply) :
    Provided passes fit post (Prog.call req : Prog ε Req Reply _) := by
  -- A single request is all that is ahead, and it ends with the reply to it.
  refine ⟨?_, ?_⟩
  · rintro (unfit | ⟨reply, -, later⟩)
    · exact unfit now
    · cases reply <;> exact later.elim
  · rintro outcome ⟨reply, passed, ends⟩
    have same : outcome = reply := by cases reply <;> exact ends
    exact same ▸ reached reply passed

/-- Nothing else is ahead of a request that lets nothing pass. -/
theorem barred (req : Req) {post : Except ε (Reply req) → Prop} (now : fit req)
    (bars : ∀ reply, ¬passes req reply) :
    Provided passes fit post (Prog.call req : Prog ε Req Reply _) :=
  .call now fun reply passed => absurd passed (bars reply)

/-- What is ahead of a sequence is ahead of its first program, or of the second where that ends. -/
theorem bind {program : Prog ε Req Reply α} {after : α → Prog ε Req Reply β}
    {post : Except ε β → Prop}
    (first : Provided passes fit (fun outcome =>
      match outcome with
      | .ok value => Provided passes fit post (after value)
      | .error error => post (.error error)) program) :
    Provided passes fit post (program >>= after) := by
  -- What is ahead and where it ends are split where the first program ends.
  refine ⟨fun ahead => ?_, fun outcome ends => ?_⟩
  · rcases Prog.ahead_bind ahead with inside | ⟨value, reached, beyond⟩
    · exact first.ahead inside
    · exact (first.ends _ reached).ahead beyond
  · rcases Prog.ends_bind ends with ⟨value, reached, beyond⟩ | ⟨error, reached, rfl⟩
    · exact (first.ends _ reached).ends _ beyond
    · exact first.ends _ reached

/-- What is ahead of a guarded program is ahead of its body, or of the handler where that raises. -/
theorem tryCatch {program : Prog ε Req Reply α} {handler : ε → Prog ε Req Reply α}
    {post : Except ε α → Prop}
    (body : Provided passes fit (fun outcome =>
      match outcome with
      | .ok value => post (.ok value)
      | .error error => Provided passes fit post (handler error)) program) :
    Provided passes fit post (program.tryCatch handler) := by
  -- What is ahead and where it ends are split where the body raises.
  refine ⟨fun ahead => ?_, fun outcome ends => ?_⟩
  · rcases Prog.ahead_tryCatch ahead with inside | ⟨error, reached, beyond⟩
    · exact body.ahead inside
    · exact (body.ends _ reached).ahead beyond
  · rcases Prog.ends_tryCatch ends with ⟨value, reached, rfl⟩ | ⟨error, reached, beyond⟩
    · exact body.ends _ reached
    · exact (body.ends _ reached).ends _ beyond

/-- Everything is provided for where every request is fit. -/
theorem of_fit {program : Prog ε Req Reply α} (enough : ∀ req, fit req) :
    Provided passes fit (fun _ => True) program :=
  ⟨Prog.not_ahead_of_unwanted fun req unfit => unfit (enough req), fun _ _ => trivial⟩

/-- A weaker condition on the ends asks less. -/
theorem weaken {program : Prog ε Req Reply α} {post weaker : Except ε α → Prop}
    (provided : Provided passes fit post program)
    (implies : ∀ outcome, post outcome → weaker outcome) :
    Provided passes fit weaker program :=
  ⟨provided.ahead, fun outcome ends => implies outcome (provided.ends outcome ends)⟩

end Provided

variable (passes) (does : σ → (req : Req) → Except ε (Reply req) → σ → Prop) (need : σ → Req → Prop)

/--
Each request that a program makes lets it pass, or leaves a state that provides for the rest.

Before the request the state has provided for what was ahead.
-/
def Provident (post : Except ε α → σ → Prop) : Prog ε Req Reply α → Prop
  | .done _ => True
  | .raise _ => True
  | .request req next => ∀ reply, Provident post (next reply) ∧
      ∀ before after, does before req reply after →
        (¬(Prog.request req next).Ahead passes fun wanted => ¬need before wanted) →
          passes req reply ∨ Provided passes (need after) (post · after) (next reply)

variable {passes does need}

namespace Provident

/-- A single request is provident when its executions let it pass or meet the condition. -/
theorem call {req : Req} {post : Except ε (Reply req) → σ → Prop}
    (each : ∀ before reply after, does before req reply after →
      passes req reply ∨ post reply after) :
    Provident passes does need post (Prog.call req : Prog ε Req Reply _) := by
  -- After the one request the program has ended, so either it passed or the outcome is final.
  refine fun reply => ⟨by cases reply <;> trivial, fun before after performed _ => ?_⟩
  rcases each before reply after performed with passed | reached
  · exact Or.inl passed
  · exact Or.inr (by cases reply <;> first | exact .done reached | exact .raise reached)

/-- A request may count on the state to have provided for what is ahead of it and its sequel. -/
theorem call_bind {req : Req} {after : Reply req → Prog ε Req Reply β}
    {post : Except ε β → σ → Prop}
    (each : ∀ before value reached, does before req (.ok value) reached →
      (¬(Prog.call req >>= after).Ahead passes fun wanted => ¬need before wanted) →
        passes req (.ok value) ∨ Provided passes (need reached) (post · reached) (after value))
    (failed : ∀ before error reached, does before req (.error error) reached →
      passes req (.error error) ∨ post (.error error) reached)
    (second : ∀ value, Provident passes does need post (after value)) :
    Provident passes does need post (Prog.call req >>= after) := by
  -- Only a reply with a value has a sequel; an error is raised at once.
  intro reply
  cases reply with
  | ok value => exact ⟨second value, fun before reached => each before value reached⟩
  | error error =>
    exact ⟨trivial, fun before reached performed _ =>
      (failed before error reached performed).imp_right .raise⟩

/-- A sequence is provident when its first program provides for the second. -/
theorem bind {program : Prog ε Req Reply α} {after : α → Prog ε Req Reply β}
    {post : Except ε β → σ → Prop}
    (first : Provident passes does need (fun outcome state =>
      match outcome with
      | .ok value => Provided passes (need state) (post · state) (after value)
      | .error error => post (.error error) state) program)
    (second : ∀ value, Provident passes does need post (after value)) :
    Provident passes does need post (program >>= after) := by
  -- By induction on the first program: where it provides for its own sequel, it provides for the
  -- whole.
  induction program with
  | done value => exact second value
  | raise error => trivial
  | request req next ih =>
    refine fun reply => ⟨ih reply (first reply).1, fun before reached performed nothing => ?_⟩
    have unmissed : ¬(Prog.request req next).Ahead passes fun wanted => ¬need before wanted :=
      fun ahead => nothing (ahead.bind after)
    refine ((first reply).2 before reached performed unmissed).imp_right fun provided =>
      .bind (provided.weaken fun outcome => ?_)
    cases outcome <;> exact id

/-- A guarded program is provident when its body provides for the handler. -/
theorem tryCatch {program : Prog ε Req Reply α} {handler : ε → Prog ε Req Reply α}
    {post : Except ε α → σ → Prop}
    (body : Provident passes does need (fun outcome state =>
      match outcome with
      | .ok value => post (.ok value) state
      | .error error => Provided passes (need state) (post · state) (handler error)) program)
    (second : ∀ error, Provident passes does need post (handler error)) :
    Provident passes does need post (program.tryCatch handler) := by
  -- By induction on the body: where it provides for its own sequel, it provides for the whole.
  induction program with
  | done value => trivial
  | raise error => exact second error
  | request req next ih =>
    refine fun reply => ⟨ih reply (body reply).1, fun before reached performed nothing => ?_⟩
    have unmissed : ¬(Prog.request req next).Ahead passes fun wanted => ¬need before wanted :=
      fun ahead => nothing (ahead.tryCatch handler)
    refine ((body reply).2 before reached performed unmissed).imp_right fun provided =>
      .tryCatch (provided.weaken fun outcome => ?_)
    cases outcome <;> exact id

/-- A weaker condition on the outcome asks less. -/
theorem weaken {program : Prog ε Req Reply α} {post weaker : Except ε α → σ → Prop}
    (provident : Provident passes does need post program)
    (implies : ∀ outcome state, post outcome state → weaker outcome state) :
    Provident passes does need weaker program := by
  -- By induction on the program, with the condition weakened at each of its ends.
  induction program with
  | done value => trivial
  | raise error => trivial
  | request req next ih =>
    refine fun reply => ⟨ih reply (provident reply).1, fun before after performed nothing => ?_⟩
    exact ((provident reply).2 before after performed nothing).imp_right
      fun provided => provided.weaken fun outcome => implies outcome after

/-- A program whose requests all let it pass is provident. -/
theorem of_passing {program : Prog ε Req Reply α} {post : Except ε α → σ → Prop}
    (requests : program.Only fun req => ∀ reply, passes req reply) :
    Provident passes does need post program := by
  -- Every request passes, so the first disjunct holds at each of them.
  induction program with
  | done value => trivial
  | raise error => trivial
  | request req next ih =>
    exact fun reply => ⟨ih reply (requests.2 reply), fun _ _ _ _ => Or.inl (requests.1 reply)⟩

/-- A program that only makes requests which are fit in every state is provident. -/
theorem of_only {program : Prog ε Req Reply α}
    (requests : program.Only fun req => ∀ state, need state req) :
    Provident passes does need (fun _ _ => True) program := by
  -- By induction on the program: whatever is ahead of a sequel is fit in the state it is reached
  -- in.
  induction program with
  | done value => trivial
  | raise error => trivial
  | request req next ih =>
    refine fun reply => ⟨ih reply (requests.2 reply), fun _ after _ _ => Or.inr ⟨?_, fun _ _ =>
      trivial⟩⟩
    exact Prog.not_ahead_of_only ((requests.2 reply).mono fun wanted fits unfit => unfit (fits after))

end Provident

/--
In a run of provident programs whatever is ahead of one of them finds what it needs.

Several needs may be pursued at once. A step may then count on all of them to be met, and so may the
invariant that the programs count on themselves.
-/
theorem provided_of_run [DecidableEq ι] {κ : Type}
    {passes : κ → (req : Req) → Except ε (Reply req) → Prop} {need : κ → σ → Req → Prop}
    {invariant : σ → Prop} {machine : Machine ι ε Req Reply σ}
    {starts : ι → σ → Prog ε Req Reply α → Prop} {environment : σ → σ → Prop}
    {steps : Config ι ε Req Reply σ α → Config ι ε Req Reply σ α → Prop}
    {does : σ → (req : Req) → Except ε (Reply req) → σ → Prop}
    {initial config : Config ι ε Req Reply σ α}
    (among : ∀ {first second}, steps first second → Step machine starts environment first second)
    (acts : ∀ {choice thread before req reply after}, invariant before →
      machine.exec choice thread before req = some (reply, after) → does before req reply after)
    (idle : ∀ thread, initial.threads thread = none) (started : invariant initial.state)
    (starting : ∀ k thread state program, starts thread state program →
      Provident (passes k) does (need k) (fun _ _ => True) program ∧
        ∀ later, ¬program.Ahead (passes k) fun req => ¬need k later req)
    (keeps : ∀ first second, Relation.ReflTransGen steps initial first → steps first second →
      invariant first.state →
      (∀ k thread program, first.threads thread = some program →
        ¬program.Ahead (passes k) fun req => ¬need k first.state req) →
      invariant second.state ∧ ∀ k thread program, first.threads thread = some program →
        (program.Ahead (passes k) fun req => ¬need k second.state req) →
          ∀ req, need k first.state req → need k second.state req)
    (run : Relation.ReflTransGen steps initial config) :
    invariant config.state ∧ ∀ k thread program, config.threads thread = some program →
      Provident (passes k) does (need k) (fun _ _ => True) program ∧
        ¬program.Ahead (passes k) fun req => ¬need k config.state req := by
  -- By induction on the run: all needs are met and the invariant holds before each step.
  induction run with
  | refl =>
    refine ⟨started, fun k thread program running => ?_⟩
    rw [idle thread] at running
    cases running
  | @tail first second before step ih =>
    obtain ⟨held, provided⟩ := ih
    obtain ⟨still, kept⟩ := keeps first second before step held
      fun k thread program running => (provided k thread program running).2
    refine ⟨still, fun k thread program running => ?_⟩
    -- What a program that was there before misses now it has missed before.
    have spared : ∀ program, first.threads thread = some program →
        ¬program.Ahead (passes k) fun req => ¬need k second.state req := by
      intro program also missing
      exact (provided k thread program also).2
        (missing.mono fun req unmet met => unmet (kept k thread program also missing req met))
    rcases (among step).running_cases running with
      also | ⟨req, next, choice, reply, acting, performed, rfl⟩ | allowed
    · exact ⟨(provided k thread program also).1, spared program also⟩
    · obtain ⟨provident, nothing⟩ := provided k thread _ acting
      refine ⟨(provident reply).1, fun missing => ?_⟩
      rcases (provident reply).2 _ _ (acts held performed) nothing with passed | beyond
      · exact spared _ acting (Or.inr ⟨reply, passed, missing⟩)
      · exact beyond.ahead missing
    · -- Nothing is ahead of a program that has just started, whatever the state is.
      obtain ⟨provident, nothing⟩ := starting k thread _ _ allowed
      exact ⟨provident, nothing second.state⟩

end

end Foundation
