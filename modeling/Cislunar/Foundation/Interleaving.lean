import Cislunar.Foundation.Role
import Mathlib.Data.Fintype.Basic
import Mathlib.Logic.Hydra

/-!
Interleavings of finitely many programs that have all been started.

Programs are finite trees, so every interleaving comes to an end; one that does not get stuck ends
with the outcomes of all programs.
-/

namespace Foundation

section
variable {ι ε Req : Type} {Reply : Req → Type} {σ α ν : Type} [DecidableEq ι]

/-- A program makes its next request. -/
inductive Interleaves (machine : Machine ι ε Req Reply σ) :
    Config ι ε Req Reply σ α → Config ι ε Req Reply σ α → Prop where
  | act {config : Config ι ε Req Reply σ α} {thread : ι} {req : Req}
      {next : Except ε (Reply req) → Prog ε Req Reply α} {choice : machine.Choice}
      {reply : Except ε (Reply req)} {state : σ}
      (running : config.threads thread = some (.request req next))
      (performed : machine.exec choice thread config.state req = some (reply, state)) :
      Interleaves machine config
        ⟨state, Function.update config.threads thread (some (next reply))⟩

/-- No program can make a request. -/
def Halted (machine : Machine ι ε Req Reply σ) (config : Config ι ε Req Reply σ α) : Prop :=
  ∀ config', ¬Interleaves machine config config'

/-- Every interleaving comes to an end. -/
def Terminates (machine : Machine ι ε Req Reply σ) (config : Config ι ε Req Reply σ α) : Prop :=
  Acc (fun later earlier => Interleaves machine earlier later) config

variable {machine : Machine ι ε Req Reply σ} {config : Config ι ε Req Reply σ α}

variable (machine) in
/-- A thread that is let act takes a step, or nothing happens. -/
theorem Config.act_cases (thread : ι) (choice : machine.Choice) (config : Config ι ε Req Reply σ α) :
    config.act machine thread choice = config ∨
      Interleaves machine config (config.act machine thread choice) := by
  -- Nothing happens where the thread has no request or the machine does not perform it.
  rw [Config.act]
  split
  next req next running =>
    split
    next reply state performed => exact Or.inr (.act running performed)
    next => exact Or.inl rfl
  next => exact Or.inl rfl

variable (machine) in
/-- A thread that is let act takes at most one step. -/
theorem Config.act_interleaves (thread : ι) (choice : machine.Choice)
    (config : Config ι ε Req Reply σ α) :
    Relation.ReflTransGen (Interleaves machine) config (config.act machine thread choice) := by
  -- A thread that cannot act leaves the configuration as it is.
  rcases Config.act_cases machine thread choice config with same | step
  · rw [same]
  · exact .single step

/-- What is left of a program after the reply to its request. -/
def Continues (later earlier : Option (Prog ε Req Reply α)) : Prop :=
  ∃ req next reply, earlier = some (.request req next) ∧ later = some (next reply)

omit [DecidableEq ι] in
/-- A program cannot be continued for ever. -/
theorem continues_wellFounded : WellFounded (@Continues ε Req Reply α) := by
  -- By induction on the program: whatever continues it is smaller, and nothing continues an end.
  have running : ∀ program : Prog ε Req Reply α, Acc Continues (some program) := by
    intro program
    induction program with
    | done value =>
      exact ⟨_, fun later ⟨_, _, _, same, _⟩ => nomatch same⟩
    | raise error =>
      exact ⟨_, fun later ⟨_, _, _, same, _⟩ => nomatch same⟩
    | request req next ih =>
      refine ⟨_, ?_⟩
      rintro _ ⟨_, _, reply, same, rfl⟩
      cases same
      exact ih reply
  refine ⟨fun program => ?_⟩
  cases program with
  | none => exact ⟨_, fun later ⟨_, _, _, same, _⟩ => nomatch same⟩
  | some program => exact running program

/-- Interleavings of finitely many programs come to an end. -/
theorem terminates [Fintype ι] (machine : Machine ι ε Req Reply σ)
    (config : Config ι ε Req Reply σ α) : Terminates machine config := by
  -- A step replaces one of the programs by what is left of it.
  have smaller : ∀ {later earlier : Config ι ε Req Reply σ α}, Interleaves machine earlier later →
      Relation.CutExpand Continues (Finset.univ.val.map later.threads)
        (Finset.univ.val.map earlier.threads) := by
    rintro _ earlier ⟨running, performed⟩
    rename_i thread req next choice reply state
    have split : (Finset.univ : Finset ι).val = thread ::ₘ (Finset.univ.erase thread).val :=
      (Multiset.cons_erase (Finset.mem_univ thread)).symm
    have others : ∀ place ∈ (Finset.univ.erase thread).val,
        Function.update earlier.threads thread (some (next reply)) place = earlier.threads place :=
      fun place member => Function.update_of_ne (Finset.ne_of_mem_erase member) ..
    dsimp only
    rw [split, Multiset.map_cons, Multiset.map_cons, Multiset.map_congr rfl others,
      Function.update_self, ← Multiset.singleton_add, ← Multiset.singleton_add]
    exact Relation.cutExpand_single_add ⟨req, next, reply, running, rfl⟩ _
  refine Subrelation.accessible (fun step => smaller step) ?_
  exact InvImage.accessible _ (continues_wellFounded.cutExpand.apply _)

/-- Every program plays its role, and what it has noted is true of the state. -/
structure Cast (role : ι → Role ε Req Reply ν) (post : ι → Except ε α → ν → Prop)
    (backed : ι → ν → σ → Prop) (config : Config ι ε Req Reply σ α) (notes : ι → ν) : Prop where
  plays : ∀ thread, ∃ program, config.threads thread = some program ∧
    Plays (role thread) (post thread) program (notes thread)
  backed : ∀ thread, backed thread (notes thread) config.state

variable {role : ι → Role ε Req Reply ν} {post : ι → Except ε α → ν → Prop}
variable {backed : ι → ν → σ → Prop} {notes : ι → ν}

omit [DecidableEq ι] in
/-- A running program makes a request that its note permits. -/
theorem Cast.request (cast : Cast role post backed config notes) {thread : ι} {req : Req}
    {next : Except ε (Reply req) → Prog ε Req Reply α}
    (running : config.threads thread = some (.request req next)) :
    (role thread).permits (notes thread) req ∧ ∀ reply later,
      (role thread).moves (notes thread) req reply later →
        Plays (role thread) (post thread) (next reply) later := by
  -- The program that plays the role is the one that is running.
  obtain ⟨program, present, plays⟩ := cast.plays thread
  rw [running] at present
  cases present
  exact plays

/-- A cast goes on when the acting program moves on and the notes of the others stay true. -/
theorem Cast.act (cast : Cast role post backed config notes) {thread : ι} {req : Req}
    {next : Except ε (Reply req) → Prog ε Req Reply α}
    (running : config.threads thread = some (.request req next)) {reply : Except ε (Reply req)}
    {state : σ} {later : ν} (moved : (role thread).moves (notes thread) req reply later)
    (own : backed thread later state)
    (others : ∀ other, other ≠ thread → backed other (notes other) state) :
    Cast role post backed ⟨state, Function.update config.threads thread (some (next reply))⟩
      (Function.update notes thread later) := by
  -- The acting thread plays on with its later note, every other one with the note that it has.
  refine ⟨fun place => ?_, fun place => ?_⟩
  · by_cases same : place = thread
    · subst same
      refine ⟨next reply, Function.update_self .., ?_⟩
      rw [Function.update_self]
      exact (cast.request running).2 reply later moved
    · obtain ⟨program, present, plays⟩ := cast.plays place
      refine ⟨program, (Function.update_of_ne same ..).trans present, ?_⟩
      rwa [Function.update_of_ne same]
  · by_cases same : place = thread
    · subst same
      rwa [Function.update_self]
    · rw [Function.update_of_ne same]
      exact others place same

/-- A role lets a program make one request, or end with a value. -/
structure Role.Determined (role : Role ε Req Reply ν) (post : Except ε α → ν → Prop) : Prop where
  one : ∀ {note req other}, role.permits note req → role.permits note other → other = req
  ended : ∀ {note req outcome}, role.permits note req → ¬post outcome note
  raised : ∀ {note error}, ¬post (.error error) note

omit [DecidableEq ι] in
/-- A program that plays a determined role has not raised. -/
theorem Cast.not_raised (cast : Cast role post backed config notes)
    (determined : ∀ thread, (role thread).Determined (post thread)) (thread : ι) (error : ε) :
    config.threads thread ≠ some (.raise error) := by
  -- What is left of the thread is a program of its role, and a determined role does not raise.
  intro raised
  obtain ⟨program, present, plays⟩ := cast.plays thread
  cases raised.symm.trans present
  exact (determined thread).raised plays

omit [DecidableEq ι] in
/-- A program whose note permits a request is about to make it. -/
theorem Cast.running (cast : Cast role post backed config notes)
    (determined : ∀ thread, (role thread).Determined (post thread)) {thread : ι} {req : Req}
    (permitted : (role thread).permits (notes thread) req) :
    ∃ next, config.threads thread = some (.request req next) := by
  -- A program at its end is not permitted anything, and the request of a note is determined.
  obtain ⟨program, present, plays⟩ := cast.plays thread
  cases program with
  | done value => exact absurd plays ((determined thread).ended permitted)
  | raise error => exact absurd plays (determined thread).raised
  | request own next =>
    cases (determined thread).one permitted plays.1
    exact ⟨next, present⟩

/-- Where some program can always go on, every program has its value when none can. -/
theorem Cast.answered (cast : Cast role post backed config notes)
    (determined : ∀ thread, (role thread).Determined (post thread))
    (goesOn : ∀ thread req, (role thread).permits (notes thread) req →
      ∃ place req choice outcome, (role place).permits (notes place) req ∧
        machine.exec choice place config.state req = some outcome)
    (halted : Halted machine config) (thread : ι) :
    ∃ value, config.threads thread = some (.done value) ∧ post thread (.ok value) (notes thread) := by
  obtain ⟨program, present, plays⟩ := cast.plays thread
  cases program with
  | done value => exact ⟨value, present, plays⟩
  | raise error => exact absurd plays (determined thread).raised
  | request req next =>
    -- The request is still to be made, so the programs have not come to an end.
    obtain ⟨place, own, choice, ⟨reply, state⟩, permitted, performed⟩ := goesOn thread req plays.1
    obtain ⟨next, running⟩ := cast.running determined permitted
    exact absurd (.act running performed) (halted _)

end

end Foundation
