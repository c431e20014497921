import Cislunar.Foundation.Program

/-!
Roles that a program plays among others.

A role is a small machine of notes, one of which belongs to a thread at each time. A note permits
some requests, and the replies lead from note to note. What a note says about the shared state is up
to those who use the role.
-/

namespace Foundation

/-- What the notes of a thread permit, and which note follows a reply. -/
structure Role (ε Req : Type) (Reply : Req → Type) (ν : Type) where
  permits : ν → Req → Prop
  /-- The replies that can happen under a note, and the note after them. -/
  moves : ν → (req : Req) → Except ε (Reply req) → ν → Prop

section
variable {ε Req : Type} {Reply : Req → Type} {ν α β : Type} (role : Role ε Req Reply ν)

/-- A program makes permitted requests only, whatever notes its replies lead to. -/
def Plays (post : Except ε α → ν → Prop) : Prog ε Req Reply α → ν → Prop
  | .done value, note => post (.ok value) note
  | .raise error, note => post (.error error) note
  | .request req next, note => role.permits note req ∧
      ∀ reply later, role.moves note req reply later → Plays post (next reply) later

variable {role} {note : ν}

namespace Plays

/-- A permitted request plays the role where every reply reaches the condition. -/
theorem call {req : Req} {post : Except ε (Reply req) → ν → Prop} (permitted : role.permits note req)
    (reached : ∀ reply later, role.moves note req reply later → post reply later) :
    Plays role post (Prog.call req) note := by
  -- Whatever the reply, the role has moved and the program has ended.
  refine ⟨permitted, fun reply later moved => ?_⟩
  cases reply <;> exact reached _ later moved

/-- A sequence plays the role when the second program does wherever the first returns. -/
theorem bind {program : Prog ε Req Reply α} {after : α → Prog ε Req Reply β}
    {post : Except ε β → ν → Prop}
    (first : Plays role (fun outcome reached =>
      match outcome with
      | .ok value => Plays role post (after value) reached
      | .error error => post (.error error) reached) program note) :
    Plays role post (program >>= after) note := by
  -- By induction on the first program; the condition at its value is the part of the second.
  induction program generalizing note with
  | done value => exact first
  | raise error => exact first
  | request req next ih =>
    exact ⟨first.1, fun reply later moved => ih reply (first.2 reply later moved)⟩

/-- A guarded program plays the role when its handler does wherever the body raises. -/
theorem tryCatch {program : Prog ε Req Reply α} {handler : ε → Prog ε Req Reply α}
    {post : Except ε α → ν → Prop}
    (body : Plays role (fun outcome reached =>
      match outcome with
      | .ok value => post (.ok value) reached
      | .error error => Plays role post (handler error) reached) program note) :
    Plays role post (program.tryCatch handler) note := by
  -- By induction on the body; the condition at its error is the part of the handler.
  induction program generalizing note with
  | done value => exact body
  | raise error => exact body
  | request req next ih =>
    exact ⟨body.1, fun reply later moved => ih reply (body.2 reply later moved)⟩

/-- A weaker final condition asks less of a part. -/
theorem weaken {program : Prog ε Req Reply α} {post weaker : Except ε α → ν → Prop}
    (plays : Plays role post program note)
    (implies : ∀ outcome reached, post outcome reached → weaker outcome reached) :
    Plays role weaker program note := by
  -- By induction on the program, with the condition weakened at its ends.
  induction program generalizing note with
  | done value => exact implies _ _ plays
  | raise error => exact implies _ _ plays
  | request req next ih =>
    exact ⟨plays.1, fun reply later moved => ih reply (plays.2 reply later moved)⟩

end Plays

end

end Foundation
