import Mathlib.Logic.Function.Basic

/-!
Servers that remember one reply for every key, so that a repeated input has no second effect.

What such a server does to its world is what the first input of each key does to it.
-/

namespace Foundation.Dedup

section
variable {Key Input Reply World : Type} [DecidableEq Key]

/-- The inputs whose key has not been seen, the first one of every key only. -/
def firsts (key : Input → Key) : (Key → Bool) → List Input → List Input
  | _, [] => []
  | seen, input :: rest =>
    if seen (key input) then firsts key seen rest
    else input :: firsts key (Function.update seen (key input) true) rest

/-- The world after a row of inputs without any memory. -/
def executeAll (execute : Input → World → Reply × World) (world : World) (inputs : List Input) :
    World :=
  inputs.foldl (fun world input => (execute input world).2) world

/-- A world and the replies that were given for each key. -/
structure Server (Key Reply World : Type) where
  world : World
  replies : Key → Option Reply

variable (key : Input → Key) (execute : Input → World → Reply × World)

/-- Answer from memory, or execute and remember. -/
def Server.serve (server : Server Key Reply World) (input : Input) :
    Reply × Server Key Reply World :=
  match server.replies (key input) with
  | some reply => (reply, server)
  | none =>
    let outcome := execute input server.world
    (outcome.1, ⟨outcome.2, Function.update server.replies (key input) (some outcome.1)⟩)

/-- The server after a row of inputs. -/
def Server.serveAll (server : Server Key Reply World) (inputs : List Input) :
    Server Key Reply World :=
  inputs.foldl (fun server input => (server.serve key execute input).2) server

namespace Server
variable {key execute} {server : Server Key Reply World}

/-- A remembered reply is given again, and nothing changes. -/
theorem serve_remembered {input : Input} {reply : Reply}
    (remembered : server.replies (key input) = some reply) :
    server.serve key execute input = (reply, server) := by
  -- The reply is looked up before anything is executed.
  rw [serve, remembered]

/-- The reply to an input is remembered under its key. -/
theorem serve_remembers (input : Input) :
    (server.serve key execute input).2.replies (key input) =
      some (server.serve key execute input).1 := by
  -- A new reply is stored under its key, and an old one is there already.
  cases remembered : server.replies (key input) with
  | some reply => rw [serve_remembered remembered, remembered]
  | none => simp [serve, remembered]

/-- Replies are never forgotten or replaced. -/
theorem serve_keeps {other : Key} {reply : Reply} (remembered : server.replies other = some reply)
    (input : Input) : (server.serve key execute input).2.replies other = some reply := by
  -- Only the key of a request without a reply is written, which is not the remembered one.
  cases known : server.replies (key input) with
  | some _ => rwa [serve_remembered known]
  | none =>
    have different : other ≠ key input := by
      rintro rfl
      rw [known] at remembered
      cases remembered
    simp [serve, known, Function.update_of_ne different, remembered]

/-- A whole row of inputs forgets no reply. -/
theorem serveAll_keeps {other : Key} {reply : Reply} (inputs : List Input)
    (remembered : server.replies other = some reply) :
    (server.serveAll key execute inputs).replies other = some reply := by
  -- On the inputs; no single one replaces a reply.
  induction inputs generalizing server with
  | nil => exact remembered
  | cons input rest ih => exact ih (serve_keeps remembered input)

/-- A server does to its world what the first unseen input of every key does to it. -/
theorem serveAll_world (inputs : List Input) :
    (server.serveAll key execute inputs).world =
      executeAll execute server.world
        (firsts key (fun other => (server.replies other).isSome) inputs) := by
  induction inputs generalizing server with
  | nil => rfl
  | cons input rest ih =>
    rw [serveAll, List.foldl_cons, ← serveAll, ih, firsts]
    cases known : server.replies (key input) with
    | some reply =>
      rw [serve_remembered known]
      simp
    | none =>
      -- From now on the key counts as seen.
      have marked : (fun other => ((server.serve key execute input).2.replies other).isSome) =
          Function.update (fun other => (server.replies other).isSome) (key input) true := by
        funext other
        by_cases same : other = key input
        · subst same
          simp [serve, known]
        · simp [serve, known, Function.update_of_ne same]
      rw [marked]
      simp [serve, known, executeAll]

end Server

end

end Foundation.Dedup
