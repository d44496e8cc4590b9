import RemoteDebug.Log
import RemoteDebug.Remote.Call

/-!
Dialogues of the library with its surroundings.

An operation computes by itself until it needs something from outside: an answer of the target, the
attention of a hook, the vote of a listener, the next event set. A `Dialogue` holds every course that
the operation can take, one branch for each reply.

State that others can reach while the operation waits is part of the dialogue. It is handed over with
each request and comes back with the reply, possibly changed: a listener may remove itself from the
registry, a call may end a thread of the model.

* `Dialogue σ α` is a dialogue over shared state `σ` that ends with an `α`,
* `Operation σ α` starts a dialogue from a shared state and ends with the state it leaves,
* `Dialogue.conduct` leads a dialogue with given surroundings,
* `Dialogue.embed` leads a dialogue over a part of the shared state inside one over the whole.
-/

namespace RemoteDebug

/-- A listener, known by a number; what it does is its own business. -/
structure Listener where
  id : Nat
deriving DecidableEq, Repr, Inhabited

/-- What an operation asks of its surroundings. -/
inductive Request where
  | call (call : Call)
  | hook (notice : Notice)
  | listen (listener : Listener) (event : Event)
  /-- A read that waits until the channel delivers. -/
  | read (delivered : Except ChannelFailure EventSet)

/-- How a hook took a notice. -/
inductive HookReply where
  | done
  | failed (problem : String)
  | panicked (text : String)
deriving DecidableEq, Repr, Inhabited

/-- How a listener took an event. -/
inductive ListenerReply where
  | vote (resume : Bool)
  | panicked
deriving DecidableEq, Repr, Inhabited

/-- The reply to a request. -/
abbrev Request.Reply : Request → Type
  | .call c => Except RemoteFailure c.Answer
  | .hook _ => HookReply
  | .listen .. => ListenerReply
  | .read _ => Unit

/-- Every course of an operation over shared state. -/
inductive Dialogue (σ α : Type) where
  | done (result : α)
  | note (note : Note) (rest : Unit → Dialogue σ α)
  | ask (request : Request) (shared : σ) (next : request.Reply → σ → Dialogue σ α)

namespace Dialogue

variable {σ τ ρ α β : Type}

/-- Continue a dialogue where it ends. -/
def bind : Dialogue σ α → (α → Dialogue σ β) → Dialogue σ β
  | .done a, f => f a
  | .note n rest, f => .note n fun u => (rest u).bind f
  | .ask q s next, f => .ask q s fun reply t => (next reply t).bind f

/-- Lead a dialogue over `τ` inside one over `σ`, of which `τ` is a part and `ρ` the rest. -/
def embed (join : τ → ρ → σ) (split : σ → τ × ρ) : Dialogue τ α → ρ → Dialogue σ (α × ρ)
  | .done a, r => .done (a, r)
  | .note n rest, r => .note n fun u => (rest u).embed join split r
  | .ask q t next, r =>
    .ask q (join t r) fun reply s => (next reply (split s).1).embed join split (split s).2

/-- Lead a dialogue with surroundings that note and reply. -/
@[specialize]
def conduct {m : Type → Type} [Monad m] (note : Note → m Unit)
    (reply : (request : Request) → σ → m (request.Reply × σ)) : Dialogue σ α → m α
  | .done a => pure a
  | .note n rest => do
    note n
    (rest ()).conduct note reply
  | .ask q s next => do
    let (answer, t) ← reply q s
    (next answer t).conduct note reply

end Dialogue

/-- An operation on shared state. -/
def Operation (σ α : Type) : Type := σ → Dialogue σ (α × σ)

namespace Operation

variable {σ τ α β : Type}

instance : Monad (Operation σ) where
  pure a := fun s => .done (a, s)
  bind x f := fun s => (x s).bind fun (a, t) => f a t

/-- The shared state as it is now. -/
def read : Operation σ σ := fun s => .done (s, s)

/-- Change the shared state. -/
def update (f : σ → σ) : Operation σ Unit := fun s => .done ((), f s)

/-- Tell something on the side. -/
def tell (note : Note) : Operation σ Unit := fun s => .note note fun _ => .done ((), s)

/-- Log an entry. -/
def log (entry : LogEntry) : Operation σ Unit := tell (.log entry)

/-- Report something that was dealt with. -/
def report (report : Report) : Operation σ Unit := tell (.report report)

/-- Put a request to the surroundings. -/
def ask (request : Request) : Operation σ request.Reply := fun s =>
  .ask request s fun reply t => .done (reply, t)

/-- Call the target. -/
def call (c : Call) : Operation σ (Except RemoteFailure c.Answer) := ask (.call c)

/-- Perform an operation on a part of the shared state. -/
def embed {ρ : Type} (join : τ → ρ → σ) (split : σ → τ × ρ) (operation : Operation τ α) :
    Operation σ α := fun s =>
  ((operation (split s).1).embed join split (split s).2).bind fun ((a, t), r) =>
    .done (a, join t r)

end Operation

/-- Perform an operation inside one that can end early. -/
def perform {ε σ α : Type} (operation : Operation σ α) : ExceptT ε (Operation σ) α :=
  ExceptT.lift operation

/-- An operation that can end with a fault. -/
abbrev Attempt (σ α : Type) : Type := ExceptT Fault (Operation σ) α

/-- Call the target; a failure of the call is a fault. -/
def Attempt.call {σ : Type} (c : Call) : Attempt σ c.Answer := do
  match ← perform (.call c) with
  | .ok answer => return answer
  | .error failure => throw (.remote failure)

end RemoteDebug
