import RemoteDebug.Dialogue

/-!
The model of a target process.

* Handlers apply events to the model: the start and the end of the target, the life of its threads,
  loaded types and completed steps. Each announces what it did to the hook as its last act; a hook that
  fails is reported, a hook that panics takes the handler with it.
* Controls are the wishes of a user: resume, suspend, step, terminate. A target that is gone takes none.
* `Target.currentThread?` is the thread in which expressions are evaluated.
-/

namespace RemoteDebug

/-- The model of a target. -/
structure Target where
  name : String
  status : TargetStatus := .notStarted
  threads : ThreadRegistry := {}
  prepared : List PreparedType := []
deriving DecidableEq, Repr, Inhabited

/-- What ends a handler early: a fault that its caller deals with, or a panic that nobody does. -/
inductive Interruption where
  | fault (fault : Fault)
  | panic (text : String)
deriving DecidableEq, Repr, Inhabited

/-- An operation that applies events. -/
abbrev Handling (σ α : Type) : Type := ExceptT Interruption (Operation σ) α

/-- Call the target; a failure of the call is a fault. -/
def Handling.call {σ : Type} (c : Call) : Handling σ c.Answer := do
  match ← perform (.call c) with
  | .ok answer => return answer
  | .error failure => throw (.fault (.remote failure))

/-- Announce a change to the hook. -/
def Handling.announce {σ : Type} (notice : Notice) : Handling σ Unit := do
  match ← perform (.ask (.hook notice)) with
  | .done => return
  | .failed problem => perform (.report (.error .target (.hook problem)))
  | .panicked text => throw (.panic text)

namespace Target

def isSuspended (target : Target) : Bool := target.status = .suspended

/-- The target is gone for good. -/
def isTerminated (target : Target) : Bool := target.status.isFinal

/-- The thread for evaluation, if one is suspended. -/
def currentThread? (target : Target) : Option ThreadRef := target.threads.current?

/-! ### Changes of the model -/

def updateThreads (f : ThreadRegistry → ThreadRegistry) : Operation Target Unit :=
  .update fun target => { target with threads := f target.threads }

def setStatus (status : TargetStatus) : Operation Target Unit := do
  .log (.statusSet (← Operation.read).name status)
  .update fun target => { target with status }

/-- Drop all threads and take a final status. -/
def release (status : TargetStatus) : Operation Target Unit := do
  let target ← Operation.read
  updateThreads .clear
  .log (.threadsReleased target.name status target.threads.threads.length)
  setStatus status

/-! ### Handlers -/

/-- The target reports its start: all its threads are known and suspended until it is resumed. -/
def vmStart (thread : ThreadRef) : Handling Target Unit := do
  let existing ← Handling.call .threads
  perform (updateThreads fun threads =>
    (((existing ++ [thread]).foldl .register threads).setStatusAll .suspended).setFocus thread)
  perform (setStatus .suspended)
  Handling.announce (.start thread)

def vmDeath : Handling Target Unit := do
  perform (release .terminated)
  Handling.announce .exit

def vmDisconnect : Handling Target Unit := do
  perform (release .disconnected)
  Handling.announce .disconnect

def threadStart (handle : ThreadRef) : Handling Target Unit := do
  perform (updateThreads (·.register handle))
  match (← perform .read).threads.get? handle with
  | some thread =>
    perform (.log (.threadStarted thread))
    Handling.announce (.threadStart thread)
  | none => return

/-- The record of a thread that died leaves the registry with a final status. -/
def threadDeath (handle : ThreadRef) : Handling Target Unit := do
  let found := (← perform .read).threads.get? handle
  perform (updateThreads (·.remove handle))
  match found with
  | some thread =>
    let dead := { thread with status := .terminated }
    perform (.log (.threadDied dead))
    Handling.announce (.threadDeath dead)
  | none => perform (.log (.unknownThreadDied handle))

def classLoad (thread : ThreadRef) (type : TypeRef) (name : String) : Handling Target Unit := do
  perform (.log (.typePrepared type name))
  perform (.update fun target =>
    { target with prepared := target.prepared ++ [⟨type, name, thread⟩] })
  Handling.announce (.classPrepare type name)

/-- A thread stopped: whatever step it waited for is over, its request is deleted and it gets the
focus. -/
def stepDone (handle : ThreadRef) (location : Location) : Handling Target Unit := do
  match (← perform .read).threads.get? handle with
  | none => throw (.fault (.threadNotFound handle))
  | some thread =>
    let stopped := thread.stopAt location
    perform (updateThreads fun threads =>
      (threads.modify handle (·.stopAt location)).setFocus handle)
    if let some step := thread.pendingStep then
      Handling.call (.deleteRequest step.request)
    Handling.announce (.step stopped)

/-- Resume a single thread; one that waits for a step keeps its status. -/
def resumeThread (handle : ThreadRef) : Handling Target Unit := do
  Handling.call (.resume handle)
  perform (updateThreads (·.modify handle (·.setStatus .running)))

/-! ### Controls -/

/-- A target that is gone takes no wishes. -/
def ensureAlive : Attempt Target Unit := do
  if (← perform .read).isTerminated then throw .targetTerminated

/-- Resume all threads. -/
def resume : Attempt Target Unit := do
  ensureAlive
  Attempt.call .resumeAll
  perform (updateThreads (·.setStatusAll .running))
  perform (setStatus .running)

/-- Suspend all threads. -/
def suspend : Attempt Target Unit := do
  ensureAlive
  Attempt.call .suspendAll
  perform (updateThreads (·.setStatusAll .suspended))
  perform (setStatus .suspended)

/-- Take back a step whose thread could not be resumed. -/
def rollback (handle : ThreadRef) (request : RequestRef) : Operation Target Unit := do
  updateThreads fun threads =>
    threads.modify handle fun t => { t with pendingStep := none, status := .suspended }
  match ← Operation.call (.deleteRequest request) with
  | .ok _ => return
  | .error failure => .log (.stepRollback failure)

/-- Start a step; it completes later with a step event. -/
def step (handle : ThreadRef) (kind : StepKind) : Attempt Target Unit := do
  ensureAlive
  match (← perform .read).threads.get? handle with
  | none => throw (.threadNotFound handle)
  | some thread =>
    if thread.isStepping then throw (.alreadyStepping handle)
    let request ← Attempt.call (.requestStep handle kind)
    perform (updateThreads (·.modify handle (·.startStep ⟨kind, request⟩)))
    perform (.log (.stepRequested kind handle request))
    match ← perform (.call (.resume handle)) with
    | .ok _ => perform (setStatus .running)
    | .error failure =>
      perform (rollback handle request)
      throw (.remote failure)

/-- End the target process. -/
def terminate (exitCode : Int32) : Attempt Target Unit := do
  ensureAlive
  Attempt.call (.terminate exitCode)

/-- Put a known thread into focus. -/
def setFocus (handle : ThreadRef) : Attempt Target Unit := do
  if (← perform .read).threads.contains handle then
    perform (updateThreads (·.setFocus handle))
  else throw (.threadNotFound handle)

end Target

end RemoteDebug
