import RemoteDebug.Settings
import RemoteDebug.Target

/-!
The dispatcher: the single reader of a target's event channel.

* `Listeners` binds a listener to the request whose events it wants.
* `Site.dispatch` delivers the events of a set in order. An event goes to the listener of its request, or
  else to the handler of its kind. The set is resumed if somebody voted, all votes were for resuming,
  nothing went wrong and no stop was requested.
* `Site.run` reads and dispatches sets until the channel fails or a stop is requested.

The dispatcher and the model of the target are shared with the listeners and with everything that runs
while the target is called.
-/

namespace RemoteDebug

/-- The listeners by the request whose events they want, one for each request. -/
structure Listeners where
  entries : List (RequestRef × Listener) := []
deriving DecidableEq, Repr, Inhabited

namespace Listeners

def get? (listeners : Listeners) (request : RequestRef) : Option Listener :=
  listeners.entries.lookup request

def contains (listeners : Listeners) (request : RequestRef) : Bool :=
  (listeners.get? request).isSome

def size (listeners : Listeners) : Nat := listeners.entries.length

def isEmpty (listeners : Listeners) : Bool := listeners.size = 0

/-- Forget the listener of a request. -/
def remove (listeners : Listeners) (request : RequestRef) : Listeners :=
  ⟨listeners.entries.filter (·.1 ≠ request)⟩

/-- Bind a listener to a request in place of the one before it. -/
def add (listeners : Listeners) (request : RequestRef) (listener : Listener) : Listeners :=
  ⟨(listeners.remove request).entries ++ [(request, listener)]⟩

end Listeners

/-- What a dispatcher is doing. -/
inductive DispatcherState where
  | idle | reading | dispatching
  /-- Nothing follows. -/
  | stopped
deriving DecidableEq, Repr, Inhabited

def DispatcherState.name : DispatcherState → String
  | .idle => "idle"
  | .reading => "reading"
  | .dispatching => "dispatching"
  | .stopped => "stopped"

structure Dispatcher where
  settings : DispatcherSettings := {}
  listeners : Listeners := {}
  /-- Cleared for good by a request to stop. -/
  keepReading : Bool := true
  state : DispatcherState := .idle
  /-- Events of the current set that wait for their turn. -/
  pending : Nat := 0
deriving DecidableEq, Repr, Inhabited

namespace Dispatcher

/-- Events of the current set wait for their turn. -/
def hasPendingEvents (dispatcher : Dispatcher) : Bool := 0 < dispatcher.pending

/-- Take up a state; a stopped dispatcher stays stopped. -/
def enter (dispatcher : Dispatcher) (state : DispatcherState) : Dispatcher :=
  if dispatcher.state = .stopped then dispatcher else { dispatcher with state }

/-- The dispatcher after its loop: nobody listens and nothing waits. -/
def stop (dispatcher : Dispatcher) : Dispatcher :=
  { dispatcher with keepReading := false, pending := 0, listeners := {}, state := .stopped }

end Dispatcher

/-- A target and the dispatcher of its events. -/
structure Site where
  target : Target
  dispatcher : Dispatcher
deriving DecidableEq, Repr, Inhabited

/-- What became of an event set. -/
structure DispatchOutcome where
  /-- Somebody voted. -/
  voted : Bool
  /-- The set was resumed. -/
  resumed : Bool
  /-- Events that reached a listener or a handler. -/
  dispatched : Nat
  /-- Events that did not get their turn. -/
  skipped : Nat
deriving DecidableEq, Repr, Inhabited

/-- The count of votes while a set is delivered. -/
structure Tally where
  voted : Bool := false
  /-- All votes so far were for resuming. -/
  agreed : Bool := true
  failed : Bool := false
  dispatched : Nat := 0
deriving DecidableEq, Repr, Inhabited

/-- What a channel delivers, read after read; after the last item it is disconnected. -/
abbrev Channel := List (Except ChannelFailure EventSet)

namespace Site

def updateDispatcher (f : Dispatcher → Dispatcher) : Operation Site Unit :=
  .update fun site => { site with dispatcher := f site.dispatcher }

/-- An operation on the target model at work on the shared site. -/
def onTarget {ε α : Type} (x : ExceptT ε (Operation Target) α) : ExceptT ε (Operation Site) α :=
  ExceptT.mk (Operation.embed Site.mk (fun site => (site.target, site.dispatcher)) x.run)

/-! ### Subscription -/

/-- Bind a listener to a request; a replaced listener is worth a warning. -/
def addListener (request : RequestRef) (listener : Listener) : Operation Site Unit := do
  let replaced := (← Operation.read).dispatcher.listeners.contains request
  updateDispatcher fun d => { d with listeners := d.listeners.add request listener }
  if replaced then .report (.warning .dispatcher (.listenerReplaced request))

/-- Ask the dispatcher to stop: no event and no set is taken up after the current event. -/
def shutdown : Operation Site Unit := do
  .log .shutdownRequested
  updateDispatcher fun d => { d with keepReading := false }

/-! ### Dispatch -/

/-- The handling of an event that has no listener; the answer is whether it votes for resuming. -/
def route (event : Event) : Handling Site Bool := do
  match event.happening with
  | .step thread location =>
    match (← perform .read).target.threads.get? thread with
    | some _ => onTarget (Target.stepDone thread location)
    | none =>
      perform (.log (.staleStep thread))
      onTarget (Target.resumeThread thread)
    return false
  | .threadStart thread =>
    onTarget (Target.threadStart thread)
    return false
  | .threadDeath thread =>
    onTarget (Target.threadDeath thread)
    return false
  | .classPrepare thread type name =>
    onTarget (Target.classLoad thread type name)
    return (← perform .read).dispatcher.settings.classPrepareResumes
  | .vmStart thread =>
    onTarget (Target.vmStart thread)
    return false
  | .vmDeath =>
    perform (updateDispatcher fun d => { d with keepReading := false })
    onTarget Target.vmDeath
    return false
  | .vmDisconnect =>
    perform (updateDispatcher fun d => { d with keepReading := false })
    onTarget Target.vmDisconnect
    return false
  | .breakpoint .. | .exception .. | .methodEntry .. | .methodExit .. | .other _ =>
    perform (.log (.unhandled event))
    return false

/-- Report a fault of the dispatcher; after a fatal one no more events are read. -/
def reportFault (fault : Fault) : Operation Site Unit := do
  .report (.error .dispatcher fault)
  if fault.isFatal then updateDispatcher fun d => { d with keepReading := false }

/-- Deliver events in order until one goes wrong or a stop is requested. -/
def deliver : List Event → Tally → Handling Site Tally
  | [], tally => return tally
  | event :: rest, tally => do
    let dispatcher := (← perform .read).dispatcher
    if !dispatcher.keepReading then return tally
    perform (updateDispatcher fun d => { d with pending := d.pending - 1 })
    let tally := { tally with dispatched := tally.dispatched + 1 }
    let bound := event.request.bind fun request =>
      (dispatcher.listeners.get? request).map fun listener => (request, listener)
    match bound with
    | some (request, listener) =>
      let tally := { tally with voted := true }
      match ← perform (.ask (.listen listener event)) with
      | .vote resume => deliver rest { tally with agreed := resume && tally.agreed }
      | .panicked =>
        perform (.report (.error .dispatcher (.listenerPanicked request)))
        return { tally with failed := true }
    | none =>
      match ← perform (ExceptT.run (route event)) with
      | .ok vote => deliver rest { tally with voted := vote || tally.voted }
      | .error (.fault fault) =>
        perform (reportFault fault)
        return { tally with failed := true }
      | .error (.panic text) => throw (.panic text)

/-- Resume a set if its delivery allows it; the answer is whether it was resumed. -/
def resumeSet (set : EventSet) (tally : Tally) : Operation Site Bool := do
  let keepReading := (← Operation.read).dispatcher.keepReading
  if tally.voted && tally.agreed && !tally.failed && keepReading then
    match ← Operation.call (.resumeSet set) with
    | .ok _ => return true
    | .error failure =>
      reportFault (.remote failure)
      return false
  else return false

/-- Dispatch one event set. -/
def dispatch (set : EventSet) : Handling Site DispatchOutcome := do
  perform (updateDispatcher (·.enter .dispatching))
  perform (.log (.dispatching set))
  perform (updateDispatcher fun d => { d with pending := set.size })
  let tally ← deliver set.events {}
  let skipped := (← perform .read).dispatcher.pending
  perform (updateDispatcher fun d => { d with pending := 0 })
  let resumed ← perform (resumeSet set tally)
  perform (.log (.dispatched tally.dispatched skipped resumed))
  perform (updateDispatcher (·.enter .idle))
  return { voted := tally.voted, resumed, dispatched := tally.dispatched, skipped }

/-! ### The loop -/

/-- End the loop for good. -/
def stop : Operation Site Unit := do
  updateDispatcher Dispatcher.stop
  .log (.dispatcherStopped (← Operation.read).target.name)

/-- Get ready for a read unless a stop was requested. -/
def beginRead : Operation Site Bool := do
  if (← Operation.read).dispatcher.keepReading then
    updateDispatcher (·.enter .reading)
    return true
  else return false

/-- The last read: the channel fails and the loop ends. -/
def failedRead (failure : ChannelFailure) : Operation Site Unit := do
  if ← beginRead then
    .ask (.read (.error failure))
    .log (.readingStopped failure)
  stop

/-- Read and dispatch event sets until the channel fails or a stop is requested. -/
def run : Channel → Handling Site Unit
  | [] => perform (failedRead .disconnected)
  | .error failure :: _ => perform (failedRead failure)
  | .ok set :: rest => do
    if ← perform beginRead then
      perform (.ask (.read (.ok set)))
      let _ ← dispatch set
      run rest
    else perform stop

end Site

end RemoteDebug
