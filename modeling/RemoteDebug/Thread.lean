import RemoteDebug.Event

/-!
Threads of the target and the registry that keeps them.

* `Thread` is the record of one thread: its number, its status, the step it waits for and the place
  where it last stopped.
* `ThreadRegistry` holds the records in order of appearance. Numbers are handed out once and never
  again, whatever is removed, and the thread in focus is a registered one.
-/

namespace RemoteDebug

inductive ThreadStatus where
  | running | suspended
  /-- A step is requested; the thread runs until the step completes. -/
  | stepping
  | terminated
deriving DecidableEq, Repr, Inhabited

def ThreadStatus.all : List ThreadStatus := [.running, .suspended, .stepping, .terminated]

def ThreadStatus.name : ThreadStatus → String
  | .running => "running"
  | .suspended => "suspended"
  | .stepping => "stepping"
  | .terminated => "terminated"

inductive StepKind where
  | into | over | out
deriving DecidableEq, Repr, Inhabited

def StepKind.all : List StepKind := [.into, .over, .out]

def StepKind.name : StepKind → String
  | .into => "into"
  | .over => "over"
  | .out => "out"

/-- A step that waits for its completion. -/
structure PendingStep where
  kind : StepKind
  request : RequestRef
deriving DecidableEq, Repr, Inhabited

/-- The record of a thread. -/
structure Thread where
  /-- Place in the order of appearance, from 1. -/
  number : Nat
  handle : ThreadRef
  status : ThreadStatus
  pendingStep : Option PendingStep
  /-- Where the thread last stopped, as far as known. -/
  location : Option Location
deriving DecidableEq, Repr, Inhabited

namespace Thread

/-- The record of a thread that just appeared. -/
def appear (number : Nat) (handle : ThreadRef) : Thread :=
  { number, handle, status := .running, pendingStep := none, location := none }

def isSuspended (thread : Thread) : Bool := thread.status = .suspended

def isStepping (thread : Thread) : Bool := thread.pendingStep.isSome

/-- The thread after a step was requested for it. -/
def startStep (thread : Thread) (step : PendingStep) : Thread :=
  { thread with pendingStep := some step, status := .stepping }

/-- The thread after it stopped at a location: whatever step it waited for is over. -/
def stopAt (thread : Thread) (location : Location) : Thread :=
  { thread with status := .suspended, location := some location, pendingStep := none }

/-- The thread with a new status, unless it waits for a step. -/
def setStatus (thread : Thread) (status : ThreadStatus) : Thread :=
  if thread.isStepping then thread else { thread with status }

end Thread

/-- The known threads in order of appearance. -/
structure ThreadRegistry where
  focus : Option ThreadRef := none
  threads : List Thread := []
  /-- The number that was handed out last. -/
  lastNumber : Nat := 0
deriving DecidableEq, Repr, Inhabited

namespace ThreadRegistry

/-- The record of a handle. -/
def get? (registry : ThreadRegistry) (handle : ThreadRef) : Option Thread :=
  registry.threads.find? (·.handle = handle)

def contains (registry : ThreadRegistry) (handle : ThreadRef) : Bool :=
  (registry.get? handle).isSome

/-- Add a thread at the end; a known thread keeps its record. -/
def register (registry : ThreadRegistry) (handle : ThreadRef) : ThreadRegistry :=
  if registry.contains handle then registry
  else
    let number := registry.lastNumber + 1
    { registry with
      threads := registry.threads ++ [.appear number handle]
      lastNumber := number }

/-- Forget a thread; the focus is lost with it. -/
def remove (registry : ThreadRegistry) (handle : ThreadRef) : ThreadRegistry :=
  { registry with
    focus := if registry.focus = some handle then none else registry.focus
    threads := registry.threads.filter (·.handle ≠ handle) }

/-- Forget all threads; numbers go on from where they are. -/
def clear (registry : ThreadRegistry) : ThreadRegistry :=
  { registry with focus := none, threads := [] }

/-- Change the record of one thread. -/
def modify (registry : ThreadRegistry) (handle : ThreadRef) (f : Thread → Thread) :
    ThreadRegistry :=
  { registry with threads := registry.threads.map fun t => if t.handle = handle then f t else t }

/-- Put a known thread into focus; an unknown one leaves the focus where it is. -/
def setFocus (registry : ThreadRegistry) (handle : ThreadRef) : ThreadRegistry :=
  if registry.contains handle then { registry with focus := some handle } else registry

/-- Give every thread that waits for no step a status. -/
def setStatusAll (registry : ThreadRegistry) (status : ThreadStatus) : ThreadRegistry :=
  { registry with threads := registry.threads.map (·.setStatus status) }

/-- The suspended thread that appeared first. -/
def firstSuspended? (registry : ThreadRegistry) : Option ThreadRef :=
  (registry.threads.find? Thread.isSuspended).map (·.handle)

/-- The thread for evaluation: the one in focus if it is suspended, else the first suspended one. -/
def current? (registry : ThreadRegistry) : Option ThreadRef :=
  let focused := registry.focus.filter fun handle =>
    ((registry.get? handle).map Thread.isSuspended).getD false
  focused <|> registry.firstSuspended?

end ThreadRegistry

end RemoteDebug
