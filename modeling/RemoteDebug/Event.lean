import RemoteDebug.Handle

/-!
Events: notifications that a target sends about itself, grouped into sets that are dispatched and
resumed as a unit.
-/

namespace RemoteDebug

/-- A code position in the target. -/
structure Location where
  type : TypeRef
  method : Nat
  codeIndex : Nat
deriving DecidableEq, Repr, Inhabited

/-- What happened in the target, with what the target says about it. -/
inductive Happening where
  | vmStart (thread : ThreadRef)
  | vmDeath
  | vmDisconnect
  | threadStart (thread : ThreadRef)
  | threadDeath (thread : ThreadRef)
  /-- A type is loaded and prepared. -/
  | classPrepare (thread : ThreadRef) (type : TypeRef) (name : String)
  /-- A step requested for a thread completed. -/
  | step (thread : ThreadRef) (location : Location)
  | breakpoint (thread : ThreadRef) (location : Location)
  | exception (thread : ThreadRef) (location : Location) (thrown : ObjectRef)
  | methodEntry (thread : ThreadRef) (location : Location)
  | methodExit (thread : ThreadRef) (location : Location)
  /-- A category that only its name is known of. -/
  | other (name : String)
deriving DecidableEq, Repr

namespace Happening

/-- The short name of a category. -/
def name : Happening → String
  | .vmStart _ => "vm-start"
  | .vmDeath => "vm-death"
  | .vmDisconnect => "vm-disconnect"
  | .threadStart _ => "thread-start"
  | .threadDeath _ => "thread-death"
  | .classPrepare .. => "class-prepare"
  | .step .. => "step"
  | .breakpoint .. => "breakpoint"
  | .exception .. => "exception"
  | .methodEntry .. => "method-entry"
  | .methodExit .. => "method-exit"
  | .other name => name

/-- The thread in which it happened. -/
def thread? : Happening → Option ThreadRef
  | .vmStart thread | .threadStart thread | .threadDeath thread | .classPrepare thread ..
  | .step thread _ | .breakpoint thread _ | .exception thread .. | .methodEntry thread _
  | .methodExit thread _ => some thread
  | .vmDeath | .vmDisconnect | .other _ => none

end Happening

/-- A single notification. -/
structure Event where
  /-- The request that asked for the notification; some are sent without one. -/
  request : Option RequestRef
  happening : Happening
deriving DecidableEq, Repr

/-- The form in which an event is shown: its name, its thread and its request. -/
def Event.text (event : Event) : String :=
  let thread := (event.happening.thread?.map fun t => "(" ++ t.text ++ ")").getD ""
  let request := (event.request.map fun r => " by " ++ r.text).getD ""
  event.happening.name ++ thread ++ request

/-- Which threads the target suspended before it delivered a set. -/
inductive SuspendPolicy where
  | none | eventThread | all
deriving DecidableEq, Repr, Inhabited

namespace SuspendPolicy

/-- The policies, the mildest first. -/
def list : List SuspendPolicy := [.none, .eventThread, .all]

def name : SuspendPolicy → String
  | .none => "none"
  | .eventThread => "event_thread"
  | .all => "all"

end SuspendPolicy

/-- A group of causally related events in the order of delivery. -/
structure EventSet where
  policy : SuspendPolicy
  events : List Event
deriving DecidableEq, Repr

namespace EventSet

def size (set : EventSet) : Nat := set.events.length

/-- The form in which a set is shown: its events in brackets. -/
def text (set : EventSet) : String :=
  "[" ++ ", ".intercalate (set.events.map Event.text) ++ "]"

end EventSet

end RemoteDebug
