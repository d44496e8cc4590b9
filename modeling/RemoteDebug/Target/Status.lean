import RemoteDebug.Thread

/-!
The status of a target and the notices about changes of its model.
-/

namespace RemoteDebug

inductive TargetStatus where
  /-- The target has not reported its start. -/
  | notStarted
  | running | suspended | terminated | disconnected
deriving DecidableEq, Repr, Inhabited

namespace TargetStatus

def name : TargetStatus → String
  | .notStarted => "notstarted"
  | .running => "running"
  | .suspended => "suspended"
  | .terminated => "terminated"
  | .disconnected => "disconnected"

/-- Statuses that nothing follows. -/
def isFinal (status : TargetStatus) : Bool := status = .terminated ∨ status = .disconnected

end TargetStatus

/-- A type loaded since the start of debugging. -/
structure PreparedType where
  type : TypeRef
  name : String
  thread : ThreadRef
deriving DecidableEq, Repr, Inhabited

/-- A notice to the presentation layer about a change of the model. -/
inductive Notice where
  | start (thread : ThreadRef)
  | threadStart (thread : Thread)
  | threadDeath (thread : Thread)
  | classPrepare (type : TypeRef) (name : String)
  /-- A thread stopped after a step. -/
  | step (thread : Thread)
  | exit
  | disconnect
deriving DecidableEq, Repr

/-- The name of a notice, the same for all notices of a sort. -/
def Notice.name : Notice → String
  | .start _ => "start"
  | .threadStart _ => "thread_start"
  | .threadDeath _ => "thread_death"
  | .classPrepare .. => "class_prepare"
  | .step _ => "step"
  | .exit => "exit"
  | .disconnect => "disconnect"

end RemoteDebug
