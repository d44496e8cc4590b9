import RemoteDebug.Fault
import RemoteDebug.Instruction
import RemoteDebug.Target.Status

/-!
What is told on the side: log entries and reports.

* `LogEntry` names the occasions on which a line is logged, `LogEntry.line` words them,
* `Report` is a fault or an oddity that was dealt with on the spot; where it ends up is the business of
  the embedding application, and `Report.line` is its form in a log,
* `Fault.noticed` is the line for a fault that is passed over.
-/

namespace RemoteDebug

/-- The weight of a log line, the gravest first. -/
inductive Level where
  | error | warn | info | debug | trace
deriving DecidableEq, Repr, Inhabited

namespace Level

def all : List Level := [.error, .warn, .info, .debug, .trace]

def name : Level → String
  | .error => "ERROR"
  | .warn => "WARN"
  | .info => "INFO"
  | .debug => "DEBUG"
  | .trace => "TRACE"

/-- Place in the order from the gravest. -/
def rank : Level → Nat
  | .error => 0
  | .warn => 1
  | .info => 2
  | .debug => 3
  | .trace => 4

/-- Whether a line of this weight passes a log that is open up to a level, or closed. -/
def passes (level : Level) : Option Level → Bool
  | none => false
  | some limit => level.rank ≤ limit.rank

end Level

/-- A line of a log. -/
structure LogLine where
  level : Level
  /-- The part of the program that speaks. -/
  source : String
  text : String
deriving DecidableEq, Repr

/-- The parts of the library that speak. -/
inductive Component where
  | target | dispatcher | interpreter | library
deriving DecidableEq, Repr, Inhabited

def Component.name : Component → String
  | .target => "target"
  | .dispatcher => "dispatcher"
  | .interpreter => "interpreter"
  | .library => "remora"

/-- An occasion on which a line is logged. -/
inductive LogEntry where
  | statusSet (target : String) (status : TargetStatus)
  | threadsReleased (target : String) (status : TargetStatus) (count : Nat)
  | threadStarted (thread : Thread)
  | threadDied (thread : Thread)
  | unknownThreadDied (thread : ThreadRef)
  | typePrepared (type : TypeRef) (name : String)
  | stepRequested (kind : StepKind) (thread : ThreadRef) (request : RequestRef)
  | stepRollback (failure : RemoteFailure)
  | dispatching (set : EventSet)
  | dispatched (count skipped : Nat) (resumed : Bool)
  | staleStep (thread : ThreadRef)
  | unhandled (event : Event)
  | readingStopped (failure : ChannelFailure)
  | dispatcherStopped (target : String)
  | shutdownRequested
  | instruction (position : Nat) (executed : Instruction)
  | stoppedBefore (position : Nat)
  | evaluationFailed (fault : Fault)
  | typeNotFound (name : String)
  | noCandidate (count : Nat) (name : String) (classObject : ObjectRef)
deriving DecidableEq, Repr

namespace LogEntry

def component : LogEntry → Component
  | .statusSet .. | .threadsReleased .. | .threadStarted _ | .threadDied _ | .unknownThreadDied _
  | .typePrepared .. | .stepRequested .. => .target
  | .stepRollback _ => .library
  | .dispatching _ | .dispatched .. | .staleStep _ | .unhandled _ | .readingStopped _
  | .dispatcherStopped _ | .shutdownRequested => .dispatcher
  | .instruction .. | .stoppedBefore _ | .evaluationFailed _ | .typeNotFound _ | .noCandidate .. =>
    .interpreter

def level : LogEntry → Level
  | .stepRollback _ => .warn
  | _ => .debug

/-- A number written to the right of a column of three. -/
def column (n : Nat) : String :=
  let digits := Nat.repr n
  String.ofList (List.replicate (3 - digits.length) ' ') ++ digits

def text : LogEntry → String
  | .statusSet target status => target ++ " status: " ++ status.name
  | .threadsReleased target status count =>
    target ++ " " ++ status.name ++ ", " ++ Nat.repr count ++ " threads released"
  | .threadStarted thread =>
    "thread " ++ thread.handle.text ++ " started (num " ++ Nat.repr thread.number ++ ")"
  | .threadDied thread =>
    "thread " ++ thread.handle.text ++ " died (num " ++ Nat.repr thread.number ++ ")"
  | .unknownThreadDied thread => "death of unknown thread " ++ thread.text
  | .typePrepared type name => "type " ++ name ++ " (" ++ type.text ++ ") prepared"
  | .stepRequested kind thread request =>
    "step " ++ kind.name ++ " in " ++ thread.text ++ " by " ++ request.text
  | .stepRollback failure => "step rollback: " ++ failure.message
  | .dispatching set => "dispatch " ++ set.text
  | .dispatched count skipped resumed =>
    "dispatched " ++ Nat.repr count ++ " event(s), skipped " ++ Nat.repr skipped ++
      ", resumed: " ++ (if resumed then "true" else "false")
  | .staleStep thread => "stale step in " ++ thread.text ++ ", resume it"
  | .unhandled event => "no handler for " ++ event.text ++ ", ignored"
  | .readingStopped failure => "stop reading: " ++ failure.message
  | .dispatcherStopped target => target ++ " dispatcher stopped"
  | .shutdownRequested => "shutdown requested"
  | .instruction position executed => column position ++ ": " ++ executed.listing
  | .stoppedBefore position => "stopped before instruction " ++ Nat.repr position
  | .evaluationFailed fault => "evaluation failed: " ++ fault.message
  | .typeNotFound name => "type " ++ name ++ " not found by loader"
  | .noCandidate count name classObject =>
    "none of " ++ Nat.repr count ++ " types named " ++ name ++ " matches " ++ classObject.text

def line (entry : LogEntry) : LogLine := ⟨entry.level, entry.component.name, entry.text⟩

end LogEntry

/-- An oddity that is no fault. -/
inductive Oddity where
  | listenerReplaced (request : RequestRef)
  | evaluationCancelled
deriving DecidableEq, Repr, Inhabited

def Oddity.message : Oddity → String
  | .listenerReplaced request => "listener of " ++ request.text ++ " replaced"
  | .evaluationCancelled => "evaluation cancelled"

/-- Something that was dealt with on the spot. -/
inductive Report where
  | error (component : Component) (fault : Fault)
  | warning (component : Component) (oddity : Oddity)
deriving DecidableEq, Repr

/-- The line for a reported fault: its message, and its cause where that has words of its own. -/
def Fault.reported (source : String) (fault : Fault) : LogLine :=
  ⟨.error, source, fault.message ++ (fault.cause?.map (": " ++ ·)).getD ""⟩

/-- The form of a report in a log. -/
def Report.line : Report → LogLine
  | .error component fault => fault.reported component.name
  | .warning component oddity => ⟨.warn, component.name, oddity.message⟩

/-- The line for a fault that is passed over, after a few words on the occasion. -/
def Fault.noticed (fault : Fault) (level : Level) (occasion : String) : LogLine :=
  ⟨level, Component.library.name, (if occasion.isEmpty then "" else occasion ++ " ") ++ fault.message⟩

/-- What is told on the side of an operation. -/
inductive Note where
  | log (entry : LogEntry)
  | report (report : Report)
deriving DecidableEq, Repr

end RemoteDebug
