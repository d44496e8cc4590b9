import RemoteDebug.Dispatcher
import RemoteDebug.Interpreter
import RemoteDebug.Remote.Memory
import RemoteDebug.Settings.Document
import RemoteDebug.Proofs.Course
import RemoteDebug.Proofs.Handling
import RemoteDebug.Proofs.Interlude
import RemoteDebug.Proofs.Turn
import RemoteDebug.Proofs.Delivery
import RemoteDebug.Proofs.Dispatch
import RemoteDebug.Proofs.Voting
import RemoteDebug.Proofs.Order
import RemoteDebug.Proofs.Reading
import RemoteDebug.Proofs.TargetEnd
import RemoteDebug.Proofs.Registry
import RemoteDebug.Proofs.Keeping
import RemoteDebug.Proofs.Act
import RemoteDebug.Proofs.Coherence
import RemoteDebug.Proofs.Undertaking
import RemoteDebug.Proofs.Aftermath
import RemoteDebug.Proofs.Primitive
import RemoteDebug.Proofs.Evaluation
import RemoteDebug.Proofs.Expression
import RemoteDebug.Proofs.Walk
import RemoteDebug.Proofs.Effect
import RemoteDebug.Proofs.Balance
import RemoteDebug.Proofs.Cause
import RemoteDebug.Proofs.Composition
import RemoteDebug.Proofs.Failure
import RemoteDebug.Proofs.History
import RemoteDebug.Proofs.Facade
import RemoteDebug.Proofs.Cancellation
import RemoteDebug.Proofs.Declaration
import RemoteDebug.Proofs.Reference
import RemoteDebug.Proofs.StepRequests
import RemoteDebug.Proofs.Finality
import RemoteDebug.Proofs.Unswayed
import RemoteDebug.Proofs.Rollback
import RemoteDebug.Proofs.Completion
import RemoteDebug.Proofs.Notification
import RemoteDebug.Proofs.Batching
import RemoteDebug.Proofs.Inquiry
import RemoteDebug.Proofs.Assignment
import RemoteDebug.Proofs.Restraint
import RemoteDebug.Proofs.Constancy
import RemoteDebug.Proofs.Shorthand
import RemoteDebug.Proofs.Integral
import RemoteDebug.Proofs.Word
import RemoteDebug.Proofs.Arithmetic
import RemoteDebug.Proofs.Reconciliation
import RemoteDebug.Proofs.Concatenation
import RemoteDebug.Proofs.Jump
import RemoteDebug.Proofs.Advance
import RemoteDebug.Proofs.Membership
import RemoteDebug.Proofs.Numbering
import RemoteDebug.Proofs.Argument
import RemoteDebug.Proofs.Lookup
import RemoteDebug.Proofs.Anchor
