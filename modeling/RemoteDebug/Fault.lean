import RemoteDebug.Event
import RemoteDebug.Kind
import RemoteDebug.Operator

/-!
Faults: everything that can go wrong, by cause.

* `RemoteFailure` is what a call to the target can end with, `ChannelFailure` what a channel read can
  end with,
* `Fault` joins them with the faults of the target model, of evaluation and of third parties,
* `Fault.message` words a fault, `Fault.isFatal` tells whether reading events can go on after it.
-/

namespace RemoteDebug

/-- The failure of a call to the target. -/
inductive RemoteFailure where
  /-- An application exception was raised inside the target. -/
  | invocation (exception : ObjectRef) (exceptionType : String)
  | disconnected
  | invalidHandle (handle : String)
  | notSupported (operation : String)
  | threadNotSuspended (thread : ThreadRef)
  | protocol (problem : String)
deriving DecidableEq, Repr, Inhabited

namespace RemoteFailure

def message : RemoteFailure → String
  | .invocation exception exceptionType =>
    "exception `" ++ exceptionType ++ "` (" ++ exception.text ++ ") raised in target"
  | .disconnected => "target disconnected"
  | .invalidHandle handle => "invalid handle: " ++ handle
  | .notSupported operation => "operation `" ++ operation ++ "` not supported by target"
  | .threadNotSuspended thread => "thread " ++ thread.text ++ " is not suspended"
  | .protocol problem => "protocol error: " ++ problem

/-- Whether a failure is an application exception of exactly the given type. -/
def isExceptionOf (failure : RemoteFailure) (typeName : String) : Bool :=
  match failure with
  | .invocation _ exceptionType => exceptionType = typeName
  | _ => false

end RemoteFailure

/-- The failure of a read from the event channel. -/
inductive ChannelFailure where
  | disconnected | interrupted
deriving DecidableEq, Repr, Inhabited

def ChannelFailure.message : ChannelFailure → String
  | .disconnected => "event channel disconnected"
  | .interrupted => "event channel read interrupted"

/-- Why an operand does not suit an instruction. -/
inductive OperandProblem where
  | conditionNotBoolean
  | indexNotIntegral
  | assignmentToValue
  | notAnObject
  | negativeArraySize
  | notAnArrayType
  | instanceOfPrimitive
  | textNotString
  | noText
  /-- A problem in somebody else's words. -/
  | other (text : String)
deriving DecidableEq, Repr, Inhabited

def OperandProblem.message : OperandProblem → String
  | .conditionNotBoolean => "condition must be a boolean"
  | .indexNotIntegral => "index must be an integral value"
  | .assignmentToValue => "left side of assignment must be a variable"
  | .notAnObject => "expect an object"
  | .negativeArraySize => "negative array size"
  | .notAnArrayType => "array allocation of a non array type"
  | .instanceOfPrimitive => "instanceof requires a reference operand"
  | .textNotString => "string conversion returns a non string"
  | .noText => "value has no string representation"
  | .other text => text

/-- Why a document does not hold settings. -/
inductive SettingsProblem where
  | malformed
  | unknownKey (key : String)
  | wrongType (key : String)
deriving DecidableEq, Repr, Inhabited

def SettingsProblem.message : SettingsProblem → String
  | .malformed => "not a valid document"
  | .unknownKey key => "unknown key `" ++ key ++ "`"
  | .wrongType key => "wrong type of `" ++ key ++ "`"

/-- Anything that can go wrong. -/
inductive Fault where
  | io (problem : String)
  | settings (problem : SettingsProblem)
  | remote (failure : RemoteFailure)
  | channel (failure : ChannelFailure)
  | noCurrentThread
  | threadNotFound (thread : ThreadRef)
  | alreadyStepping (thread : ThreadRef)
  | targetTerminated
  | unresolvableType (name : String)
  | illegalPromotion (op : BinaryOp) (left right : Kind)
  | illegalUnaryOperand (op : UnaryOp) (kind : Kind)
  | invalidCast (source : Kind) (target : String)
  | divisionByZero
  | stackUnderflow
  | invalidOperand (problem : OperandProblem)
  | nullReceiver
  | internalVariableNotFound (name : String)
  | internalVariableExists (name : String)
  | jumpOutOfRange (position : Int)
  | listenerPanicked (request : RequestRef)
  | hook (problem : String)
deriving DecidableEq, Repr, Inhabited

namespace Fault

def message : Fault → String
  | .io problem => problem
  | .settings problem => "configuration: " ++ problem.message
  | .remote failure => "remote call: " ++ failure.message
  | .channel failure => failure.message
  | .noCurrentThread => "no suspended thread for evaluation"
  | .threadNotFound thread => "thread " ++ thread.text ++ " not found"
  | .alreadyStepping thread => "thread " ++ thread.text ++ " is already stepping"
  | .targetTerminated => "target is terminated or disconnected"
  | .unresolvableType name => "unable to resolve type `" ++ name ++ "`"
  | .illegalPromotion op left right =>
    "operator `" ++ op.symbol ++ "` can not be applied to `" ++ left.name ++ "` and `" ++ right.name
      ++ "`"
  | .illegalUnaryOperand op kind =>
    "operator `" ++ op.symbol ++ "` can not be applied to `" ++ kind.name ++ "`"
  | .invalidCast source target => "can not cast `" ++ source.name ++ "` to `" ++ target ++ "`"
  | .divisionByZero => "division by zero"
  | .stackUnderflow => "evaluation stack underflow"
  | .invalidOperand problem => "invalid operand: " ++ problem.message
  | .nullReceiver => "null receiver"
  | .internalVariableNotFound name => "internal variable `" ++ name ++ "` not found"
  | .internalVariableExists name => "internal variable `" ++ name ++ "` already exists"
  | .jumpOutOfRange position =>
    "jump to instruction " ++ Int.repr position ++ " is out of program"
  | .listenerPanicked request => "listener of " ++ request.text ++ " panicked"
  | .hook problem => "hook: " ++ problem

/-- Faults after which no more events can be read: the connection or the target is gone. -/
def isFatal : Fault → Bool
  | .remote .disconnected | .channel _ | .targetTerminated => true
  | _ => false

/-- The wording of the cause that lies under a fault, where it has one of its own. -/
def cause? : Fault → Option String
  | .settings problem => some problem.message
  | .remote failure => some failure.message
  | _ => none

end Fault

end RemoteDebug
