import RemoteDebug.Fault
import RemoteDebug.Thread
import RemoteDebug.Value

/-!
Calls to the target. Each call names one request that a transport carries to the target process and
waits for; `Call.Answer` is the type of what comes back when the call succeeds.
-/

namespace RemoteDebug

inductive TypeCategory where
  | classType | interfaceType | arrayType | primitiveType
deriving DecidableEq, Repr, Inhabited

namespace TypeCategory

def all : List TypeCategory := [.classType, .interfaceType, .arrayType, .primitiveType]

def name : TypeCategory → String
  | .classType => "class"
  | .interfaceType => "interface"
  | .arrayType => "array"
  | .primitiveType => "primitive"

end TypeCategory

/-- A request to the target process. -/
inductive Call where
  /-- All loaded types of a qualified name; different loaders may have loaded several. -/
  | allTypes (name : String)
  | typeCategory (type : TypeRef)
  /-- The object that represents a type in the target, if the type has one. -/
  | classObject (type : TypeRef)
  | typeOf (object : ObjectRef)
  | isAssignable (source target : TypeRef)
  | invokeStatic (type : TypeRef) (method signature : String) (args : List Value)
      (thread : ThreadRef)
  | invokeMethod (receiver : ObjectRef) (method signature : String) (args : List Value)
      (thread : ThreadRef) (nonVirtual : Bool)
  | newInstance (type : TypeRef) (signature : String) (args : List Value) (thread : ThreadRef)
  | newString (text : String)
  | stringValue (string : ObjectRef)
  | newArray (type : TypeRef) (length : Int32)
  | arrayLength (array : ObjectRef)
  | arrayElement (array : ObjectRef) (index : Int32)
  | setArrayElement (array : ObjectRef) (index : Int32) (value : Value)
  | fieldValue (object : ObjectRef) (name : String)
  | setFieldValue (object : ObjectRef) (name : String) (value : Value)
  | staticFieldValue (type : TypeRef) (name : String)
  | setStaticFieldValue (type : TypeRef) (name : String) (value : Value)
  | localValue (thread : ThreadRef) (frame : Nat) (name : String)
  | setLocalValue (thread : ThreadRef) (frame : Nat) (name : String) (value : Value)
  /-- The receiver of a frame's method, `null` in a static method. -/
  | thisObject (thread : ThreadRef) (frame : Nat)
  | threads
  | resume (thread : ThreadRef)
  | suspendAll
  | resumeAll
  /-- Resume what the delivery of an event set suspended. -/
  | resumeSet (set : EventSet)
  | requestStep (thread : ThreadRef) (kind : StepKind)
  | deleteRequest (request : RequestRef)
  | terminate (exitCode : Int32)
deriving DecidableEq, Repr

/-- The name of a call in a record of calls. -/
def Call.name : Call → String
  | .allTypes _ => "all_types"
  | .typeCategory _ => "type_category"
  | .classObject _ => "class_object"
  | .typeOf _ => "type_of"
  | .isAssignable .. => "is_assignable"
  | .invokeStatic .. => "invoke_static"
  | .invokeMethod .. => "invoke_method"
  | .newInstance .. => "new_instance"
  | .newString _ => "new_string"
  | .stringValue _ => "string_value"
  | .newArray .. => "new_array"
  | .arrayLength _ => "array_length"
  | .arrayElement .. => "array_element"
  | .setArrayElement .. => "set_array_element"
  | .fieldValue .. => "field_value"
  | .setFieldValue .. => "set_field_value"
  | .staticFieldValue .. => "static_field_value"
  | .setStaticFieldValue .. => "set_static_field_value"
  | .localValue .. => "local_value"
  | .setLocalValue .. => "set_local_value"
  | .thisObject .. => "this_object"
  | .threads => "threads"
  | .resume _ => "resume"
  | .suspendAll => "suspend_all"
  | .resumeAll => "resume_all"
  | .resumeSet _ => "resume_set"
  | .requestStep .. => "request_step"
  | .deleteRequest _ => "delete_request"
  | .terminate _ => "terminate"

/-- What a successful call brings back. -/
abbrev Call.Answer : Call → Type
  | .allTypes _ => List TypeRef
  | .typeCategory _ => TypeCategory
  | .classObject _ => Option ObjectRef
  | .typeOf _ => TypeRef
  | .isAssignable .. => Bool
  | .invokeStatic .. | .invokeMethod .. | .newInstance .. | .newString _ | .newArray ..
  | .arrayElement .. | .fieldValue .. | .staticFieldValue .. | .localValue .. | .thisObject .. =>
    Value
  | .stringValue _ => String
  | .arrayLength _ => Int32
  | .threads => List ThreadRef
  | .requestStep .. => RequestRef
  | .setArrayElement .. | .setFieldValue .. | .setStaticFieldValue .. | .setLocalValue ..
  | .resume _ | .suspendAll | .resumeAll | .resumeSet _ | .deleteRequest _ | .terminate _ => Unit

end RemoteDebug
