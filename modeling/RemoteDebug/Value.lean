import RemoteDebug.Handle
import RemoteDebug.Kind

/-!
Values of the target. Primitive values are copied to the controlling side; strings and objects stay
in the target and are represented by handles.

* `Value.kind` is the kind of a value, `Value.default?` the zero of a kind,
* `Value.same` is the equality of the language: floats compare as numbers, so NaN differs from
  itself and the two zeros are equal.
-/

namespace RemoteDebug

/-- A value of the target. -/
inductive Value where
  | boolean (b : Bool)
  | byte (v : Int8)
  | short (v : Int16)
  | char (unit : UInt16)
  | int (v : Int32)
  | long (v : Int64)
  | float (v : Float32)
  | double (v : Float)
  | string (handle : ObjectRef)
  | object (handle : ObjectRef)
  | null
  | void
deriving DecidableEq, Repr, Inhabited

namespace Value

def kind : Value → Kind
  | .boolean _ => .boolean
  | .byte _ => .byte
  | .short _ => .short
  | .char _ => .char
  | .int _ => .int
  | .long _ => .long
  | .float _ => .float
  | .double _ => .double
  | .string _ => .string
  | .object _ => .object
  | .null => .null
  | .void => .void

/-- The zero of a kind, `null` for the reference kinds; `void` and `undefined` have none. -/
def default? : Kind → Option Value
  | .boolean => some (.boolean false)
  | .byte => some (.byte 0)
  | .short => some (.short 0)
  | .char => some (.char 0)
  | .int => some (.int 0)
  | .long => some (.long 0)
  | .float => some (.float 0)
  | .double => some (.double 0)
  | .object | .string | .null => some .null
  | .void | .undefined => none

/-- The handle of a string or an object. -/
def handle? : Value → Option ObjectRef
  | .string handle | .object handle => some handle
  | _ => none

/-- Values that are copied rather than referred to. -/
def isPrimitive (value : Value) : Bool := value.kind.isNumeric || value.kind = .boolean

/-- Equality of the language: floats compare as numbers, everything else by identity. -/
def same : Value → Value → Bool
  | .float l, .float r => l == r
  | .double l, .double r => l == r
  | l, r => l = r

end Value

end RemoteDebug
