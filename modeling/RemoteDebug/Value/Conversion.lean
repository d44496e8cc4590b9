import RemoteDebug.Value

/-!
Primitive conversions: widening and narrowing between the numeric kinds.

* An integer is reduced modulo the width of its new kind.
* A float is cut to an integer toward zero, limited to the range of the new kind, NaN becoming zero;
  kinds narrower than `int` are reached through `int`.
* `Value.convert` refuses everything else, booleans included, except the identity.
-/

namespace RemoteDebug.Value

/-- The number that an integral value stands for. -/
def integer? : Value → Option Int
  | .byte v => some v.toInt
  | .short v => some v.toInt
  | .char unit => some unit.toNat
  | .int v => some v.toInt
  | .long v => some v.toInt
  | _ => none

/-- The value of a numeric kind for a number in the range of `long`, reduced or rounded to the kind. -/
def ofInteger? (n : Int) : Kind → Option Value
  | .byte => some (.byte (Int8.ofInt n))
  | .short => some (.short (Int16.ofInt n))
  | .char => some (.char (UInt16.ofInt n))
  | .int => some (.int (Int32.ofInt n))
  | .long => some (.long (Int64.ofInt n))
  | .float => some (.float (Int64.ofInt n).toFloat32)
  | .double => some (.double (Int64.ofInt n).toFloat)
  | _ => none

/-- The value of a numeric kind for a double, limited to the range of an integral kind. -/
def ofDouble? (v : Float) : Kind → Option Value
  | .byte => some (.byte (Int8.ofInt v.toInt32.toInt))
  | .short => some (.short (Int16.ofInt v.toInt32.toInt))
  | .char => some (.char (UInt16.ofInt v.toInt32.toInt))
  | .int => some (.int v.toInt32)
  | .long => some (.long v.toInt64)
  | .float => some (.float v.toFloat32)
  | .double => some (.double v)
  | _ => none

/-- Primitive conversion of a value; `none` where the language allows none. -/
def convert (value : Value) (kind : Kind) : Option Value :=
  if value.kind = kind ∧ value.isPrimitive then some value
  else
    match value with
    | .float v => ofDouble? v.toFloat kind
    | .double v => ofDouble? v kind
    | _ => value.integer? >>= (ofInteger? · kind)

end RemoteDebug.Value
