import RemoteDebug.Binary.Remainder
import RemoteDebug.Fault
import RemoteDebug.Value.Conversion

/-!
Operators on values.

* `BinaryOp.apply` promotes both operands and computes in the promoted kind. Integers wrap around at
  their width, floats follow the standard, and single precision is computed in double precision and
  rounded once. Shifts promote their operands one by one and keep the kind of the left one.
* `UnaryOp.apply` promotes its operand; only `!` takes a boolean.
* `Value.truth` and `Value.index` read a condition and an array index.

Joining texts needs the target and is not done here.
-/

namespace RemoteDebug

namespace BinaryOp

/-- A comparison of two operands of one ordered kind. -/
def compare? {α : Type} [LT α] [DecidableLT α] [LE α] [DecidableLE α] [BEq α] (op : BinaryOp)
    (l r : α) : Option Bool :=
  match op with
  | .less => some (l < r)
  | .lessEq => some (l ≤ r)
  | .greater => some (r < l)
  | .greaterEq => some (r ≤ l)
  | .equal => some (l == r)
  | .notEqual => some (l != r)
  | _ => none

/-- Arithmetic and bitwise operators on words of one width; a shift is none of them. -/
def word? {α : Type} [Add α] [Sub α] [Mul α] [Div α] [Mod α] [AndOp α] [OrOp α] [XorOp α]
    (op : BinaryOp) (l r : α) : Option α :=
  match op with
  | .add => some (l + r)
  | .sub => some (l - r)
  | .mul => some (l * r)
  | .div => some (l / r)
  | .rem => some (l % r)
  | .and => some (l &&& r)
  | .or => some (l ||| r)
  | .xor => some (l ^^^ r)
  | _ => none

/-- Arithmetic operators on doubles. -/
def real? (op : BinaryOp) (l r : Float) : Option Float :=
  match op with
  | .add => some (l + r)
  | .sub => some (l - r)
  | .mul => some (l * r)
  | .div => some (l / r)
  | .rem => some (Binary.remainder l r)
  | _ => none

/-- Operators on booleans. -/
def boolean? (op : BinaryOp) (l r : Bool) : Option Bool :=
  match op with
  | .and => some (l && r)
  | .or => some (l || r)
  | .xor | .notEqual => some (l != r)
  | .equal => some (l == r)
  | _ => none

/-- Operators that refuse a zero on their right. -/
def isDivision (op : BinaryOp) : Bool := op = .div ∨ op = .rem

/-- A shift by `distance` taken modulo the width of the shifted word. -/
def shift32 (op : BinaryOp) (l : Int32) (distance : Int64) : Int32 :=
  let s := (distance &&& 31).toInt32
  match op with
  | .shl => l <<< s
  | .shr => l >>> s
  | _ => (l.toUInt32 >>> s.toUInt32).toInt32

/-- A shift by `distance` taken modulo the width of the shifted word. -/
def shift64 (op : BinaryOp) (l : Int64) (distance : Int64) : Int64 :=
  let s := distance &&& 63
  match op with
  | .shl => l <<< s
  | .shr => l >>> s
  | _ => (l.toUInt64 >>> s.toUInt64).toInt64

/-- The distance that the right operand of a shift stands for. -/
def distance? (right : Value) : Option Int64 :=
  match right.convert right.kind.promoteUnary with
  | some (.int v) => some v.toInt64
  | some (.long v) => some v
  | _ => none

/-- A shift of promoted operands. -/
def shift? (op : BinaryOp) (left right : Value) : Option Value :=
  match left.convert left.kind.promoteUnary, distance? right with
  | some (.int l), some distance => some (.int (op.shift32 l distance))
  | some (.long l), some distance => some (.long (op.shift64 l distance))
  | _, _ => none

/-- An operator on operands of one promoted kind; a division by zero is left to the caller. -/
def promoted? (op : BinaryOp) (left right : Value) : Option Value :=
  match left, right with
  | .boolean l, .boolean r => (op.boolean? l r).map .boolean
  | .int l, .int r => (op.word? l r).map .int <|> (op.compare? l r).map .boolean
  | .long l, .long r => (op.word? l r).map .long <|> (op.compare? l r).map .boolean
  | .float l, .float r =>
    (op.real? l.toFloat r.toFloat).map (.float ·.toFloat32) <|> (op.compare? l r).map .boolean
  | .double l, .double r => (op.real? l r).map .double <|> (op.compare? l r).map .boolean
  | _, _ => none

/-- Both operands in the kind that they promote to. -/
def promoteBoth? (left right : Value) : Option (Value × Value) := do
  let kind := Kind.promote left.kind right.kind
  let l ← left.convert kind
  let r ← right.convert kind
  return (l, r)

/-- The result of a binary operator on two values. -/
def apply (op : BinaryOp) (left right : Value) : Except Fault Value :=
  let illegal := Fault.illegalPromotion op left.kind right.kind
  if (op = .equal ∨ op = .notEqual) ∧ left.kind.isReference ∧ right.kind.isReference then
    .ok (.boolean ((left.handle? = right.handle?) == (op = .equal)))
  else if op.isShift then
    (op.shift? left right).elim (.error illegal) .ok
  else
    match promoteBoth? left right with
    | some (l, r) =>
      if op.isDivision ∧ (r = .int 0 ∨ r = .long 0) then .error .divisionByZero
      else (op.promoted? l r).elim (.error illegal) .ok
    | none => .error illegal

end BinaryOp

namespace UnaryOp

/-- An operator on an operand of a promoted kind. -/
def promoted? (op : UnaryOp) (operand : Value) : Option Value :=
  match op, operand with
  | .plus, v => some v
  | .minus, .int v => some (.int (-v))
  | .minus, .long v => some (.long (-v))
  | .minus, .float v => some (.float (-v))
  | .minus, .double v => some (.double (-v))
  | .complement, .int v => some (.int (~~~v))
  | .complement, .long v => some (.long (~~~v))
  | _, _ => none

/-- The result of a unary operator on a value. -/
def apply (op : UnaryOp) (operand : Value) : Except Fault Value :=
  let result :=
    match op, operand with
    | .not, .boolean b => some (Value.boolean (!b))
    | .not, _ => none
    | _, _ => operand.convert operand.kind.promoteUnary >>= op.promoted?
  result.elim (.error (.illegalUnaryOperand op operand.kind)) .ok

end UnaryOp

namespace Value

/-- The truth of a condition. -/
def truth : Value → Except Fault Bool
  | .boolean b => .ok b
  | _ => .error (.invalidOperand .conditionNotBoolean)

/-- An index or a length; a `long` is none. -/
def index (value : Value) : Except Fault Int32 :=
  match value.convert value.kind.promoteUnary with
  | some (.int v) => .ok v
  | _ => .error (.invalidOperand .indexNotIntegral)

end Value

end RemoteDebug
