/-!
Kinds of target values and the promotion of operands.

* `Kind.promote` is the kind in which a binary operator computes, `Kind.undefined` for an illegal pair,
* `Kind.promoteUnary` is the kind in which a unary numeric operator computes.

Promotion follows three rules. Text absorbs every operand that has a text. Two booleans stay boolean.
Two numeric kinds meet in the wider one, and nothing narrower than `int` survives.
-/

namespace RemoteDebug

/-- The kind of a value or of a type. -/
inductive Kind where
  | undefined | object | char | byte | short | boolean | void | long | double | float | int | string
  | null
deriving DecidableEq, Repr, Inhabited

namespace Kind

/-- All kinds, in the order of their indexes. -/
def all : List Kind :=
  [.undefined, .object, .char, .byte, .short, .boolean, .void, .long, .double, .float, .int, .string,
    .null]

/-- Position of a kind in `all`. -/
def index (kind : Kind) : Nat := all.idxOf kind

def name : Kind → String
  | .undefined => "undefined"
  | .object => "object"
  | .char => "char"
  | .byte => "byte"
  | .short => "short"
  | .boolean => "boolean"
  | .void => "void"
  | .long => "long"
  | .double => "double"
  | .float => "float"
  | .int => "int"
  | .string => "string"
  | .null => "null"

/-- The kind of a primitive type by the name that expressions use for it. -/
def ofPrimitiveName? : String → Option Kind
  | "boolean" => some .boolean
  | "byte" => some .byte
  | "short" => some .short
  | "char" => some .char
  | "int" => some .int
  | "long" => some .long
  | "float" => some .float
  | "double" => some .double
  | "void" => some .void
  | _ => none

/-- Place of a numeric kind in the order of widening; everything up to `int` shares the lowest. -/
def rank? : Kind → Option Nat
  | .char | .byte | .short | .int => some 0
  | .long => some 1
  | .float => some 2
  | .double => some 3
  | _ => none

/-- Kinds that take part in numeric promotion. -/
def isNumeric (kind : Kind) : Bool := kind.rank?.isSome

/-- The two integral kinds that remain after promotion. -/
def isIntegral (kind : Kind) : Bool := kind = .int ∨ kind = .long

/-- Kinds whose values are handles into the target. -/
def isReference (kind : Kind) : Bool := kind = .object ∨ kind = .string ∨ kind = .null

/-- Kinds whose values can be joined to a text. -/
def hasText (kind : Kind) : Bool := kind ≠ .void ∧ kind ≠ .undefined

/-- The promoted kind of a place in the order of widening. -/
def ofRank : Nat → Kind
  | 0 => .int
  | 1 => .long
  | 2 => .float
  | _ => .double

/-- The kind in which a binary operator computes its operands; `undefined` is an illegal pair. -/
def promote (left right : Kind) : Kind :=
  if left = .string ∨ right = .string then
    if left.hasText ∧ right.hasText then .string else .undefined
  else if left = .boolean ∧ right = .boolean then .boolean
  else
    match left.rank?, right.rank? with
    | some l, some r => ofRank (max l r)
    | _, _ => .undefined

/-- The kind in which a unary numeric operator computes its operand. -/
def promoteUnary (kind : Kind) : Kind := promote kind .int

end Kind

end RemoteDebug
