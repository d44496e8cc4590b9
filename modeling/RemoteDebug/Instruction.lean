import RemoteDebug.Binary.Layout
import RemoteDebug.Operator
import RemoteDebug.Text.Quoted
import RemoteDebug.Value

/-!
Instructions of expression programs.

A program is a list of instructions for a stack machine, built by a compiler front end. Each
instruction notes its effect on the stack as `[before] -> [after]`, the rightmost entry being the top.
-/

namespace RemoteDebug

/-- A constant of an expression. Primitive constants become values at once; text has to be created in
the target. -/
inductive Literal where
  | boolean (b : Bool)
  | byte (v : Int8)
  | short (v : Int16)
  | char (unit : UInt16)
  | int (v : Int32)
  | long (v : Int64)
  | float (v : Float32)
  | double (v : Float)
  | string (text : String)
deriving DecidableEq, Repr, Inhabited

namespace Literal

/-- The value of a primitive constant. -/
def primitive? : Literal → Option Value
  | .boolean b => some (.boolean b)
  | .byte v => some (.byte v)
  | .short v => some (.short v)
  | .char unit => some (.char unit)
  | .int v => some (.int v)
  | .long v => some (.long v)
  | .float v => some (.float v)
  | .double v => some (.double v)
  | .string _ => none

/-- Equality of the language, under which NaN differs from itself. -/
def same : Literal → Literal → Bool
  | .float l, .float r => l == r
  | .double l, .double r => l == r
  | l, r => l = r

/-- Constants are listed with floats in positional form from a ten thousandth up to ten to the 16. -/
def floatLayout : Binary.Layout := ⟨-4, 16, 'e', false, "inf"⟩

/-- The form in which a constant is listed: its kind and its value. -/
def listing : Literal → String
  | .boolean b => "Boolean(" ++ (if b then "true" else "false") ++ ")"
  | .byte v => "Byte(" ++ Int.repr v.toInt ++ ")"
  | .short v => "Short(" ++ Int.repr v.toInt ++ ")"
  | .char unit => "Char(" ++ Nat.repr unit.toNat ++ ")"
  | .int v => "Int(" ++ Int.repr v.toInt ++ ")"
  | .long v => "Long(" ++ Int.repr v.toInt ++ ")"
  | .float v => "Float(" ++ floatLayout.write .single (Binary.ofSingle v) ++ ")"
  | .double v => "Double(" ++ floatLayout.write .double (Binary.ofDouble v) ++ ")"
  | .string text => "String(" ++ Text.quote text ++ ")"

end Literal

/-- A single step of a program. -/
inductive Instruction where
  /-- The effect is `[] -> [value]`. -/
  | pushLiteral (literal : Literal)
  /-- The effect is `[] -> [null]`. -/
  | pushNull
  /-- The effect is `[] -> [this]`, the receiver of the evaluation frame. -/
  | pushThis
  /-- The effect is `[] -> [class object]`. -/
  | pushClassObject (typeName : String)
  /-- The effect is `[] -> [variable]`. -/
  | pushLocal (name : String)
  /-- The effect is `[object] -> [variable]`. -/
  | pushField (name : String)
  /-- The effect is `[] -> [variable]`. -/
  | pushStatic (typeName : String) (name : String)
  /-- The effect is `[] -> [variable]`. -/
  | pushInternal (name : String)
  /-- The effect is `[] -> []`: an internal variable is declared with the default of its type. -/
  | createInternal (name : String) (typeName : String)
  /-- The effect is `[array, index] -> [variable]`. -/
  | arrayAccess
  /-- The effect is `[array] -> [int]`. -/
  | arrayLength
  /-- The effect is `[length] -> [array]`. -/
  | newArray (arrayType : String)
  /-- The effect is `[receiver, arg1 .. argN] -> [result]`. -/
  | send (selector : String) (signature : String) (argCount : Nat) (nonVirtual : Bool)
  /-- The effect is `[arg1 .. argN] -> [result]`. -/
  | sendStatic (typeName : String) (selector : String) (signature : String) (argCount : Nat)
  /-- The effect is `[arg1 .. argN] -> [object]`. -/
  | newObject (typeName : String) (signature : String) (argCount : Nat)
  /-- The effect is `[left, right] -> [result]`. -/
  | binary (op : BinaryOp)
  /-- The effect is `[operand] -> [result]`. -/
  | unary (op : UnaryOp)
  /-- The effect is `[value] -> [value]`: a primitive conversion or a checked reference cast. -/
  | cast (typeName : String)
  /-- The effect is `[value] -> [boolean]`. -/
  | instanceOf (typeName : String)
  /-- The effect is `[variable, value] -> [value]`. -/
  | assign
  /-- The effect is `[variable, value] -> [value]`. -/
  | compoundAssign (op : BinaryOp)
  /-- The effect is `[value] -> []`: the value becomes the last value. -/
  | pop
  /-- The effect is `[entry] -> [entry, entry]`. -/
  | dup
  /-- The effect is `[] -> []`: a jump relative to the next instruction. -/
  | jump (offset : Int64)
  /-- The effect is `[boolean] -> []`: a jump if the condition equals `jumpOn`. -/
  | conditionalJump (offset : Int64) (jumpOn : Bool)
  /-- The effect is `[] -> []`: the program ends. -/
  | return
  /-- The effect is `[] -> []`. -/
  | noOp
deriving DecidableEq, Repr, Inhabited

namespace Instruction

/-- The footprint of an instruction, the unit of jump offsets. -/
def size (_ : Instruction) : Nat := 1

/-- Equality of the language, under which a constant NaN differs from itself. -/
def same : Instruction → Instruction → Bool
  | .pushLiteral l, .pushLiteral r => l.same r
  | l, r => l = r

/-- The form in which an instruction is listed. -/
def listing : Instruction → String
  | .pushLiteral literal => "push " ++ literal.listing
  | .pushNull => "push null"
  | .pushThis => "push this"
  | .pushClassObject typeName => "push " ++ typeName ++ ".class"
  | .pushLocal name => "push local " ++ name
  | .pushField name => "push field " ++ name
  | .pushStatic typeName name => "push static " ++ typeName ++ "." ++ name
  | .pushInternal name => "push internal " ++ name
  | .createInternal name typeName => "create internal " ++ typeName ++ " " ++ name
  | .arrayAccess => "array access"
  | .arrayLength => "array length"
  | .newArray arrayType => "new " ++ arrayType
  | .send selector _ argCount nonVirtual =>
    "send " ++ (if nonVirtual then "super " else "") ++ selector ++ "/" ++ Nat.repr argCount
  | .sendStatic typeName selector _ argCount =>
    "send static " ++ typeName ++ "." ++ selector ++ "/" ++ Nat.repr argCount
  | .newObject typeName _ argCount => "new " ++ typeName ++ "/" ++ Nat.repr argCount
  | .binary op => "'" ++ op.symbol ++ "'"
  | .unary op => "unary '" ++ op.symbol ++ "'"
  | .cast typeName => "cast (" ++ typeName ++ ")"
  | .instanceOf typeName => "instanceof " ++ typeName
  | .assign => "'='"
  | .compoundAssign op => "'" ++ op.symbol ++ "='"
  | .pop => "pop"
  | .dup => "dup"
  | .jump offset => "jump " ++ Int.repr offset.toInt
  | .conditionalJump offset jumpOn =>
    "jump " ++ Int.repr offset.toInt ++ " if " ++ (if jumpOn then "true" else "false")
  | .return => "return"
  | .noOp => "no-op"

end Instruction

/-- A program, built once and run from its first instruction. -/
abbrev Program := List Instruction

namespace Program

/-- The footprint of a whole program. -/
def size (program : Program) : Nat := (program.map Instruction.size).foldr (· + ·) 0

/-- Equality of the language on whole programs. -/
def same (left right : Program) : Bool :=
  left.length = right.length ∧ (left.zip right).all fun (l, r) => l.same r

end Program

end RemoteDebug
