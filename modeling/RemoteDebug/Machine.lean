import RemoteDebug.Operator.Evaluation
import RemoteDebug.Resolution
import RemoteDebug.Value.Text
import RemoteDebug.Variable

/-!
The stack machine of expressions.

* `Machine` is the state of one evaluation: the stack, whose top comes first, the internal variables and
  the value that was popped last.
* `Evaluation` is the type of an instruction at work: it may change the machine and call the target, and
  it may fail; a failed instruction leaves the machine as it was at that moment.
* `Evaluation.execute` performs one instruction. Variables on the stack are read when their value is
  needed.

The machine belongs to one evaluation alone. What is shared is the flag that lets the evaluation run, and
instructions do not look at it.
-/

namespace RemoteDebug

/-- An entry of the stack. -/
inductive StackEntry where
  | value (value : Value)
  | place (place : Variable)
deriving DecidableEq, Repr

/-- The state of an evaluation. -/
structure Machine where
  /-- The stack, its top first. -/
  stack : List StackEntry := []
  internals : Internals := {}
  lastValue : Option Value := none
deriving DecidableEq, Repr

def Machine.depth (machine : Machine) : Nat := machine.stack.length

/-- A frame of a suspended thread; the top frame has depth 0. -/
structure Frame where
  thread : ThreadRef
  depth : Nat := 0
deriving DecidableEq, Repr

/-- Where an expression is evaluated and the names to use there. -/
structure Scope where
  frame : Frame
  settings : EvaluationSettings := {}
deriving DecidableEq, Repr

/-- Type names are resolved in the thread of the frame. -/
def Scope.resolution (scope : Scope) : Resolution := ⟨scope.frame.thread, scope.settings⟩

/-- What follows an instruction. -/
inductive Flow where
  | next
  /-- A jump relative to the next instruction. -/
  | jump (offset : Int64)
  | return
deriving DecidableEq, Repr

/-- An instruction at work on a machine; the shared flag lets the evaluation run. -/
abbrev Evaluation (α : Type) : Type := ExceptT Fault (StateT Machine (Operation Bool)) α

namespace Evaluation

/-- An attempt that leaves the machine alone. -/
def attempt {α : Type} (x : Attempt Bool α) : Evaluation α :=
  ExceptT.mk (StateT.lift (ExceptT.run x))

/-- Call the target; a failure of the call is a fault. -/
def call (c : Call) : Evaluation c.Answer := attempt (Attempt.call c)

/-- A computation that needs neither the machine nor the target. -/
def compute {α : Type} : Except Fault α → Evaluation α
  | .ok a => return a
  | .error fault => throw fault

/-! ### The stack -/

def push (entry : StackEntry) : Evaluation Unit :=
  modify fun m => { m with stack := entry :: m.stack }

def pushValue (value : Value) : Evaluation Unit := push (.value value)

def pushVariable (place : Variable) : Evaluation Unit := push (.place place)

def pop : Evaluation StackEntry := do
  match (← get).stack with
  | [] => throw .stackUnderflow
  | entry :: rest =>
    modify fun m => { m with stack := rest }
    return entry

/-- Read a variable. -/
def readVariable (scope : Scope) : Variable → Evaluation Value
  | .internal name => do return (← compute ((← get).internals.get name)).value
  | .frameLocal name => call (.localValue scope.frame.thread scope.frame.depth name)
  | .field object name => call (.fieldValue object name)
  | .staticField type name => call (.staticFieldValue type name)
  | .element array index => call (.arrayElement array index)

/-- Write a variable. -/
def writeVariable (scope : Scope) (place : Variable) (value : Value) : Evaluation Unit :=
  match place with
  | .internal name => do
    let internals ← compute ((← get).internals.set name value)
    modify fun m => { m with internals }
  | .frameLocal name => call (.setLocalValue scope.frame.thread scope.frame.depth name value)
  | .field object name => call (.setFieldValue object name value)
  | .staticField type name => call (.setStaticFieldValue type name value)
  | .element array index => call (.setArrayElement array index value)

/-- The value of an entry; a variable is read. -/
def valueOf (scope : Scope) : StackEntry → Evaluation Value
  | .value value => return value
  | .place place => readVariable scope place

/-- Pop an entry and take its value. -/
def popValue (scope : Scope) : Evaluation Value := do valueOf scope (← pop)

/-- Pop the variable on the left of an assignment. -/
def popVariable : Evaluation Variable := do
  match ← pop with
  | .place place => return place
  | .value _ => throw (.invalidOperand .assignmentToValue)

/-- Pop the handle of an object or a string. -/
def popObject (scope : Scope) : Evaluation ObjectRef := do
  match ← popValue scope with
  | .object handle | .string handle => return handle
  | .null => throw .nullReceiver
  | _ => throw (.invalidOperand .notAnObject)

/-- Pop the arguments of an invocation, of which the last is on top. -/
def popArguments (scope : Scope) : Nat → Evaluation (List Value)
  | 0 => return []
  | count + 1 => do
    let last ← popValue scope
    return (← popArguments scope count) ++ [last]

/-! ### Operators that need the target -/

/-- The text that a value contributes to a joined text. -/
def textOf (scope : Scope) (value : Value) : Evaluation String := do
  match value with
  | .null => return "null"
  | .string handle => call (.stringValue handle)
  | .object handle =>
    match ← call (.invokeMethod handle scope.settings.toStringMethod
        scope.settings.toStringSignature [] scope.frame.thread false) with
    | .string text => call (.stringValue text)
    | .null => return "null"
    | _ => throw (.invalidOperand .textNotString)
  | _ =>
    match value.primitiveText? with
    | some text => return text
    | none => throw (.invalidOperand .noText)

/-- A binary operator; a sum that promotes to text joins the texts of its operands in the target. -/
def binary (scope : Scope) (op : BinaryOp) (left right : Value) : Evaluation Value := do
  if op = .add ∧ Kind.promote left.kind right.kind = .string then
    let text := (← textOf scope left) ++ (← textOf scope right)
    call (.newString text)
  else compute (op.apply left right)

/-- Whether the type of an object can be assigned to a type. -/
def isInstance (handle : ObjectRef) (type : TypeRef) : Evaluation Bool := do
  let source ← call (.typeOf handle)
  call (.isAssignable source type)

/-- A primitive conversion or a checked cast of a reference. -/
def cast (scope : Scope) (value : Value) (typeName : String) : Evaluation Value := do
  let invalid := Fault.invalidCast value.kind typeName
  match ← attempt (scope.resolution.declared typeName) with
  | .primitive kind => compute ((value.convert kind).elim (.error invalid) .ok)
  | .reference type =>
    match value with
    | .null => return .null
    | .object handle | .string handle =>
      if ← isInstance handle type then return value else throw invalid
    | _ => throw invalid

/-- The test for a type; `null` is an instance of none. -/
def instanceOf (scope : Scope) (value : Value) (typeName : String) : Evaluation Bool := do
  match value with
  | .null => return false
  | .object handle | .string handle =>
    let type ← attempt (scope.resolution.resolve typeName)
    isInstance handle type
  | _ => throw (.invalidOperand .instanceOfPrimitive)

/-! ### Variables -/

/-- A value in the kind of the place that is to hold it. -/
def convertTo (value : Value) (kind : Kind) : Except Fault Value :=
  (value.convert kind).elim (.error (.invalidCast value.kind kind.name)) .ok

/-- The value that an assignment stores. A declared primitive takes the kind of its declaration and a
reference takes no primitive; elsewhere a primitive takes the kind of the primitive it replaces. -/
def assigned (scope : Scope) (place : Variable) (value : Value) : Evaluation Value := do
  match place with
  | .internal name =>
    let kind := (← compute ((← get).internals.get name)).kind
    if kind = .object then
      if value.isPrimitive then throw (.invalidCast value.kind kind.name) else return value
    else compute (convertTo value kind)
  | _ =>
    if !value.isPrimitive then return value
    let current ← readVariable scope place
    if !current.isPrimitive || current.kind = value.kind then return value
    compute (convertTo value current.kind)

/-- Declare an internal variable with the default of its type. -/
def declare (scope : Scope) (name typeName : String) : Evaluation Unit := do
  let declared ←
    match ← attempt (scope.resolution.declared typeName) with
    | .primitive kind =>
      match Value.default? kind with
      | some value => pure (InternalVariable.mk kind none value)
      | none => throw (.unresolvableType typeName)
    | .reference type => pure ⟨.object, some type, .null⟩
  let internals ← compute ((← get).internals.create name declared)
  modify fun m => { m with internals }

/-! ### Instructions -/

/-- Create an array of a length that is no less than zero. -/
def allocate (scope : Scope) (arrayType : String) (length : Int32) : Evaluation Value := do
  if length < 0 then throw (.invalidOperand .negativeArraySize)
  let type ← attempt (scope.resolution.resolve arrayType)
  if (← call (.typeCategory type)) ≠ .arrayType then throw (.invalidOperand .notAnArrayType)
  call (.newArray type length)

/-- Store the popped value in the variable below it. -/
def assign (scope : Scope) : Evaluation Unit := do
  let value ← popValue scope
  let place ← popVariable
  let value ← assigned scope place value
  writeVariable scope place value
  pushValue value

/-- Combine the variable with the popped value and store the result, which keeps a primitive kind. -/
def compoundAssign (scope : Scope) (op : BinaryOp) : Evaluation Unit := do
  let operand ← popValue scope
  let place ← popVariable
  let current ← readVariable scope place
  let result ← binary scope op current operand
  let result ← if current.isPrimitive then compute (convertTo result current.kind) else pure result
  writeVariable scope place result
  pushValue result

/-- Perform one instruction. -/
def execute (scope : Scope) (instruction : Instruction) : Evaluation Flow := do
  let thread := scope.frame.thread
  match instruction with
  | .pushLiteral literal =>
    match literal with
    | .string text => pushValue (← call (.newString text))
    | .boolean b => pushValue (.boolean b)
    | .byte v => pushValue (.byte v)
    | .short v => pushValue (.short v)
    | .char unit => pushValue (.char unit)
    | .int v => pushValue (.int v)
    | .long v => pushValue (.long v)
    | .float v => pushValue (.float v)
    | .double v => pushValue (.double v)
    return .next
  | .pushNull =>
    pushValue .null
    return .next
  | .pushThis =>
    pushValue (← call (.thisObject thread scope.frame.depth))
    return .next
  | .pushClassObject typeName =>
    pushValue (← attempt (scope.resolution.classObject typeName))
    return .next
  | .pushLocal name =>
    pushVariable (.frameLocal name)
    return .next
  | .pushField name =>
    pushVariable (.field (← popObject scope) name)
    return .next
  | .pushStatic typeName name =>
    pushVariable (.staticField (← attempt (scope.resolution.resolve typeName)) name)
    return .next
  | .pushInternal name =>
    if !(← get).internals.contains name then throw (.internalVariableNotFound name)
    pushVariable (.internal name)
    return .next
  | .createInternal name typeName =>
    declare scope name typeName
    return .next
  | .arrayAccess =>
    let index ← compute (← popValue scope).index
    pushVariable (.element (← popObject scope) index)
    return .next
  | .arrayLength =>
    pushValue (.int (← call (.arrayLength (← popObject scope))))
    return .next
  | .newArray arrayType =>
    let length ← compute (← popValue scope).index
    pushValue (← allocate scope arrayType length)
    return .next
  | .send selector signature argCount nonVirtual =>
    let arguments ← popArguments scope argCount
    let receiver ← popObject scope
    pushValue (← call (.invokeMethod receiver selector signature arguments thread nonVirtual))
    return .next
  | .sendStatic typeName selector signature argCount =>
    let arguments ← popArguments scope argCount
    let type ← attempt (scope.resolution.resolve typeName)
    pushValue (← call (.invokeStatic type selector signature arguments thread))
    return .next
  | .newObject typeName signature argCount =>
    let arguments ← popArguments scope argCount
    let type ← attempt (scope.resolution.resolve typeName)
    pushValue (← call (.newInstance type signature arguments thread))
    return .next
  | .binary op =>
    let right ← popValue scope
    let left ← popValue scope
    pushValue (← binary scope op left right)
    return .next
  | .unary op =>
    pushValue (← compute (op.apply (← popValue scope)))
    return .next
  | .cast typeName =>
    pushValue (← cast scope (← popValue scope) typeName)
    return .next
  | .instanceOf typeName =>
    pushValue (.boolean (← instanceOf scope (← popValue scope) typeName))
    return .next
  | .assign =>
    assign scope
    return .next
  | .compoundAssign op =>
    compoundAssign scope op
    return .next
  | .pop =>
    let value ← popValue scope
    modify fun m => { m with lastValue := some value }
    return .next
  | .dup =>
    match (← get).stack with
    | [] => throw .stackUnderflow
    | top :: _ => push top
    return .next
  | .jump offset => return .jump offset
  | .conditionalJump offset jumpOn =>
    let condition ← compute (← popValue scope).truth
    return if condition = jumpOn then .jump offset else .next
  | .return => return .return
  | .noOp => return .next

/-- The result of a finished program: the value on top of the stack, else the value popped last. -/
def result (scope : Scope) : Evaluation (Option Value) := do
  let machine ← get
  match machine.stack with
  | top :: _ => return some (← valueOf scope top)
  | [] => return machine.lastValue

end Evaluation

end RemoteDebug
