import RemoteDebug.Dialogue

/-!
Variables: places that an expression can read and assign.

* `Variable` is a place, in the target or in the interpreter,
* `Internals` are the variables that live in the interpreter, in the order of their declaration. A name
  is declared once; its kind and type never change, only its value.
-/

namespace RemoteDebug

/-- A place that is read when its value is needed. -/
inductive Variable where
  /-- A variable of the interpreter. -/
  | internal (name : String)
  /-- A local variable of the evaluation frame. -/
  | frameLocal (name : String)
  | field (object : ObjectRef) (name : String)
  | staticField (type : TypeRef) (name : String)
  | element (array : ObjectRef) (index : Int32)
deriving DecidableEq, Repr

/-- The form in which a variable is shown. -/
def Variable.text : Variable → String
  | .internal name => "$" ++ name
  | .frameLocal name => name
  | .field object name => object.text ++ "." ++ name
  | .staticField type name => type.text ++ "." ++ name
  | .element array index => array.text ++ "[" ++ Int.repr index.toInt ++ "]"

/-- A variable of the interpreter. -/
structure InternalVariable where
  kind : Kind
  /-- The declared type of a reference; primitives have none. -/
  type : Option TypeRef
  value : Value
deriving DecidableEq, Repr

/-- The variables of an interpreter in the order of their declaration. -/
structure Internals where
  entries : List (String × InternalVariable) := []
deriving DecidableEq, Repr

namespace Internals

def empty : Internals := {}

def get? (internals : Internals) (name : String) : Option InternalVariable :=
  internals.entries.lookup name

def contains (internals : Internals) (name : String) : Bool := (internals.get? name).isSome

def names (internals : Internals) : List String := internals.entries.map Prod.fst

/-- The variable of a name, which has to be declared. -/
def get (internals : Internals) (name : String) : Except Fault InternalVariable :=
  match internals.get? name with
  | some declared => .ok declared
  | none => .error (.internalVariableNotFound name)

/-- Declare a variable; a name is declared once. -/
def create (internals : Internals) (name : String) (declared : InternalVariable) :
    Except Fault Internals :=
  if internals.contains name then .error (.internalVariableExists name)
  else .ok ⟨internals.entries ++ [(name, declared)]⟩

/-- Store a value in a declared variable. -/
def set (internals : Internals) (name : String) (value : Value) : Except Fault Internals :=
  if internals.contains name then
    .ok ⟨internals.entries.map fun (n, declared) =>
      (n, if n = name then { declared with value } else declared)⟩
  else .error (.internalVariableNotFound name)

end Internals

end RemoteDebug
