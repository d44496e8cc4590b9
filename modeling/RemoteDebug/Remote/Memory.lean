import RemoteDebug.Remote.Call

/-!
A target held in memory: tables of types, objects, variables and methods that answer the calls which a
transport would carry to a process. With it an operation is led from start to end without a process.

* `MemoryTarget.answer` is the answer to a call and the target after it,
* `Outage.strike` counts a call against the failures planned for calls of its name.

Tables with keys hold their entries latest first, so that a new entry hides an older one of its key.
-/

namespace RemoteDebug

/-- A type that a target in memory has loaded. -/
structure LoadedType where
  name : String
  handle : TypeRef
  category : TypeCategory
  classObject : Option ObjectRef
deriving DecidableEq, Repr

/-- The contents of a target in memory. -/
structure MemoryTarget where
  types : List LoadedType := []
  /-- What loading a type by its name yields. -/
  loadable : List (String × Value) := []
  /-- The static method that loads a type by its name. -/
  loadMethod : String := "forName"
  /-- The type of the exception for a name that cannot be loaded. -/
  notFound : String := "java.lang.ClassNotFoundException"
  strings : List (ObjectRef × String) := []
  arrays : List (ObjectRef × List Value) := []
  objects : List (ObjectRef × TypeRef) := []
  /-- Pairs of different types of which the first can be assigned to the second. -/
  assignable : List (TypeRef × TypeRef) := []
  /-- Local variables; all frames share them. -/
  locals : List (String × Value) := []
  fields : List ((ObjectRef × String) × Value) := []
  statics : List ((TypeRef × String) × Value) := []
  /-- What a method yields, whatever its receiver and arguments; any other method yields `void`. -/
  methods : List (String × Except RemoteFailure Value) := []
  receiver : Value := .null
  threads : List ThreadRef := []
  disconnected : Bool := false
  /-- The handle of the next object that is created. -/
  nextObject : Nat := 1001
  nextRequest : Nat := 501

namespace MemoryTarget

/-- What a table holds under a key, or the failure of a handle that leads nowhere. -/
def found {α : Type} (handle : String) : Option α → Except RemoteFailure α
  | some a => .ok a
  | none => .error (.invalidHandle handle)

/-- The exception of the target for a name that cannot be loaded. -/
def notLoaded (target : MemoryTarget) : RemoteFailure := .invocation ⟨666⟩ target.notFound

/-- The exception of the target for an index outside of an array. -/
def outOfBounds : RemoteFailure := .invocation ⟨667⟩ "java.lang.ArrayIndexOutOfBoundsException"

/-- The longest array that can be created. -/
def longestArray : Int := 1000

def type? (target : MemoryTarget) (type : TypeRef) : Option LoadedType :=
  target.types.find? (·.handle = type)

/-- Load the type that a string names. -/
def load (target : MemoryTarget) (string : ObjectRef) : Except RemoteFailure Value := do
  let name ← found string.text (target.strings.lookup string)
  match target.loadable.lookup name with
  | some classObject => return classObject
  | none => throw target.notLoaded

/-- What a method yields. -/
def invoke (target : MemoryTarget) (method : String) : Except RemoteFailure Value :=
  (target.methods.lookup method).getD (.ok .void)

/-- What a static method yields; the one that loads types takes a single string. -/
def invokeStatic (target : MemoryTarget) (method : String) (args : List Value) :
    Except RemoteFailure Value :=
  match args with
  | [.string name] => if method = target.loadMethod then target.load name else target.invoke method
  | _ => target.invoke method

/-- The values of an array and a position within. -/
def position (target : MemoryTarget) (array : ObjectRef) (index : Int32) :
    Except RemoteFailure (List Value × Nat) := do
  let values ← found array.text (target.arrays.lookup array)
  if 0 ≤ index.toInt ∧ index.toInt < values.length then return (values, index.toInt.toNat)
  else throw outOfBounds

/-- The answer of a target to a call, and the target after it. -/
def answer (target : MemoryTarget) : (c : Call) → Except RemoteFailure c.Answer × MemoryTarget
  | .allTypes name => (.ok ((target.types.filter (·.name = name)).map (·.handle)), target)
  | .typeCategory type => (found type.text ((target.type? type).map (·.category)), target)
  | .classObject type => (found type.text ((target.type? type).map (·.classObject)), target)
  | .typeOf object => (found object.text (target.objects.lookup object), target)
  | .isAssignable source goal => (.ok (source = goal ∨ (source, goal) ∈ target.assignable), target)
  | .invokeStatic _ method _ args _ => (target.invokeStatic method args, target)
  | .invokeMethod _ method _ _ _ _ => (target.invoke method, target)
  | .newInstance type _ _ _ =>
    let object : ObjectRef := ⟨target.nextObject⟩
    (.ok (.object object), { target with
      nextObject := target.nextObject + 1
      objects := (object, type) :: target.objects })
  | .newString text =>
    let string : ObjectRef := ⟨target.nextObject⟩
    (.ok (.string string), { target with
      nextObject := target.nextObject + 1
      strings := (string, text) :: target.strings })
  | .stringValue string => (found string.text (target.strings.lookup string), target)
  | .newArray type length =>
    if longestArray < length.toInt then
      (.error (.protocol ("array of " ++ Int.repr length.toInt ++ " is too large")), target)
    else
      let array : ObjectRef := ⟨target.nextObject⟩
      (.ok (.object array), { target with
        nextObject := target.nextObject + 1
        arrays := (array, List.replicate length.toInt.toNat (.int 0)) :: target.arrays
        objects := (array, type) :: target.objects })
  | .arrayLength array =>
    let values := target.arrays.lookup array
    (found array.text (values.map fun vs => Int32.ofNat vs.length), target)
  | .arrayElement array index =>
    ((target.position array index).map fun (values, i) => values.getD i .void, target)
  | .setArrayElement array index value =>
    match target.position array index with
    | .ok (values, i) =>
      (.ok (), { target with arrays := (array, values.set i value) :: target.arrays })
    | .error failure => (.error failure, target)
  | .fieldValue object name => (found name (target.fields.lookup (object, name)), target)
  | .setFieldValue object name value =>
    (.ok (), { target with fields := ((object, name), value) :: target.fields })
  | .staticFieldValue type name => (found name (target.statics.lookup (type, name)), target)
  | .setStaticFieldValue type name value =>
    (.ok (), { target with statics := ((type, name), value) :: target.statics })
  | .localValue _ _ name => (found name (target.locals.lookup name), target)
  | .setLocalValue _ _ name value =>
    (.ok (), { target with locals := (name, value) :: target.locals })
  | .thisObject _ _ => (.ok target.receiver, target)
  | .threads => (.ok target.threads, target)
  | .requestStep _ _ =>
    (.ok ⟨target.nextRequest⟩, { target with nextRequest := target.nextRequest + 1 })
  | .resume _ | .suspendAll | .resumeAll | .resumeSet _ | .deleteRequest _ | .terminate _ =>
    (.ok (), target)

end MemoryTarget

/-- Failures planned for the calls of a name. -/
structure Outage where
  call : String
  /-- The number of calls that pass before the failures begin. -/
  skip : Nat := 0
  /-- The number of calls that fail, or `none` if all that follow do. -/
  times : Option Nat := none
  failure : RemoteFailure
deriving DecidableEq, Repr

/-- Count a call against its outages in order. The first that neither lets it pass nor is used up
decides, and those behind it do not see the call. -/
def Outage.strike (call : String) : List Outage → Option RemoteFailure × List Outage
  | [] => (none, [])
  | outage :: rest =>
    let (verdict, counted) := strike call rest
    if outage.call ≠ call then (verdict, outage :: counted)
    else if 0 < outage.skip then (verdict, { outage with skip := outage.skip - 1 } :: counted)
    else
      match outage.times with
      | none => (some outage.failure, outage :: rest)
      | some 0 => (verdict, outage :: counted)
      | some (n + 1) => (some outage.failure, { outage with times := some n } :: rest)

end RemoteDebug
