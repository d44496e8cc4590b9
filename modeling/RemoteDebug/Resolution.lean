import RemoteDebug.Dialogue
import RemoteDebug.Settings

/-!
Resolution of type names in the context of a suspended thread.

Two answers of the target are reconciled. Forcing the load of a name yields one class object or the news
that there is none. Listing the loaded types of the name may yield several, from different loaders; then
the one that the forced load produced is meant.

* `Resolution.load` forces a load, `Resolution.resolve` finds the type of a name,
* `Resolution.declared` also knows the primitive types,
* `Resolution.classObject` gives the object that represents a type.
-/

namespace RemoteDebug

/-- A type as an expression declares it. -/
inductive DeclaredType where
  | primitive (kind : Kind)
  | reference (type : TypeRef)
deriving DecidableEq, Repr

/-- Where types are resolved: the thread that runs loading code, and the names to use. -/
structure Resolution where
  thread : ThreadRef
  settings : EvaluationSettings := {}
deriving DecidableEq, Repr

namespace Resolution

variable {σ : Type}

/-- Force the load of a type: its class object, or `none` if the target has no such type. -/
def load (r : Resolution) (name : String) : Attempt σ (Option ObjectRef) := do
  match ← Attempt.call (.allTypes r.settings.classType) with
  | [classType] =>
    let argument ← Attempt.call (.newString name)
    let loaded ← perform (.call (.invokeStatic classType r.settings.forNameMethod
      r.settings.forNameSignature [argument] r.thread))
    match loaded with
    | .ok classObject => return classObject.handle?
    | .error failure =>
      if failure.isExceptionOf r.settings.notFoundException then
        perform (.log (.typeNotFound name))
        return none
      else throw (.remote failure)
  | _ => throw (.unresolvableType r.settings.classType)

/-- The first of several types that a class object represents. -/
def pick (classObject : ObjectRef) : List TypeRef → Attempt σ (Option TypeRef)
  | [] => return none
  | candidate :: rest => do
    if (← Attempt.call (.classObject candidate)) = some classObject then return some candidate
    else pick classObject rest

/-- The reference type of a qualified name. -/
def resolve (r : Resolution) (name : String) : Attempt σ TypeRef := do
  let loaded ← r.load name
  match ← Attempt.call (.allTypes name) with
  | [] => throw (.unresolvableType name)
  | [single] => return single
  | candidates =>
    match loaded with
    | none => throw (.unresolvableType name)
    | some classObject =>
      match ← pick classObject candidates with
      | some type => return type
      | none =>
        perform (.log (.noCandidate candidates.length name classObject))
        throw (.unresolvableType name)

/-- The type of a name in a declaration; there are no variables of type `void`. -/
def declared (r : Resolution) (name : String) : Attempt σ DeclaredType := do
  match Kind.ofPrimitiveName? name with
  | some .void => throw (.unresolvableType name)
  | some kind => return .primitive kind
  | none => return .reference (← r.resolve name)

/-- The object that represents a named type, the value of a class literal. -/
def classObject (r : Resolution) (name : String) : Attempt σ Value := do
  let type ← r.resolve name
  match ← Attempt.call (.classObject type) with
  | some object => return .object object
  | none => throw (.unresolvableType name)

end Resolution

end RemoteDebug
