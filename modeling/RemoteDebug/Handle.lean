/-!
Opaque handles into a target process. The controlling side never looks behind a handle: it compares
handles, passes them back to the target and shows them as a category and a number.

* `ObjectRef`, `TypeRef`, `ThreadRef` name an object (or string), a loaded type and a thread,
* `RequestRef` names a standing request for events, the token that its events carry.
-/

namespace RemoteDebug

/-- An object, array or string that lives in the target. -/
structure ObjectRef where
  id : Nat
deriving DecidableEq, Repr, Inhabited

/-- A type loaded by the target. -/
structure TypeRef where
  id : Nat
deriving DecidableEq, Repr, Inhabited

/-- A thread of the target. -/
structure ThreadRef where
  id : Nat
deriving DecidableEq, Repr, Inhabited

/-- A standing request to be notified about matching events. -/
structure RequestRef where
  id : Nat
deriving DecidableEq, Repr, Inhabited

/-- The written form of a handle: its category, a number sign and its number. -/
def handleText (category : String) (id : Nat) : String :=
  category ++ "#" ++ Nat.repr id

def ObjectRef.text (r : ObjectRef) : String := handleText "object" r.id

def TypeRef.text (r : TypeRef) : String := handleText "type" r.id

def ThreadRef.text (r : ThreadRef) : String := handleText "thread" r.id

def RequestRef.text (r : RequestRef) : String := handleText "request" r.id

end RemoteDebug
