/-!
Settings of the library and their defaults.
-/

namespace RemoteDebug

structure DispatcherSettings where
  /-- Name of the worker that reads the event channel. -/
  threadName : String := "remora-event-dispatcher"
  /-- Whether the preparation of a type that no listener asked for is a vote for resuming. -/
  classPrepareResumes : Bool := false
deriving DecidableEq, Repr, Inhabited

/-- Names that the interpreter uses when it talks to a target. -/
structure EvaluationSettings where
  /-- The type whose static method loads types. -/
  classType : String := "java.lang.Class"
  /-- The method that forces the loading of a type by its qualified name. -/
  forNameMethod : String := "forName"
  forNameSignature : String := "(Ljava/lang/String;)Ljava/lang/Class;"
  /-- The exception that tells that there is no such type. -/
  notFoundException : String := "java.lang.ClassNotFoundException"
  /-- The method that gives the text of an object. -/
  toStringMethod : String := "toString"
  toStringSignature : String := "()Ljava/lang/String;"
deriving DecidableEq, Repr, Inhabited

structure LogSettings where
  /-- The filter that holds unless the user asks for another one. -/
  defaultFilter : String := "warn"
deriving DecidableEq, Repr, Inhabited

structure Settings where
  dispatcher : DispatcherSettings := {}
  evaluation : EvaluationSettings := {}
  log : LogSettings := {}
deriving DecidableEq, Repr, Inhabited

end RemoteDebug
