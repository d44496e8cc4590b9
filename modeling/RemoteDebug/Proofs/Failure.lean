import RemoteDebug.Proofs.Composition
import RemoteDebug.Proofs.Walk

/-!
Failed calls.

The failure of a call is final: the call is the last one, and the run fails with that very failure. One
failure is forgiven. When a load is forced and the target raises the configured exception, the name has
no type, and the resolution goes on to list the loaded types.

* `Resolution.Loads` lists the courses of a forced load, `Resolution.Forgives` says where in a run a
  failure is forgiven.
* `Blames` tells which call is to blame for the end of a course. Each part of an instruction passes
  failures on (`Evaluation.Composed.blames`), so instructions and walks do.
* `Interpreter.failures_surface` speaks of whole runs.
-/

namespace RemoteDebug

/-- The failure of a call that a result passes on, if it does. -/
def blame {α : Type} : Except Fault α → Option RemoteFailure
  | .ok _ => none
  | .error fault => fault.failure?

theorem blame_map {α β : Type} (f : α → β) (r : Except Fault α) : blame (r.map f) = blame r := by
  cases r with
  | ok a => rfl
  | error fault => rfl

/-! ### Forced loads -/

namespace Resolution

variable {resolution : Resolution} {name : String}

/-- The call that forces a load. -/
abbrev forcing (resolution : Resolution) (classType : TypeRef) (argument : Value) : Call :=
  .invokeStatic classType resolution.settings.forNameMethod resolution.settings.forNameSignature
    [argument] resolution.thread

/-- `Readies resolution name passed classType argument`: what passes before a load is forced. -/
inductive Readies (resolution : Resolution) (name : String) :
    List (Exchange Bool) → TypeRef → Value → Prop where
  | intro {classType : TypeRef} {argument : Value} {s t s' t' : Bool} :
      Readies resolution name
        [.asked (.call (.allTypes resolution.settings.classType)) s (.ok [classType]) t,
          .asked (.call (.newString name)) s' (.ok argument) t'] classType argument

/-- `Misses resolution name passed`: the target has no type of the name to load. -/
inductive Misses (resolution : Resolution) (name : String) : List (Exchange Bool) → Prop where
  | intro {readied : List (Exchange Bool)} {classType : TypeRef} {argument : Value}
      {failure : RemoteFailure} {s t : Bool} : resolution.Readies name readied classType argument →
      failure.isExceptionOf resolution.settings.notFoundException = true →
      Misses resolution name (readied ++ [.asked (.call (resolution.forcing classType argument)) s
        (.error failure) t, .told (.log (.typeNotFound name))])

/-- The courses of a forced load. -/
inductive Loads (resolution : Resolution) (name : String) :
    List (Exchange Bool) → Except Fault (Option ObjectRef) → Prop where
  | unlisted {failure : RemoteFailure} {s t : Bool} :
      Loads resolution name
        [.asked (.call (.allTypes resolution.settings.classType)) s (.error failure) t]
        (.error (.remote failure))
  | ambiguous {types : List TypeRef} {s t : Bool} :
      Loads resolution name
        [.asked (.call (.allTypes resolution.settings.classType)) s (.ok types) t]
        (.error (.unresolvableType resolution.settings.classType))
  | unnamed {types : List TypeRef} {failure : RemoteFailure} {s t s' t' : Bool} :
      Loads resolution name
        [.asked (.call (.allTypes resolution.settings.classType)) s (.ok types) t,
          .asked (.call (.newString name)) s' (.error failure) t']
        (.error (.remote failure))
  | loaded {readied : List (Exchange Bool)} {classType : TypeRef} {argument classObject : Value}
      {s t : Bool} : resolution.Readies name readied classType argument →
      Loads resolution name
        (readied ++ [.asked (.call (resolution.forcing classType argument)) s (.ok classObject) t])
        (.ok classObject.handle?)
  | missed {passed : List (Exchange Bool)} : resolution.Misses name passed →
      Loads resolution name passed (.ok none)
  | failed {readied : List (Exchange Bool)} {classType : TypeRef} {argument : Value}
      {failure : RemoteFailure} {s t : Bool} : resolution.Readies name readied classType argument →
      failure.isExceptionOf resolution.settings.notFoundException = false →
      Loads resolution name
        (readied ++ [.asked (.call (resolution.forcing classType argument)) s (.error failure) t])
        (.error (.remote failure))

theorem load_course {s t : Bool} {passed : List (Exchange Bool)} {r : Except Fault (Option ObjectRef)}
    (course : (resolution.load name).run.Course s passed r t) : resolution.Loads name passed r := by
  rcases Attempt.call_bind_iff.mp course with ⟨failure, rfl, rfl⟩ | ⟨types, u, later, listed, rfl⟩
  · exact .unlisted
  rcases types with _ | ⟨classType, _ | ⟨other, more⟩⟩
  · obtain ⟨rfl, rfl, rfl⟩ := Operation.Course.run_throw_iff.mp listed
    exact .ambiguous
  · rcases Attempt.call_bind_iff.mp listed with ⟨failure, rfl, rfl⟩ | ⟨argument, v, later, named, rfl⟩
    · exact .unnamed
    obtain ⟨answer, w, later, forced, rfl⟩ := Operation.Course.run_ask_bind_iff.mp named
    have readies := @Readies.intro resolution name classType argument s u u v
    cases answer with
    | ok classObject =>
        obtain ⟨rfl, rfl, rfl⟩ := Operation.Course.run_pure_iff.mp forced
        exact .loaded readies
    | error failure =>
        dsimp only at forced
        by_cases absent : failure.isExceptionOf resolution.settings.notFoundException = true
        · rw [if_pos absent] at forced
          obtain ⟨later, ends, rfl⟩ := Operation.Course.run_tell_bind_iff.mp forced
          obtain ⟨rfl, rfl, rfl⟩ := Operation.Course.run_pure_iff.mp ends
          exact .missed (.intro readies absent)
        · rw [if_neg absent] at forced
          obtain ⟨rfl, rfl, rfl⟩ := Operation.Course.run_throw_iff.mp forced
          exact .failed readies (Bool.eq_false_iff.mpr absent)
  · obtain ⟨rfl, rfl, rfl⟩ := Operation.Course.run_throw_iff.mp listed
    exact .ambiguous

/-- What a forced load makes of a failure: the configured exception says that there is no such type. -/
theorem Loads.of_failure {passed readied after : List (Exchange Bool)}
    {r : Except Fault (Option ObjectRef)} {classType : TypeRef} {argument : Value}
    {failure : RemoteFailure} {s t : Bool} (loads : resolution.Loads name passed r)
    (readies : resolution.Readies name readied classType argument)
    (same : passed = readied ++
      .asked (.call (resolution.forcing classType argument)) s (.error failure) t :: after) :
    r = if failure.isExceptionOf resolution.settings.notFoundException then .ok none
      else .error (.remote failure) := by
  obtain ⟨⟩ := readies
  cases loads with
  | unlisted => cases same
  | ambiguous => cases same
  | unnamed => cases same
  | loaded readies =>
      obtain ⟨⟩ := readies
      cases same
  | missed misses =>
      obtain ⟨⟨⟩, absent⟩ := misses
      cases same
      rw [if_pos absent]
  | failed readies other =>
      obtain ⟨⟩ := readies
      cases same
      rw [if_neg (Bool.eq_false_iff.mp other)]

/-- `Forgives resolution before c failure after`: the call forces a load, the target raises the configured
exception, and after a remark the resolution goes on to list the loaded types. -/
inductive Forgives (resolution : Resolution) :
    List (Exchange Bool) → Call → RemoteFailure → List (Exchange Bool) → Prop where
  | intro {name : String} {earlier readied later : List (Exchange Bool)} {classType : TypeRef}
      {argument : Value} {failure : RemoteFailure} {s t : Bool}
      {types : Except RemoteFailure (List TypeRef)} :
      resolution.Readies name readied classType argument →
      failure.isExceptionOf resolution.settings.notFoundException = true →
      Forgives resolution (earlier ++ readied) (resolution.forcing classType argument) failure
        (.told (.log (.typeNotFound name)) :: .asked (.call (.allTypes name)) s types t :: later)

theorem Forgives.after {before after : List (Exchange Bool)} {c : Call} {failure : RemoteFailure}
    (forgives : resolution.Forgives before c failure after) (first : List (Exchange Bool)) :
    resolution.Forgives (first ++ before) c failure after := by
  obtain ⟨readies, absent⟩ := forgives
  rw [← List.append_assoc]
  exact .intro readies absent

end Resolution

/-! ### The call to blame -/

/-- `Blames resolution passed failure?`: the calls on the way were answered or were forced loads that
missed, up to the call to which the failure belongs; after that one no call is made. -/
inductive Blames (resolution : Resolution) : List (Exchange Bool) → Option RemoteFailure → Prop where
  | nil : Blames resolution [] none
  | told {n : Note} {later : List (Exchange Bool)} {failure? : Option RemoteFailure} :
      Blames resolution later failure? → Blames resolution (.told n :: later) failure?
  | answered {c : Call} {s t : Bool} {answer : c.Answer} {later : List (Exchange Bool)}
      {failure? : Option RemoteFailure} : Blames resolution later failure? →
      Blames resolution (.asked (.call c) s (.ok answer) t :: later) failure?
  | missed {name : String} {loading later : List (Exchange Bool)} {s t : Bool}
      {types : Except RemoteFailure (List TypeRef)} {failure? : Option RemoteFailure} :
      resolution.Misses name loading →
      Blames resolution (.asked (.call (.allTypes name)) s types t :: later) failure? →
      Blames resolution (loading ++ .asked (.call (.allTypes name)) s types t :: later) failure?
  | failed {c : Call} {s t : Bool} {failure : RemoteFailure} (notes : List Note) :
      Blames resolution (.asked (.call c) s (.error failure) t :: notes.map .told) (some failure)

namespace Blames

variable {resolution : Resolution} {first second passed : List (Exchange Bool)}
  {failure? : Option RemoteFailure}

theorem append (head : Blames resolution first none) (tail : Blames resolution second failure?) :
    Blames resolution (first ++ second) failure? := by
  generalize none_eq : (none : Option RemoteFailure) = open? at head
  induction head with
  | nil => exact tail
  | told _ ih => exact .told (ih none_eq)
  | answered _ ih => exact .answered (ih none_eq)
  | missed misses _ ih =>
      rw [List.append_assoc]
      exact .missed misses (ih none_eq)
  | failed notes => cases none_eq

theorem append_told (head : Blames resolution first failure?) (notes : List Note) :
    Blames resolution (first ++ notes.map .told) failure? := by
  induction head with
  | nil =>
      induction notes with
      | nil => exact .nil
      | cons n notes ih => exact .told ih
  | told _ ih => exact .told ih
  | answered _ ih => exact .answered ih
  | missed misses _ ih =>
      rw [List.append_assoc]
      exact .missed misses ih
  | failed notes' =>
      rw [List.cons_append, ← List.map_append]
      exact .failed _

theorem call {c : Call} {s t : Bool} {answer : Except RemoteFailure c.Answer} :
    Blames resolution [.asked (.call c) s answer t] (blame (answer.mapError .remote)) := by
  cases answer with
  | ok answer => exact .answered .nil
  | error failure => exact .failed []

/-- A forced load passes failures on, unless it misses. -/
theorem of_loads {name : String} {r : Except Fault (Option ObjectRef)}
    (loads : resolution.Loads name passed r) :
    Blames resolution passed (blame r) ∨ r = .ok none ∧ resolution.Misses name passed := by
  cases loads with
  | unlisted => exact .inl (.failed [])
  | ambiguous => exact .inl (.answered .nil)
  | unnamed => exact .inl (.answered (.failed []))
  | loaded readies =>
      obtain ⟨⟩ := readies
      exact .inl (.answered (.answered (.answered .nil)))
  | missed misses => exact .inr ⟨rfl, misses⟩
  | failed readies other =>
      obtain ⟨⟩ := readies
      exact .inl (.answered (.answered (.failed [])))

end Blames

/-- Every call that fails on a course is forgiven, or it is the call to which the failure belongs, and only
remarks follow it. -/
def Accounted (resolution : Resolution) (passed : List (Exchange Bool))
    (failure? : Option RemoteFailure) : Prop :=
  ∀ before c s failure t after, passed = before ++ .asked (.call c) s (.error failure) t :: after →
    resolution.Forgives before c failure after ∨
      failure? = some failure ∧ ∀ e ∈ after, ∃ n, e = .told n

section Accounted

variable {resolution : Resolution} {passed : List (Exchange Bool)} {failure? : Option RemoteFailure}

theorem Accounted.cons (accounted : Accounted resolution passed failure?) {e : Exchange Bool}
    (fine : ∀ c s failure t, e ≠ .asked (.call c) s (.error failure) t) :
    Accounted resolution (e :: passed) failure? := by
  intro before c s failure t after same
  rcases before with _ | ⟨first, before⟩
  · exact absurd (List.cons.inj same).1 (fine _ _ _ _)
  · obtain ⟨rfl, rest⟩ := List.cons.inj same
    exact (accounted before c s failure t after rest).imp_left fun forgives => forgives.after [e]

theorem Blames.accounted (blames : Blames resolution passed failure?) :
    Accounted resolution passed failure? := by
  induction blames with
  | nil =>
      intro before c s failure t after same
      simp at same
  | told _ ih => exact ih.cons fun _ _ _ _ => nofun
  | answered _ ih =>
      refine ih.cons fun c s failure t same => ?_
      cases same
  | missed misses _ ih =>
      obtain ⟨⟨⟩, absent⟩ := misses
      intro before c s failure t after same
      -- The exchanges of the load come first: two answers, the forgiven failure and the remark.
      rcases before with _ | ⟨_, _ | ⟨_, _ | ⟨_, before⟩⟩⟩
      · cases same
      · cases same
      · cases same
        exact .inl (@Resolution.Forgives.intro _ _ [] _ _ _ _ _ _ _ _ .intro absent)
      · obtain ⟨-, same⟩ := List.cons.inj same
        obtain ⟨-, same⟩ := List.cons.inj same
        obtain ⟨-, same⟩ := List.cons.inj same
        have rest := ih.cons (fun _ _ _ _ told => by cases told) before c s failure t after same
        exact rest.imp_left fun forgives => forgives.after [_, _, _]
  | failed notes =>
      intro before c s failure t after same
      rcases before with _ | ⟨e, before⟩
      · cases same
        exact .inr ⟨rfl, by simp⟩
      · have told : Exchange.asked (.call c) s (.error failure) t ∈ notes.map Exchange.told := by
          rw [(List.cons.inj same).2]
          simp
        simp at told

/-- There is a call to blame. -/
theorem Blames.exists_failed {failure : RemoteFailure} (blames : Blames resolution passed (some failure)) :
    ∃ before c s t after, passed = before ++ .asked (.call c) s (.error failure) t :: after := by
  generalize belongs : some failure = failure? at blames
  induction blames with
  | nil => cases belongs
  | told _ ih =>
      obtain ⟨before, c, s, t, after, rfl⟩ := ih belongs
      exact ⟨_ :: before, c, s, t, after, rfl⟩
  | answered _ ih =>
      obtain ⟨before, c, s, t, after, rfl⟩ := ih belongs
      exact ⟨_ :: before, c, s, t, after, rfl⟩
  | missed misses _ ih =>
      obtain ⟨before, c, s, t, after, same⟩ := ih belongs
      rw [same, ← List.append_assoc]
      exact ⟨_, c, s, t, after, rfl⟩
  | failed notes =>
      cases belongs
      exact ⟨[], _, _, _, _, rfl⟩

end Accounted

/-! ### Instructions and walks -/

namespace Evaluation

variable {scope : Scope}

/-- An evaluation is as good as the parts it is put together from: a failed call ends each of them. -/
theorem Composed.blames {α : Type} {changes : Machine → Machine → Prop} {x : Evaluation α}
    (composed : Composed scope changes x) {m m' : Machine} {s t : Bool}
    {passed : List (Exchange Bool)} {r : Except Fault α} (course : Course x m s passed r m' t) :
    Blames scope.resolution passed (blame r) := by
  induction composed generalizing m s passed m' t with
  | pure a =>
      obtain ⟨rfl, rfl, -, -⟩ := pure_iff.mp course
      exact .nil
  | throw own =>
      obtain ⟨rfl, rfl, -, -⟩ := throw_iff.mp course
      rw [blame, own]
      exact .nil
  | bind _ _ ihx ihf =>
      rcases bind_iff.mp course with ⟨fault, head, rfl⟩ | ⟨a, _, _, _, _, head, tail, rfl⟩
      · exact ihx head
      · exact (ihx head).append (ihf a tail)
  | get =>
      obtain ⟨rfl, rfl, -, -⟩ := get_iff.mp course
      exact .nil
  | modify change =>
      obtain ⟨rfl, rfl, -, -⟩ := modify_iff.mp course
      exact .nil
  | call c =>
      obtain ⟨answer, rfl, rfl, -⟩ := call_iff.mp course
      exact .call
  | log entry =>
      obtain ⟨rfl, rfl, -, -⟩ := log_iff.mp course
      exact .told .nil
  | survey name _ ih =>
      rcases bind_iff.mp course with
        ⟨fault, loads, rfl⟩ | ⟨loaded, u, v, first, second, loads, rest, rfl⟩
      · rcases Blames.of_loads (Resolution.load_course (attempt_iff.mp loads).1) with
          passes | ⟨impossible, -⟩
        · exact passes
        · cases impossible
      · obtain ⟨types, w, later, rfl, tail⟩ : ∃ types w later,
            second = .asked (.call (.allTypes name)) v types w :: later ∧
              Blames scope.resolution (.asked (.call (.allTypes name)) v types w :: later) (blame r) := by
          rcases call_bind_iff.mp rest with ⟨failure, rfl, rfl, -⟩ | ⟨types, w, later, goes, rfl⟩
          · exact ⟨_, _, _, rfl, .failed []⟩
          · exact ⟨_, _, _, rfl, .answered (ih loaded types goes)⟩
        rcases Blames.of_loads (Resolution.load_course (attempt_iff.mp loads).1) with
          passes | ⟨-, misses⟩
        · exact passes.append tail
        · exact .missed misses tail

end Evaluation

variable {scope : Scope} {program : Program}

/-- Where a step leads, its own failed call leads. -/
theorem Step.blames (step : Step scope program) :
    Blames scope.resolution step.exchanges (blame step.leads) := by
  have same : blame step.leads = blame step.result := by
    rcases flows : step.result with fault | _ | offset | _
    · rw [Step.leads_of_fault flows]
      rfl
    · rw [Step.leads_of_next flows]
      rfl
    · rw [Step.leads_of_jump flows, blame_map]
      cases jumps : jumpTarget step.position offset program.length with
      | ok next => rfl
      | error fault =>
          obtain ⟨target, rfl⟩ := cause_of_jumpTarget jumps
          rfl
    · rw [Step.leads_of_return flows]
      rfl
  rw [same]
  exact .told ((Evaluation.execute_composed scope step.instruction).blames step.course)

namespace Walk

variable {between : Bool → Bool → Prop} {fuel position : Nat} {machine machine' : Machine}
  {running running' : Bool} {steps : List (Step scope program)} {passed : List (Exchange Bool)}
  {r : Except Fault Outcome}

theorem blames
    (walk : Walk scope program between fuel position machine running steps passed r machine' running') :
    Blames scope.resolution passed (blame r) := by
  induction walk with
  | exhausted => exact .nil
  | ended found course =>
      rw [blame_map]
      exact (Evaluation.result_spares scope).blames course
  | cancelled found => exact .told .nil
  | failed step leads =>
      have blames := step.blames
      rw [leads] at blames
      exact blames
  | returned step leads course =>
      have blames := step.blames
      rw [leads] at blames
      rw [blame_map]
      exact blames.append ((Evaluation.result_spares scope).blames course)
  | onward step leads flag walk ih =>
      have blames := step.blames
      rw [leads] at blames
      exact blames.append ih

/-- A walk tells a failure apart from an outcome. -/
theorem ne_failed
    (walk : Walk scope program between fuel position machine running steps passed r machine' running')
    (fault : Fault) : r ≠ .ok (.failed fault) := by
  induction walk with
  | exhausted => nofun
  | @ended _ _ _ _ _ _ _ r found course => cases r <;> nofun
  | cancelled found => nofun
  | failed step leads => nofun
  | @returned _ step _ _ _ r leads course => cases r <;> nofun
  | onward step leads flag walk ih => exact ih

end Walk

/-! ### Invocations of static methods -/

/-- What comes before the call when a static method is invoked: the arguments and the type. -/
def Evaluation.addressed (scope : Scope) (typeName : String) (argCount : Nat) :
    Evaluation (List Value × TypeRef) := do
  let arguments ← popArguments scope argCount
  let type ← attempt (scope.resolution.resolve typeName)
  return (arguments, type)

theorem Evaluation.execute_sendStatic (typeName : String) (selector : String) (signature : String)
    (argCount : Nat) :
    execute scope (.sendStatic typeName selector signature argCount) = (do
      let (arguments, type) ← addressed scope typeName argCount
      pushValue (← call (.invokeStatic type selector signature arguments scope.frame.thread))
      return .next) := by
  simp only [execute, addressed, bind_assoc, pure_bind]

/-- The failure of an invoked static method is not forgiven, whatever the method is. -/
theorem Step.leads_of_sendStatic {step : Step scope program} {typeName selector signature : String}
    {argCount : Nat} (sends : step.instruction = .sendStatic typeName selector signature argCount)
    {prior after : List (Exchange Bool)} {arguments : List Value} {type : TypeRef} {machine : Machine}
    {s t : Bool} {failure : RemoteFailure}
    (addresses : (Evaluation.addressed scope typeName argCount).Course step.before true prior
      (.ok (arguments, type)) machine s)
    (passes : step.passed = prior ++ .asked (.call (.invokeStatic type selector signature arguments
      scope.frame.thread)) s (.error failure) t :: after) :
    after = [] ∧ step.leads = .error (.remote failure) := by
  have course := step.course
  rw [sends, Evaluation.execute_sendStatic, passes] at course
  rcases Evaluation.call_bind_iff.mp (addresses.tail course) with
    ⟨failed, called, fails, -⟩ | ⟨answer, v, later, -, called⟩
  · cases called
    exact ⟨rfl, Step.leads_of_fault fails⟩
  · cases called

/-! ### Runs -/

/-- What becomes of the failed calls of a run. -/
structure FailuresSurface (resolution : Resolution) (passed : List (Exchange Bool)) (outcome : Outcome) :
    Prop where
  /-- A failed call is forgiven, or the run fails with its failure, and only remarks follow the call. -/
  each : ∀ before c s failure t after, passed = before ++ .asked (.call c) s (.error failure) t :: after →
    resolution.Forgives before c failure after ∨
      outcome = .failed (.remote failure) ∧ ∀ e ∈ after, ∃ n, e = .told n
  /-- A run fails with the failure of a call only after that call. -/
  only : ∀ failure, outcome = .failed (.remote failure) →
    ∃ before c s t after, passed = before ++ .asked (.call c) s (.error failure) t :: after

namespace Interpreter

variable {interpreter interpreter' : Interpreter} {fuel : Nat} {frame : Frame} {outcome : Outcome}
  {passed : List (Exchange Bool)} {between : Bool → Bool → Prop}

/-- A run that takes some steps fails as its walk does. -/
theorem Ran.surfaces {steps : List (Step ⟨frame, interpreter.settings⟩ interpreter.program)}
    (ran : interpreter.Ran between fuel frame steps passed outcome interpreter') :
    FailuresSurface ⟨frame.thread, interpreter.settings⟩ passed outcome ∧
      ∀ step ∈ steps, ∀ fault, step.leads = .error fault → outcome = .failed fault := by
  obtain @⟨walked, r, machine, running, walk⟩ := ran
  have blames := walk.blames.append_told (closing r machine).1
  refine ⟨⟨?_, ?_⟩, ?_⟩
  · intro before c s failure t after passes
    refine (blames.accounted before c s failure t after passes).imp_right ?_
    rintro ⟨belongs, told⟩
    refine ⟨?_, told⟩
    rcases r with fault | _
    · rw [Fault.failure?_eq_some.mp belongs]
      rfl
    · cases belongs
  · intro failure fails
    rcases r with fault | value | _ | fault | _
    · cases fails
      exact blames.exists_failed
    · cases fails
    · cases fails
    · exact absurd rfl (walk.ne_failed fault)
    · cases fails
  · intro step member fault leads
    rw [walk.fails member leads]
    rfl

/-- The failure of a call surfaces unchanged, and it is the last thing that happens in a run. Only when a
load is forced and the target raises the configured exception the run goes on. The same exception raised
by a static method that the program invokes is not forgiven, not even if it is the loading method. -/
theorem failures_surface (interpreter : Interpreter) (fuel : Nat) (target : Target) (frame : Frame) :
    (∀ passed outcome interpreter',
      (interpreter.run fuel target frame).Course passed (outcome, interpreter') →
      FailuresSurface ⟨frame.thread, interpreter.settings⟩ passed outcome ∧
      (target.isTerminated = false →
        ∃ steps, interpreter.Ran Eq fuel frame steps passed outcome interpreter' ∧
          ∀ step ∈ steps, ∀ typeName selector signature argCount,
            step.instruction = .sendStatic typeName selector signature argCount →
            ∀ prior arguments type machine s failure t after,
              (Evaluation.addressed ⟨frame, interpreter.settings⟩ typeName argCount).Course step.before
                true prior (.ok (arguments, type)) machine s →
              step.passed = prior ++ .asked
                (.call (.invokeStatic type selector signature arguments frame.thread)) s
                (.error failure) t :: after →
              after = [] ∧ outcome = .failed (.remote failure))) ∧
    (∀ between steps passed outcome interpreter',
      interpreter.Ran between fuel frame steps passed outcome interpreter' →
      FailuresSurface ⟨frame.thread, interpreter.settings⟩ passed outcome) ∧
    ∀ (resolution : Resolution) name s passed r t, (resolution.load name).run.Course s passed r t →
      ∀ readied classType argument u failure v after,
        resolution.Readies name readied classType argument →
        passed = readied ++
          .asked (.call (resolution.forcing classType argument)) u (.error failure) v :: after →
        r = if failure.isExceptionOf resolution.settings.notFoundException then .ok none
          else .error (.remote failure) := by
  refine ⟨?_, ?_, ?_⟩
  · intro passed outcome interpreter' course
    by_cases gone : target.isTerminated = true
    · obtain ⟨rfl, rfl, rfl⟩ := run_refused gone course
      refine ⟨⟨?_, nofun⟩, fun alive => ?_⟩
      · intro before c s failure t after passes
        simp at passes
      · rw [gone] at alive
        cases alive
    · have alive : target.isTerminated = false := by simpa using gone
      obtain ⟨steps, ran⟩ := run_course alive course
      obtain ⟨surfaces, fails⟩ := ran.surfaces
      refine ⟨surfaces, fun _ => ⟨steps, ran, ?_⟩⟩
      intro step member typeName selector signature argCount sends prior arguments type machine s failure
        t after addresses passes
      obtain ⟨last, leads⟩ := step.leads_of_sendStatic sends addresses passes
      exact ⟨last, fails step member _ leads⟩
  · intro between steps passed outcome interpreter' ran
    exact ran.surfaces.1
  · intro resolution name s passed r t course readied classType argument u failure v after readies passes
    exact (Resolution.load_course course).of_failure readies passes

end Interpreter

namespace Failure.Sample

/-- Nobody finds the type to load. -/
def absence : RemoteFailure := .invocation ⟨3⟩ "java.lang.ClassNotFoundException"

/-- A program that invokes a loading method. -/
def loading : Interpreter where
  program := [.sendStatic "java.lang.Class" "forName" "()" 0]

/-- A target in which every invocation of a static method raises the same exception. -/
def lacking : (c : Call) → Except RemoteFailure c.Answer
  | .allTypes _ => .ok [⟨1⟩]
  | .newString _ => .ok (.string ⟨2⟩)
  | _ => .error absence

/-- What passes in such a run. The first exception is forgiven and the second one is not. -/
def heard : List (Exchange Bool) :=
  [.told (.log (.instruction 0 (.sendStatic "java.lang.Class" "forName" "()" 0))),
    .asked (.call (.allTypes "java.lang.Class")) true (.ok [⟨1⟩]) true,
    .asked (.call (.newString "java.lang.Class")) true (.ok (.string ⟨2⟩)) true,
    .asked (.call (Resolution.forcing ⟨⟨1⟩, {}⟩ ⟨1⟩ (.string ⟨2⟩))) true (.error absence) true,
    .told (.log (.typeNotFound "java.lang.Class")),
    .asked (.call (.allTypes "java.lang.Class")) true (.ok [⟨1⟩]) true,
    .asked (.call (.invokeStatic ⟨1⟩ "forName" "()" [] ⟨1⟩)) true (.error absence) true,
    .told (.log (.evaluationFailed (.remote absence)))]

end Failure.Sample

open Failure.Sample in
theorem Interpreter.failures_surface_loading :
    (loading.run 30 { name := "sample" } ⟨⟨1⟩, 0⟩).Course heard (.failed (.remote absence), loading) ∧
      Resolution.Forgives ⟨⟨1⟩, {}⟩ (heard.take 3)
        (Resolution.forcing ⟨⟨1⟩, {}⟩ ⟨1⟩ (.string ⟨2⟩)) absence (heard.drop 4) ∧
      ∃ before c s t after, heard = before ++ .asked (.call c) s (.error absence) t :: after := by
  have course : (loading.run 30 { name := "sample" } ⟨⟨1⟩, 0⟩).Course heard
      (.failed (.remote absence), loading) :=
    Dialogue.course_follow (answering lacking) (loading.run 30 { name := "sample" } ⟨⟨1⟩, 0⟩)
  obtain ⟨surfaces, -⟩ := (failures_surface loading 30 _ _).1 _ _ _ course
  refine ⟨course, ?_, surfaces.only absence rfl⟩
  rcases surfaces.each (heard.take 3) _ _ _ _ (heard.drop 4) rfl with forgives | ⟨-, told⟩
  · exact forgives
  · -- Another call follows, so the run did not end there.
    obtain ⟨n, impossible⟩ := told (.asked (.call (.allTypes "java.lang.Class")) true (.ok [⟨1⟩]) true)
      (.tail _ (.head _))
    cases impossible

end RemoteDebug
