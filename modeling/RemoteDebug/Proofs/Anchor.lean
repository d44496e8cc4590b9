import RemoteDebug.Proofs.Lookup

/-!
References in runs.

A run starts with an empty stack, and every instruction keeps the machine anchored. So the only instruction
that can miss an internal variable is the one that pushes its name, and there is no variable of the name then.

* `Evaluation.execute_anchored` and `Evaluation.execute_missing_iff` speak of one instruction,
  `Evaluation.result_iff` of the result.
* `Step.Secure` and `References` list what is known of steps and of runs.
* `Interpreter.references_never_dangle` is the statement about runs.
-/

namespace RemoteDebug

namespace Evaluation

/-! ### Whole instructions and the result -/

section Instructions

variable {scope : Scope} {m m' : Machine} {s t : Bool} {passed : List (Exchange Bool)} {name : String}

/-- A name is looked up before it is pushed. -/
theorem pushInternal_course {r : Except Fault Flow}
    (course : Course (execute scope (.pushInternal name)) m s passed r m' t) :
    (m.internals.contains name = true ∧ r = .ok .next ∧
      m' = { m with stack := .place (.internal name) :: m.stack }) ∨
    (m.internals.contains name = false ∧ r = .error (.internalVariableNotFound name) ∧ m' = m) := by
  have looks := get_bind_iff.mp course
  cases known : m.internals.contains name with
  | true =>
      rw [known] at looks
      have pushes : Course (pure Flow.next) { m with stack := .place (.internal name) :: m.stack } s passed r
          m' t := looks
      obtain ⟨-, rfl, rfl, -⟩ := pure_iff.mp pushes
      exact .inl ⟨rfl, rfl, rfl⟩
  | false =>
      rw [known] at looks
      have refuses : Course (throw (.internalVariableNotFound name) : Evaluation Flow) m s passed r m' t := looks
      obtain ⟨-, rfl, rfl, -⟩ := throw_iff.mp refuses
      exact .inr ⟨rfl, rfl, rfl⟩

theorem execute_anchored {instruction : Instruction} {flow : Flow} (anchored : m.Anchored)
    (course : Course (execute scope instruction) m s passed (.ok flow) m' t) : m'.Anchored := by
  by_cases pushes : ∃ name, instruction = .pushInternal name
  · obtain ⟨name, rfl⟩ := pushes
    obtain ⟨known, -, rfl⟩ | ⟨-, impossible, -⟩ := pushInternal_course course
    · exact anchored.push known
    · cases impossible
  · exact execute_finds scope instruction (not_exists.mp pushes) _ _ _ _ _ _ anchored course

/-- On an anchored machine a variable is missing only where its name is to be pushed. -/
theorem execute_missing_iff {instruction : Instruction} {r : Except Fault Flow} (anchored : m.Anchored)
    (course : Course (execute scope instruction) m s passed r m' t) :
    r = .error (.internalVariableNotFound name) ↔
      instruction = .pushInternal name ∧ m.internals.contains name = false := by
  constructor
  · rintro rfl
    by_cases pushes : ∃ other, instruction = .pushInternal other
    · obtain ⟨other, rfl⟩ := pushes
      obtain ⟨-, impossible, -⟩ | ⟨unknown, same, -⟩ := pushInternal_course course
      · cases impossible
      · cases same
        exact ⟨rfl, unknown⟩
    · cases execute_finds scope instruction (not_exists.mp pushes) _ _ _ _ _ _ anchored course
  · rintro ⟨rfl, unknown⟩
    obtain ⟨known, -⟩ | ⟨-, same, -⟩ := pushInternal_course course
    · rw [unknown] at known
      cases known
    · exact same

/-- The result is the entry on top of the stack, which is read, or the value that was popped last. -/
theorem result_iff {r : Except Fault (Option Value)} :
    Course (result scope) m s passed r m' t ↔ m' = m ∧
      ((m.stack = [] ∧ passed = [] ∧ r = .ok m.lastValue ∧ t = s) ∨
      ∃ top rest found, m.stack = top :: rest ∧ Reads scope m.internals top s passed found t ∧
        r = found.map some) := by
  refine get_bind_iff.trans ?_
  cases stack : m.stack with
  | nil =>
      refine pure_iff.trans ?_
      constructor
      · rintro ⟨rfl, rfl, rfl, rfl⟩
        exact ⟨rfl, .inl ⟨rfl, rfl, rfl, rfl⟩⟩
      · rintro ⟨rfl, ⟨-, rfl, rfl, rfl⟩ | ⟨_, _, _, impossible, -⟩⟩
        · exact ⟨rfl, rfl, rfl, rfl⟩
        · cases impossible
  | cons top rest =>
      refine (map_iff (x := valueOf scope top) (f := some)).trans ?_
      constructor
      · rintro ⟨found, course, rfl⟩
        obtain ⟨reads, rfl⟩ := valueOf_iff.mp course
        exact ⟨rfl, .inr ⟨top, rest, found, rfl, reads, rfl⟩⟩
      · rintro ⟨rfl, ⟨impossible, -⟩ | ⟨_, _, found, same, reads, rfl⟩⟩
        · cases impossible
        · cases same
          exact ⟨found, valueOf_iff.mpr ⟨reads, rfl⟩, rfl⟩

/-- Where no reference dangles, the result is missing only if it is a variable of the target. -/
theorem result_refused {fault : Fault} (anchored : m.Anchored)
    (fails : Course (result scope) m s passed (.error fault) m' t) :
    ∃ place rest failure, m.stack = .place place :: rest ∧ place.inTarget = true ∧
      fault = .remote failure := by
  obtain ⟨-, ⟨-, -, impossible, -⟩ | ⟨top, rest, found, stack, reads, same⟩⟩ := result_iff.mp fails
  · cases impossible
  · cases found with
    | ok value => cases same
    | error other =>
        cases same
        obtain ⟨place, failure, rfl, inside, rfl⟩ := reads.refused (anchored.top stack).1
        exact ⟨place, rest, failure, stack, inside, rfl⟩

/-- A reference on top of the stack gives the value of its variable. -/
theorem result_of_reference {rest : List StackEntry} {value : Option Value} {held : InternalVariable}
    (stack : m.stack = .place (.internal name) :: rest) (found : m.internals.get? name = some held)
    (course : Course (result scope) m s passed (.ok value) m' t) : value = some held.value := by
  obtain ⟨-, ⟨empty, -⟩ | ⟨top, _, read, stack', reads, same⟩⟩ := result_iff.mp course
  · rw [stack] at empty
    cases empty
  · rw [stack] at stack'
    cases stack'
    cases reads with
    | internal =>
        rw [Internals.get_of_get? found] at same
        exact Except.ok.inj same
    | target inside => cases inside

end Instructions

end Evaluation

/-! ### Steps and walks -/

section Steps

variable {scope : Scope} {program : Program}

/-- What is known of a step that starts on an anchored machine. -/
structure Step.Secure (step : Step scope program) : Prop where
  anchored : step.before.Anchored
  /-- Whatever the instruction does with a reference on the stack, its variable is there. -/
  accessible : ∀ name, .place (.internal name) ∈ step.before.stack →
    ∃ held, Evaluation.Accessible scope step.before.internals name held
  /-- A variable is missing only if its name is to be pushed, and then there is no such variable. -/
  missing_iff : ∀ name, step.result = .error (.internalVariableNotFound name) ↔
    step.instruction = .pushInternal name ∧ step.before.internals.get? name = none

theorem Step.secure {step : Step scope program} (anchored : step.before.Anchored) : step.Secure where
  anchored := anchored
  accessible _ member := Evaluation.exists_accessible scope (anchored _ member)
  missing_iff name := by
    rw [Evaluation.execute_missing_iff anchored step.course, Internals.contains, Option.isSome_eq_false_iff,
      Option.isNone_iff_eq_none]

/-- A step that leads on leaves no dangling reference. -/
theorem Step.anchored {step : Step scope program} (anchored : step.before.Anchored) {next : Option Nat}
    (leads : step.leads = .ok next) : step.after.Anchored := by
  have course := step.course
  cases result : step.result with
  | error fault =>
      rw [Step.leads_of_fault result] at leads
      cases leads
  | ok flow =>
      rw [result] at course
      exact Evaluation.execute_anchored anchored course

/-- A step that misses a variable does so in its instruction. -/
theorem Step.missing_of_leads {step : Step scope program} {name : String}
    (leads : step.leads = .error (.internalVariableNotFound name)) :
    step.result = .error (.internalVariableNotFound name) := by
  rcases result : step.result with fault | _ | offset | _
  · rw [Step.leads_of_fault result] at leads
    cases leads
    rfl
  · rw [Step.leads_of_next result] at leads
    cases leads
  · rw [Step.leads_of_jump result] at leads
    cases jumps : jumpTarget step.position offset program.length with
    | ok next =>
        rw [jumps] at leads
        cases leads
    | error fault =>
        obtain ⟨target, rfl⟩ := cause_of_jumpTarget jumps
        rw [jumps] at leads
        cases leads
  · rw [Step.leads_of_return result] at leads
    cases leads

/-- What is known of the references in some steps, of the outcome, and of the machine that is left. -/
structure References (steps : List (Step scope program)) (outcome : Outcome) (machine : Machine) : Prop where
  secure : ∀ step ∈ steps, step.Secure
  /-- What fails is the last step, or the result is a variable of the target, and the target refuses. -/
  failed : ∀ fault, outcome = .failed fault →
    (∃ earlier last, steps = earlier ++ [last] ∧ last.leads = .error fault) ∨
    ∃ (m : Machine) (place : Variable) (rest : List StackEntry) (failure : RemoteFailure),
      m.Anchored ∧ m.stack = .place place :: rest ∧ place.inTarget = true ∧ fault = .remote failure ∧
      ∃ s read t, (Evaluation.result scope).Course m s read (.error fault) m t
  /-- The steps fail for want of a variable only if the last of them is to push its name. -/
  missing : ∀ name, outcome = .failed (.internalVariableNotFound name) → ∃ earlier last,
    steps = earlier ++ [last] ∧ last.instruction = .pushInternal name ∧
      last.before.internals.get? name = none
  /-- A reference that is the result has been read. -/
  completed : ∀ value, outcome = .completed value → machine.Anchored ∧
    ∀ name rest, machine.stack = .place (.internal name) :: rest →
      ∃ held, machine.internals.get? name = some held ∧ value = some held.value

namespace References

variable {steps : List (Step scope program)} {machine machine' : Machine} {running running' : Bool}
  {passed : List (Exchange Bool)}

/-- A walk without steps that is cut before the end. -/
theorem of_cut {outcome : Outcome} (cut : outcome = .exhausted ∨ outcome = .cancelled) :
    References ([] : List (Step scope program)) outcome machine := by
  refine ⟨List.forall_mem_nil _, fun _ failed => ?_, fun _ failed => ?_, fun _ completed => ?_⟩
  · rcases cut with rfl | rfl <;> cases failed
  · rcases cut with rfl | rfl <;> cases failed
  · rcases cut with rfl | rfl <;> cases completed

theorem of_result {r : Except Fault (Option Value)} (anchored : machine.Anchored)
    (course : (Evaluation.result scope).Course machine running passed r machine' running')
    (secure : ∀ step ∈ steps, step.Secure) :
    References steps (Interpreter.closing (r.map .completed) machine').2.1
      (Interpreter.closing (r.map .completed) machine').2.2 := by
  obtain ⟨rfl, -⟩ := Evaluation.result_iff.mp course
  cases r with
  | error fault =>
      obtain ⟨place, rest, failure, stack, inside, rfl⟩ := Evaluation.result_refused anchored course
      refine ⟨secure, ?_, fun _ other => (nomatch other), fun _ other => nomatch other⟩
      rintro _ ⟨⟩
      exact .inr ⟨_, place, rest, failure, anchored, stack, inside, rfl, _, _, _, course⟩
  | ok value =>
      refine ⟨secure, fun _ other => (nomatch other), fun _ other => (nomatch other), ?_⟩
      rintro _ ⟨⟩
      refine ⟨anchored, fun name rest stack => ?_⟩
      obtain ⟨held, found⟩ := Internals.contains_iff.mp (anchored.top stack).1
      exact ⟨held, found, Evaluation.result_of_reference stack found course⟩

end References

/-- What one step keeps, a walk keeps. -/
theorem Walk.references {between : Bool → Bool → Prop} {fuel position : Nat} {machine machine' : Machine}
    {running running' : Bool} {steps : List (Step scope program)} {passed : List (Exchange Bool)}
    {r : Except Fault Outcome}
    (walk : Walk scope program between fuel position machine running steps passed r machine' running')
    (anchored : machine.Anchored) :
    References steps (Interpreter.closing r machine').2.1 (Interpreter.closing r machine').2.2 := by
  induction walk with
  | exhausted => exact .of_cut (.inl rfl)
  | ended found course => exact .of_result anchored course (List.forall_mem_nil _)
  | cancelled => exact .of_cut (.inr rfl)
  | failed step leads =>
      have secure := step.secure anchored
      refine ⟨List.forall_mem_singleton.mpr secure, ?_, ?_, fun _ other => nomatch other⟩
      · rintro _ ⟨⟩
        exact .inl ⟨[], step, rfl, leads⟩
      · rintro name ⟨⟩
        exact ⟨[], step, rfl, (secure.missing_iff name).mp (Step.missing_of_leads leads)⟩
  | returned step leads course =>
      exact .of_result (step.anchored anchored leads) course
        (List.forall_mem_singleton.mpr (step.secure anchored))
  | onward step leads flag walk ih =>
      obtain ⟨secure, failed, missing, completed⟩ := ih (step.anchored anchored leads)
      have all := List.forall_mem_cons.mpr ⟨step.secure anchored, secure⟩
      refine ⟨all, fun fault fails => ?_, fun name fails => ?_, completed⟩
      · refine (failed fault fails).imp_left ?_
        rintro ⟨earlier, last, rfl, leads⟩
        exact ⟨step :: earlier, last, rfl, leads⟩
      · obtain ⟨earlier, last, rfl, pushes⟩ := missing name fails
        exact ⟨step :: earlier, last, rfl, pushes⟩

end Steps

/-! ### Runs -/

namespace Interpreter

theorem Ran.references {interpreter left : Interpreter} {between : Bool → Bool → Prop} {fuel : Nat}
    {frame : Frame} {steps : List (Step ⟨frame, interpreter.settings⟩ interpreter.program)}
    {passed : List (Exchange Bool)} {outcome : Outcome}
    (ran : interpreter.Ran between fuel frame steps passed outcome left) :
    References steps outcome left.machine := by
  obtain ⟨walk⟩ := ran
  exact walk.references .empty

/-- Before every instruction of a run the internal variables on the stack exist, whatever the program is, the
target replies and others do to the flag. So no use of such a variable fails for want of it, in an instruction
or when the result is read: a variable is missing only if the last instruction is to push its name. -/
theorem references_never_dangle (interpreter : Interpreter) (fuel : Nat) (target : Target) (frame : Frame) :
    (∀ passed outcome left, (interpreter.run fuel target frame).Course passed (outcome, left) →
      (target.isTerminated = true ∧ outcome = .failed .targetTerminated) ∨
      ∃ steps, interpreter.Ran Eq fuel frame steps passed outcome left ∧
        References steps outcome left.machine) ∧
    ∀ between steps passed outcome left, interpreter.Ran between fuel frame steps passed outcome left →
      References steps outcome left.machine := by
  constructor
  · intro passed outcome left course
    by_cases gone : target.isTerminated = true
    · exact .inl ⟨gone, (run_refused gone course).2.1⟩
    · obtain ⟨steps, ran⟩ := run_course (Bool.eq_false_iff.mpr gone) course
      exact .inr ⟨steps, ran, ran.references⟩
  · intro between steps passed outcome left ran
    exact ran.references

end Interpreter

namespace Anchor.Sample

/-- A reference is doubled, and one of the two is used to change the variable that the other one gives. -/
def adding : Interpreter where
  program := [.createInternal "i" "int", .pushInternal "i", .dup, .pushLiteral (.int 7), .compoundAssign .add,
    .pop]

/-- A program that takes one name for another. -/
def mistaking : Interpreter where
  program := [.createInternal "i" "int", .pushInternal "j"]

def target : Target := { name := "sample" }

/-- The variables are the interpreter's own, and nothing is asked for. -/
def silent (request : Request) (running : Bool) : request.Reply × Bool :=
  answering (fun _ => .error .disconnected) request running

end Anchor.Sample

open Anchor.Sample in
theorem Interpreter.references_never_dangle_adding :
    (∃ passed left steps,
      (adding.run 9 target ⟨⟨1⟩, 0⟩).Course passed (.completed (some (.int 7)), left) ∧
      adding.Ran Eq 9 ⟨⟨1⟩, 0⟩ steps passed (.completed (some (.int 7))) left ∧
      (∀ step ∈ steps, step.before.Anchored) ∧ left.machine.Anchored) ∧
    ∃ passed left steps, (mistaking.run 9 target ⟨⟨1⟩, 0⟩).Course passed
        (.failed (.internalVariableNotFound "j"), left) ∧
      ∃ earlier last, steps = earlier ++ [last] ∧ last.instruction = .pushInternal "j" ∧
        mistaking.Ran Eq 9 ⟨⟨1⟩, 0⟩ steps passed (.failed (.internalVariableNotFound "j")) left := by
  constructor
  · have completes : ((adding.run 9 target ⟨⟨1⟩, 0⟩).follow silent).2.1 =
        .completed (some (.int 7)) := by
      decide +kernel
    obtain ⟨passed, left, course⟩ := Dialogue.exists_course_of_follow completes
    obtain ⟨gone, -⟩ | ⟨steps, ran, secure, -, -, completed⟩ :=
      (references_never_dangle adding 9 target ⟨⟨1⟩, 0⟩).1 passed _ left course
    · cases gone
    · exact ⟨passed, left, steps, course, ran, fun step member => (secure step member).anchored,
        (completed _ rfl).1⟩
  · have fails : ((mistaking.run 9 target ⟨⟨1⟩, 0⟩).follow silent).2.1 =
        .failed (.internalVariableNotFound "j") := by
      decide +kernel
    obtain ⟨passed, left, course⟩ := Dialogue.exists_course_of_follow fails
    obtain ⟨gone, -⟩ | ⟨steps, ran, -, -, missing, -⟩ :=
      (references_never_dangle mistaking 9 target ⟨⟨1⟩, 0⟩).1 passed _ left course
    · cases gone
    · obtain ⟨earlier, last, same, pushes, -⟩ := missing "j" rfl
      exact ⟨passed, left, steps, course, earlier, last, same, pushes, ran⟩

end RemoteDebug
