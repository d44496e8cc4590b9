import RemoteDebug.Proofs.Walk

/-!
Histories of an interpreter: runs, one after another, and requests to stop.

The outcomes of the runs may be any, and so may the targets. A run that completes leaves its machine behind,
for others to look at. Any other run on a live target leaves nothing. A target that is gone refuses the run
before the machine is cleared: then what an earlier run left is still there.
-/

namespace RemoteDebug

namespace Interpreter

/-- `interpreter.Later later`: the interpreter `later` is what some runs and requests to stop leave. -/
inductive Later (interpreter : Interpreter) : Interpreter → Prop where
  | now : Later interpreter interpreter
  | run {former left : Interpreter} {fuel : Nat} {target : Target} {frame : Frame}
      {passed : List (Exchange Bool)} {outcome : Outcome} : interpreter.Later former →
      (former.run fuel target frame).Course passed (outcome, left) → Later interpreter left
  | stop {former : Interpreter} : interpreter.Later former → Later interpreter former.stop

/-- The machine of an interpreter is empty, or a completed run left it. -/
def Accountable (interpreter later : Interpreter) : Prop :=
  later.machine = {} ∨ ∃ former fuel target frame passed value left, interpreter.Later former ∧
    (former.run fuel target frame).Course passed (.completed value, left) ∧
    later.machine = left.machine

variable {interpreter later left : Interpreter} {fuel : Nat} {target : Target} {frame : Frame}
  {passed : List (Exchange Bool)} {outcome : Outcome}

/-- Only a completed run leaves a machine. -/
theorem Ran.machine_eq {between : Bool → Bool → Prop}
    {steps : List (Step ⟨frame, interpreter.settings⟩ interpreter.program)}
    (ran : interpreter.Ran between fuel frame steps passed outcome left)
    (unfinished : ∀ value, outcome ≠ .completed value) : left.machine = {} := by
  obtain @⟨walked, r, machine, running, walk⟩ := ran
  rcases r with fault | value | _ | fault | _
  · rfl
  · exact absurd rfl (unfinished value)
  · rfl
  · rfl
  · rfl

/-- What is left after a run that completes, or that does not. -/
theorem Accountable.run (accountable : interpreter.Accountable later) (history : interpreter.Later later)
    (course : (later.run fuel target frame).Course passed (outcome, left)) :
    interpreter.Accountable left := by
  by_cases gone : target.isTerminated = true
  · obtain ⟨-, -, rfl⟩ := run_refused gone course
    exact accountable
  · obtain ⟨steps, ran⟩ := run_course (Bool.eq_false_iff.mpr gone) course
    by_cases unfinished : ∀ value, outcome ≠ .completed value
    · exact .inl (ran.machine_eq unfinished)
    · simp only [ne_eq, Classical.not_forall, Decidable.not_not] at unfinished
      obtain ⟨value, rfl⟩ := unfinished
      exact .inr ⟨later, fuel, target, frame, passed, value, left, history, course, rfl⟩

theorem Later.accountable (fresh : interpreter.machine = {}) (history : interpreter.Later later) :
    interpreter.Accountable later := by
  induction history with
  | now => exact .inl fresh
  | run history course ih => exact ih.run history course
  | stop _ ih => exact ih

/-- A run that does not complete leaves an empty stack and no internal variables on a live target. On a
target that is gone it leaves the interpreter as it was, with what the last completed run has left. -/
theorem leftovers (fresh : interpreter.machine = {}) (history : interpreter.Later later) (fuel : Nat)
    (target : Target) (frame : Frame) (passed : List (Exchange Bool)) (outcome : Outcome)
    (left : Interpreter) (course : (later.run fuel target frame).Course passed (outcome, left))
    (unfinished : ∀ value, outcome ≠ .completed value) :
    (target.isTerminated = false → left.depth = 0 ∧ left.internals = {}) ∧
      (target.isTerminated = true →
        passed = [] ∧ outcome = .failed .targetTerminated ∧ left = later) ∧
      interpreter.Accountable left := by
  refine ⟨fun alive => ?_, fun gone => run_refused gone course,
    (history.accountable fresh).run history course⟩
  obtain ⟨steps, ran⟩ := run_course alive course
  unfold depth internals
  rw [ran.machine_eq unfinished]
  exact ⟨rfl, rfl⟩

end Interpreter

namespace History.Sample

/-- A program that declares a variable and has a result. -/
def declaring : Interpreter where
  program := [.createInternal "i" "int", .pushLiteral (.int 7)]

/-- What it leaves when it completes. -/
def declared : Interpreter :=
  { declaring with
    machine := { stack := [.value (.int 7)], internals := ⟨[("i", ⟨.int, none, .int 0⟩)]⟩ } }

theorem completes : ∃ passed, (declaring.run 30 { name := "sample" } ⟨⟨1⟩, 0⟩).Course passed
    (.completed (some (.int 7)), declared) :=
  ⟨_, Dialogue.course_follow (answering fun _ => .error .disconnected)
    (declaring.run 30 { name := "sample" } ⟨⟨1⟩, 0⟩)⟩

end History.Sample

open History.Sample in
theorem Interpreter.leftovers_stopped :
    ∃ passed left, (declared.stop.run 30 { name := "sample" } ⟨⟨1⟩, 0⟩).Course passed (.cancelled, left) ∧
      left.depth = 0 ∧ left.internals = {} := by
  obtain ⟨_, completed⟩ := completes
  have cancels : ((declared.stop.run 30 { name := "sample" } ⟨⟨1⟩, 0⟩).follow
      (answering fun _ => .error .disconnected)).2.1 = .cancelled := by
    decide +kernel
  obtain ⟨passed, left, course⟩ := Dialogue.exists_course_of_follow cancels
  have history : declaring.Later declared.stop := .stop (.run .now completed)
  exact ⟨passed, left, course, (leftovers rfl history 30 _ _ _ _ _ course nofun).1 rfl⟩

open History.Sample in
/-- A target that is gone refuses, and then what an earlier run left is still there. -/
theorem Interpreter.leftovers_refused :
    ¬ ∀ (interpreter later : Interpreter) fuel (target : Target) frame passed outcome left,
      interpreter.machine = {} → interpreter.Later later →
      (later.run fuel target frame).Course passed (outcome, left) →
      (∀ value, outcome ≠ .completed value) → left.depth = 0 ∧ left.internals = {} := by
  intro empties
  obtain ⟨_, completed⟩ := completes
  have refused : (declared.run 30 { name := "sample", status := .terminated } ⟨⟨1⟩, 0⟩).Course []
      (.failed .targetTerminated, declared) := .done
  have emptied := empties declaring declared 30 _ _ _ _ _ rfl (.run .now completed) refused nofun
  cases emptied.1

end RemoteDebug
