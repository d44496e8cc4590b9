import RemoteDebug.Machine
import RemoteDebug.Target

/-!
The interpreter: runs a program on the stack machine in a suspended thread.

* `Interpreter.run` runs a program from its first instruction. Before each instruction it looks at the
  flag that others may clear, so a run is cut at an instruction boundary and never inside a call.
* A run that does not complete leaves an empty machine.
* `jumpTarget` is where a jump continues: a position of the program or its end.

A program may loop for ever. The runs here count the instructions they may execute, and running out of
them is an outcome of its own.
-/

namespace RemoteDebug

/-- How a run ended. -/
inductive Outcome where
  /-- The program came to its end, with a value unless the expression has none. -/
  | completed (value : Option Value)
  /-- A stop was requested before the end. -/
  | cancelled
  | failed (fault : Fault)
  /-- The permitted number of instructions was used up. -/
  | exhausted
deriving DecidableEq, Repr

/-- An interpreter and what its last run left. -/
structure Interpreter where
  program : Program
  settings : EvaluationSettings := {}
  machine : Machine := {}
  /-- Cleared for good by a request to stop. -/
  running : Bool := true
deriving DecidableEq, Repr

/-- The largest position that a jump can name. -/
def lastPosition : Int := Int64.maxValue.toInt

/-- Where a jump from a position continues. A target beyond the largest position is limited to it. -/
def jumpTarget (position : Nat) (offset : Int64) (length : Nat) : Except Fault Nat :=
  let following : Int := min (position + 1 : Int) lastPosition
  let target := min (following + offset.toInt) lastPosition
  if target < 0 ∨ length < target then .error (.jumpOutOfRange target) else .ok target.toNat

namespace Evaluation

/-- Whether the evaluation may go on. -/
def mayRun : Evaluation Bool := attempt (perform .read)

/-- Log an entry. -/
def log (entry : LogEntry) : Evaluation Unit := attempt (perform (.log entry))

/-- Run a program from a position, with at most `fuel` instructions. -/
def loop (scope : Scope) (program : Program) : Nat → Nat → Evaluation Outcome
  | 0, _ => return .exhausted
  | fuel + 1, position =>
    match program[position]? with
    | none => return .completed (← result scope)
    | some instruction => do
      if !(← mayRun) then
        log (.stoppedBefore position)
        return .cancelled
      log (.instruction position instruction)
      match ← execute scope instruction with
      | .next => loop scope program fuel (position + 1)
      | .jump offset =>
        let target ← compute (jumpTarget position offset program.length)
        loop scope program fuel target
      | .return => return .completed (← result scope)

end Evaluation

namespace Interpreter

/-- The number of entries that the last run left on the stack. -/
def depth (interpreter : Interpreter) : Nat := interpreter.machine.depth

/-- The internal variables that the last run left. -/
def internals (interpreter : Interpreter) : Internals := interpreter.machine.internals

/-- Run a program on an empty machine and tell how it ended; only a completed run leaves a machine. -/
def evaluate (interpreter : Interpreter) (fuel : Nat) (frame : Frame) :
    Operation Bool (Outcome × Machine) := do
  let scope : Scope := ⟨frame, interpreter.settings⟩
  match ← (Evaluation.loop scope interpreter.program fuel 0).run.run {} with
  | (.ok (.completed value), machine) => return (.completed value, machine)
  | (.ok .cancelled, _) =>
    .report (.warning .interpreter .evaluationCancelled)
    return (.cancelled, {})
  | (.ok outcome, _) => return (outcome, {})
  | (.error fault, _) =>
    .log (.evaluationFailed fault)
    return (.failed fault, {})

/-- Run an interpreter in a frame of a target, with at most `fuel` instructions. A target that is gone
refuses, and the interpreter stays as it was. -/
def run (interpreter : Interpreter) (fuel : Nat) (target : Target) (frame : Frame) :
    Dialogue Bool (Outcome × Interpreter) :=
  if target.isTerminated then .done (.failed .targetTerminated, interpreter)
  else
    (interpreter.evaluate fuel frame interpreter.running).bind fun ((outcome, machine), running) =>
      .done (outcome, { interpreter with machine, running })

theorem run_of_gone {interpreter : Interpreter} {fuel : Nat} {target : Target} {frame : Frame}
    (gone : target.isTerminated = true) :
    interpreter.run fuel target frame = .done (.failed .targetTerminated, interpreter) := by
  rw [run, if_pos gone]

/-- Ask a run to end before its next instruction; the request holds for later runs too. -/
def stop (interpreter : Interpreter) : Interpreter := { interpreter with running := false }

/-- The top frame of the current thread of a target. -/
def currentFrame (target : Target) : Except Fault Frame :=
  match target.currentThread? with
  | some thread => .ok { thread }
  | none => .error .noCurrentThread

end Interpreter

end RemoteDebug
