import RemoteDebug.Proofs.Facade
import RemoteDebug.Proofs.Jump
import RemoteDebug.Proofs.Restraint

/-!
Programs that only go forward.

A program in which no jump has a negative offset comes to its end. Every step leads to a later position, and a
walk has no more steps than there are positions left. The permitted number of instructions plays no part then:
whoever permits more than the program has permits enough.

* `Program.Forward` says that no jump goes back. `Step.lt_of_leads` is what one step does to the position,
  `Walk.advances` what a walk does.
* `Evaluation.loop_congr_fuel` leaves the permitted number out of account.
* `Interpreter.ends_going_forward` speaks of runs.
-/

namespace RemoteDebug

/-- The offset of a jump, whether it is taken or not. -/
def Instruction.offset? : Instruction → Option Int64
  | .jump offset => some offset
  | .conditionalJump offset _ => some offset
  | _ => none

/-- No jump goes back. -/
def Program.Forward (program : Program) : Prop :=
  ∀ instruction ∈ program, ∀ offset ∈ instruction.offset?, 0 ≤ offset.toInt

-- The offsets are looked at one after another: a search for an instance may also come to try all words.
instance (program : Program) : Decidable program.Forward :=
  decidable_of_iff (program.all fun instruction => instruction.offset?.all fun offset => 0 ≤ offset.toInt)
    (by simp [Program.Forward, Option.all_eq_true])

theorem Instruction.offset?_of_flows {instruction : Instruction} {offset : Int64}
    (jumps : .jump offset ∈ instruction.flows) : instruction.offset? = some offset := by
  cases instruction with
  | jump other =>
      cases List.mem_singleton.mp jumps
      rfl
  | conditionalJump other jumpOn =>
      rcases List.mem_cons.mp jumps with same | later
      · cases same
        rfl
      · cases List.mem_singleton.mp later
  | _ => cases List.mem_singleton.mp jumps

/-- A jump ahead lands behind the position that it starts from. -/
theorem lt_of_jumpTarget {position length target : Nat} {offset : Int64} (within : position < length)
    (addressable : (length : Int) ≤ lastPosition) (ahead : 0 ≤ offset.toInt)
    (lands : jumpTarget position offset length = .ok target) : position < target := by
  unfold jumpTarget at lands
  dsimp only at lands
  split at lands
  · cases lands
  · have same := Except.ok.inj lands
    omega

namespace Evaluation

/-- An instruction that succeeds goes where its kind can go. -/
theorem flow_mem_flows {scope : Scope} {instruction : Instruction} {m m' : Machine} {s t : Bool}
    {passed : List (Exchange Bool)} {flow : Flow}
    (course : Course (execute scope instruction) m s passed (.ok flow) m' t) : flow ∈ instruction.flows := by
  obtain ⟨taken, pushed, length, -, swaps⟩ := (execute_restrained course).stack
  obtain ⟨rest, stack, -⟩ := swaps.stays
  refine (depth_after course ?_).1
  rw [Machine.depth, stack, List.length_append, length]
  exact Nat.le_add_right _ _

end Evaluation

section Walks

variable {scope : Scope} {program : Program}

/-- A step of a program that only goes forward leads to a later position. -/
theorem Step.lt_of_leads (forward : program.Forward) (addressable : (program.length : Int) ≤ lastPosition)
    {step : Step scope program} {next : Nat} (leads : step.leads = .ok (some next)) :
    step.position < next := by
  rcases Step.leads_eq_some leads with ⟨-, rfl⟩ | ⟨offset, jumps, lands⟩
  · exact Nat.lt_succ_self _
  · have course := step.course
    rw [jumps] at course
    have jump := Instruction.offset?_of_flows (Evaluation.flow_mem_flows course)
    have ahead := forward _ (List.mem_of_getElem? step.found) offset jump
    exact lt_of_jumpTarget (List.getElem?_eq_some_iff.mp step.found).1 addressable ahead lands

/-- Steps from a position on that only go forward. -/
structure Advances (position : Nat) (steps : List (Step scope program)) : Prop where
  /-- Each step is behind the ones before it. -/
  ascending : (steps.map Step.position).Pairwise (· < ·)
  beyond : ∀ step ∈ steps, position ≤ step.position
  /-- There are no more steps than positions left. -/
  few : position + steps.length ≤ max position program.length

namespace Advances

theorem nil {position : Nat} : Advances position ([] : List (Step scope program)) :=
  ⟨.nil, List.forall_mem_nil _, Nat.le_max_left ..⟩

/-- The first of the steps leads to the others. -/
theorem cons {step : Step scope program} {next : Nat} {steps : List (Step scope program)}
    (later : step.position < next) (within : next ≤ program.length) (advances : Advances next steps) :
    Advances step.position (step :: steps) where
  ascending := by
    rw [List.map_cons]
    refine .cons ?_ advances.ascending
    intro other here
    obtain ⟨step', mem, rfl⟩ := List.mem_map.mp here
    exact Nat.lt_of_lt_of_le later (advances.beyond step' mem)
  beyond := by
    refine List.forall_mem_cons.mpr ⟨Nat.le_refl _, fun other mem => ?_⟩
    exact Nat.le_of_lt (Nat.lt_of_lt_of_le later (advances.beyond other mem))
  few := by
    have few := advances.few
    rw [List.length_cons]
    omega

theorem singleton {step : Step scope program} : Advances step.position [step] :=
  have within : step.position < program.length := (List.getElem?_eq_some_iff.mp step.found).1
  .cons (Nat.lt_succ_self _) within .nil

end Advances

variable {between : Bool → Bool → Prop} {fuel position : Nat} {machine machine' : Machine}
  {running running' : Bool} {steps : List (Step scope program)} {passed : List (Exchange Bool)}
  {r : Except Fault Outcome}

theorem Walk.advances (forward : program.Forward) (addressable : (program.length : Int) ≤ lastPosition)
    (walk : Walk scope program between fuel position machine running steps passed r machine' running') :
    Advances position steps := by
  induction walk with
  | exhausted | ended | cancelled => exact .nil
  | failed | returned => exact .singleton
  | onward step leads flag walk ih =>
      exact ih.cons (Step.lt_of_leads forward addressable leads) (Step.le_of_leads leads)

theorem completed_ne_exhausted (found : Except Fault (Option Value)) :
    found.map Outcome.completed ≠ .ok .exhausted := by
  cases found with
  | error fault => exact nofun
  | ok value => exact nofun

/-- A walk comes to an end if more steps are permitted than positions are left. -/
theorem Walk.ends (forward : program.Forward) (addressable : (program.length : Int) ≤ lastPosition)
    (walk : Walk scope program between fuel position machine running steps passed r machine' running')
    (within : position ≤ program.length) (enough : program.length < position + fuel) :
    r ≠ .ok .exhausted := by
  induction walk with
  | exhausted => omega
  | ended | returned => exact completed_ne_exhausted _
  | cancelled | failed => exact nofun
  | onward step leads flag walk ih =>
      have later := Step.lt_of_leads forward addressable leads
      exact ih (Step.le_of_leads leads) (by omega)

end Walks

/-! ### The permitted number of instructions -/

/-- What follows a dialogue matters only for the results that it can come to. -/
theorem Dialogue.bind_congr {σ α β : Type} {d : Dialogue σ α} {f g : α → Dialogue σ β}
    (same : ∀ passed a, d.Course passed a → f a = g a) : d.bind f = d.bind g := by
  induction d with
  | done a => exact same [] a .done
  | note n rest ih =>
      exact congrArg (Dialogue.note n) (funext fun u => ih u fun passed a course => same _ a (.note course))
  | ask q s next ih =>
      refine congrArg (Dialogue.ask q s) (funext fun reply => funext fun t => ?_)
      exact ih reply t fun passed a course => same _ a (.ask course)

namespace Evaluation

theorem bind_congr_of_course {α β : Type} {x : Evaluation α} {f g : α → Evaluation β}
    (same : ∀ m s passed a m' t, Course x m s passed (.ok a) m' t → f a = g a) :
    (x >>= f) = (x >>= g) := by
  apply ExceptT.ext
  apply StateT.ext
  intro m
  rw [run_bind, run_bind]
  funext s
  refine Dialogue.bind_congr fun passed result course => ?_
  obtain ⟨⟨fault | a, m'⟩, t⟩ := result
  · rfl
  · exact congrArg (fun y : Evaluation β => (y.run.run m' : Operation Bool _) t)
      (same m s passed a m' t course)

/-- If more instructions are permitted than positions are left, it does not matter how many. -/
theorem loop_congr_fuel {scope : Scope} {program : Program} (forward : program.Forward)
    (addressable : (program.length : Int) ≤ lastPosition) {fuel fuel' position : Nat}
    (within : position ≤ program.length) (enough : program.length < position + fuel)
    (enough' : program.length < position + fuel') :
    loop scope program fuel position = loop scope program fuel' position := by
  induction fuel generalizing fuel' position with
  | zero => omega
  | succ fuel ih =>
      obtain ⟨fuel', rfl⟩ : ∃ n, fuel' = n + 1 := Nat.exists_eq_succ_of_ne_zero (by omega)
      cases found : program[position]? with
      | none => rw [loop_of_none found, loop_of_none found]
      | some instruction =>
          rw [loop_of_some found, loop_of_some found]
          have here : position < program.length := (List.getElem?_eq_some_iff.mp found).1
          have follows : ∀ m s passed flow m' t, Course (execute scope instruction) m s passed (.ok flow) m' t →
              follow scope program fuel position flow = follow scope program fuel' position flow := by
            intro m s passed flow m' t course
            cases flow with
            | next => exact ih here (by omega) (by omega)
            | jump offset =>
                have ahead := forward _ (List.mem_of_getElem? found) offset
                  (Instruction.offset?_of_flows (flow_mem_flows course))
                refine bind_congr_of_course fun m s passed target m' t computed => ?_
                obtain ⟨-, lands, -, -⟩ := compute_iff.mp computed
                have later := lt_of_jumpTarget here addressable ahead lands.symm
                exact ih (le_of_jumpTarget lands.symm) (by omega) (by omega)
            | «return» => rfl
          rw [bind_congr_of_course follows]

end Evaluation

namespace Interpreter

variable {interpreter : Interpreter}

theorem exhausted_of_closing {r : Except Fault Outcome} {machine : Machine}
    (exhausted : (closing r machine).2.1 = .exhausted) : r = .ok .exhausted := by
  rcases r with fault | value | _ | fault | _
  · cases exhausted
  · cases exhausted
  · cases exhausted
  · cases exhausted
  · rfl

section Forward

variable (forward : interpreter.program.Forward)
  (addressable : (interpreter.program.length : Int) ≤ lastPosition)

include forward addressable

/-- A run that may execute more instructions than the program has comes to its end. -/
theorem Ran.concludes {between : Bool → Bool → Prop} {fuel : Nat} {frame : Frame}
    {steps : List (Step ⟨frame, interpreter.settings⟩ interpreter.program)} {passed : List (Exchange Bool)}
    {outcome : Outcome} {left : Interpreter}
    (ran : interpreter.Ran between fuel frame steps passed outcome left)
    (enough : interpreter.program.length < fuel) : outcome ≠ .exhausted := by
  obtain ⟨walk⟩ := ran
  intro exhausted
  exact walk.ends forward addressable (Nat.zero_le _) (by omega) (exhausted_of_closing exhausted)

theorem run_congr_fuel {fuel fuel' : Nat} (target : Target) (frame : Frame)
    (enough : interpreter.program.length < fuel) (enough' : interpreter.program.length < fuel') :
    interpreter.run fuel target frame = interpreter.run fuel' target frame := by
  have same : Evaluation.loop ⟨frame, interpreter.settings⟩ interpreter.program fuel 0 =
      Evaluation.loop ⟨frame, interpreter.settings⟩ interpreter.program fuel' 0 :=
    Evaluation.loop_congr_fuel forward addressable (Nat.zero_le _) (by omega) (by omega)
  rw [run, run, evaluate, evaluate, same]

end Forward

/-- A run of a program that only goes forward takes its steps at ascending positions, each of them at most
once, and it comes to its end. It does so whatever the target replies and whenever somebody asks for a stop,
and it does not matter how many instructions are permitted beyond those that the program has. A program in
memory is addressable: its positions are words of the machine. -/
theorem ends_going_forward (forward : interpreter.program.Forward)
    (addressable : (interpreter.program.length : Int) ≤ lastPosition) (target : Target) (frame : Frame) :
    (∀ between fuel steps passed outcome left,
      interpreter.Ran between fuel frame steps passed outcome left →
      (steps.map Step.position).Pairwise (· < ·) ∧ (steps.map Step.position).Nodup ∧
        steps.length ≤ interpreter.program.length ∧
        (interpreter.program.length < fuel → outcome ≠ .exhausted)) ∧
    (∀ fuel, interpreter.program.length < fuel →
      interpreter.run fuel target frame = interpreter.run (interpreter.program.length + 1) target frame) ∧
    ∀ fuel facade clears, interpreter.program.length < fuel →
      ∃ passed outcome left, (interpreter.run fuel target frame).Course passed (outcome, left) ∧
        Meets facade clears [] passed ∧ outcome ≠ .exhausted ∧
        (target.isTerminated = false →
          ∃ steps, interpreter.Ran Eq fuel frame steps passed outcome left) := by
  refine ⟨?_, fun fuel enough => ?_, fun fuel facade clears enough => ?_⟩
  · intro between fuel steps passed outcome left ran
    have concludes := ran.concludes forward addressable
    obtain ⟨walk⟩ := ran
    obtain ⟨ascending, -, few⟩ := walk.advances forward addressable
    refine ⟨ascending, ascending.imp Nat.ne_of_lt, ?_, concludes⟩
    rwa [Nat.zero_add, Nat.zero_max] at few
  · exact run_congr_fuel forward addressable target frame enough (Nat.lt_succ_self _)
  · obtain ⟨passed, ⟨outcome, left⟩, course, meets⟩ : ∃ passed result,
        (interpreter.run fuel target frame).Course passed result ∧ Meets facade clears [] passed :=
      Dialogue.exists_meets _ _
    refine ⟨passed, outcome, left, course, meets, ?_, fun alive => run_course alive course⟩
    by_cases gone : target.isTerminated = true
    · rw [(run_refused gone course).2.1]
      exact nofun
    · obtain ⟨steps, ran⟩ := run_course (Bool.eq_false_iff.mpr gone) course
      exact ran.concludes forward addressable enough

end Interpreter

namespace Advance.Sample

/-- A choice between two values: one jump is taken or not, the other one goes over the second value. -/
def choosing : Interpreter where
  program := [.pushLiteral (.boolean true), .conditionalJump 2 false, .pushLiteral (.int 1), .jump 1,
    .pushLiteral (.int 2)]

end Advance.Sample

open Advance.Sample in
theorem Interpreter.ends_going_forward_choosing :
    choosing.program.Forward ∧ (choosing.program.length : Int) ≤ lastPosition ∧
      ∃ passed left, (choosing.run 6 { name := "sample" } ⟨⟨1⟩, 0⟩).Course passed
          (.completed (some (.int 1)), left) ∧
        ∃ steps, choosing.Ran Eq 6 ⟨⟨1⟩, 0⟩ steps passed (.completed (some (.int 1))) left ∧
          (steps.map Step.position).Pairwise (· < ·) ∧ steps.length ≤ 5 := by
  have forward : choosing.program.Forward := by decide
  have addressable : (choosing.program.length : Int) ≤ lastPosition := by
    have length : choosing.program.length = 5 := rfl
    rw [lastPosition_eq, length]
    omega
  have completes : ((choosing.run 6 { name := "sample" } ⟨⟨1⟩, 0⟩).follow
      (answering fun _ => .error .disconnected)).2.1 = .completed (some (.int 1)) := by
    decide +kernel
  obtain ⟨passed, left, course⟩ := Dialogue.exists_course_of_follow completes
  obtain ⟨steps, ran⟩ := run_course rfl course
  obtain ⟨advances, -⟩ := ends_going_forward forward addressable { name := "sample" } ⟨⟨1⟩, 0⟩
  obtain ⟨ascending, -, few, -⟩ := advances _ _ _ _ _ _ ran
  exact ⟨forward, addressable, passed, left, course, steps, ran, ascending, few⟩

end RemoteDebug
