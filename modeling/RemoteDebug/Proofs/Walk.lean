import RemoteDebug.Proofs.Evaluation

/-!
Runs of a program, instruction after instruction.

* A `Step` is one executed instruction, `Step.leads` says where it leads.
* `Walk` says which steps a program takes from a position and how it ends. It leaves open what others may
  do to the flag between two instructions. `Walk.of_found`, `Walk.of_none` and `Walk.of_cleared` take the
  front off a walk.
* `loop_course` finds the walk in a course of `Evaluation.loop`. There the flag changes only while an
  instruction waits for the target.
* `Interpreter.closing` is what a run does after its walk, `Interpreter.Ran` a whole run; `run_course`
  finds it in a course of `Interpreter.run` on a live target. A target that is gone refuses.
-/

namespace RemoteDebug

/-- One executed instruction of a program. -/
structure Step (scope : Scope) (program : Program) where
  position : Nat
  instruction : Instruction
  /-- The machine before the instruction. -/
  before : Machine
  passed : List (Exchange Bool)
  result : Except Fault Flow
  /-- The machine after the instruction. -/
  after : Machine
  /-- The flag after the instruction; it is set before. -/
  running : Bool
  found : program[position]? = some instruction
  course : (Evaluation.execute scope instruction).Course before true passed result after running

namespace Step

variable {scope : Scope} {program : Program}

/-- What passes in a step, the entry about the instruction first. -/
def exchanges (step : Step scope program) : List (Exchange Bool) :=
  .told (.log (.instruction step.position step.instruction)) :: step.passed

/-- The position to which a step leads; nothing follows a return. -/
def leads (step : Step scope program) : Except Fault (Option Nat) :=
  match step.result with
  | .ok .next => .ok (some (step.position + 1))
  | .ok (.jump offset) => (jumpTarget step.position offset program.length).map some
  | .ok .return => .ok none
  | .error fault => .error fault

variable {step : Step scope program}

theorem leads_of_next (flows : step.result = .ok .next) :
    step.leads = .ok (some (step.position + 1)) := by
  unfold leads
  rw [flows]

theorem leads_of_jump {offset : Int64} (flows : step.result = .ok (.jump offset)) :
    step.leads = (jumpTarget step.position offset program.length).map some := by
  unfold leads
  rw [flows]

theorem leads_of_return (flows : step.result = .ok .return) : step.leads = .ok none := by
  unfold leads
  rw [flows]

theorem leads_of_fault {fault : Fault} (fails : step.result = .error fault) :
    step.leads = .error fault := by
  unfold leads
  rw [fails]

end Step

/-- The steps that a program takes from a position on, with a machine, a flag and a number of permitted
steps, and the end that it comes to. Between two instructions the flag changes as `between` permits. -/
inductive Walk (scope : Scope) (program : Program) (between : Bool → Bool → Prop) :
    Nat → Nat → Machine → Bool → List (Step scope program) → List (Exchange Bool) →
      Except Fault Outcome → Machine → Bool → Prop where
  | exhausted {position : Nat} {machine : Machine} {running : Bool} :
      Walk scope program between 0 position machine running [] [] (.ok .exhausted) machine running
  | ended {fuel position : Nat} {machine machine' : Machine} {running running' : Bool}
      {passed : List (Exchange Bool)} {r : Except Fault (Option Value)} :
      program[position]? = none →
      (Evaluation.result scope).Course machine running passed r machine' running' →
      Walk scope program between (fuel + 1) position machine running [] passed (r.map .completed)
        machine' running'
  | cancelled {fuel position : Nat} {machine : Machine} {instruction : Instruction} :
      program[position]? = some instruction →
      Walk scope program between (fuel + 1) position machine false []
        [.told (.log (.stoppedBefore position))] (.ok .cancelled) machine false
  | failed {fuel : Nat} {fault : Fault} (step : Step scope program) : step.leads = .error fault →
      Walk scope program between (fuel + 1) step.position step.before true [step] step.exchanges
        (.error fault) step.after step.running
  | returned {fuel : Nat} (step : Step scope program) {machine' : Machine} {running' : Bool}
      {passed : List (Exchange Bool)} {r : Except Fault (Option Value)} : step.leads = .ok none →
      (Evaluation.result scope).Course step.after step.running passed r machine' running' →
      Walk scope program between (fuel + 1) step.position step.before true [step]
        (step.exchanges ++ passed) (r.map .completed) machine' running'
  | onward {fuel next : Nat} (step : Step scope program) {steps : List (Step scope program)}
      {machine' : Machine} {running running' : Bool} {passed : List (Exchange Bool)}
      {r : Except Fault Outcome} : step.leads = .ok (some next) → between step.running running →
      Walk scope program between fuel next step.after running steps passed r machine' running' →
      Walk scope program between (fuel + 1) step.position step.before true (step :: steps)
        (step.exchanges ++ passed) r machine' running'

/-- What passes in some steps. -/
def stepped {scope : Scope} {program : Program} (steps : List (Step scope program)) : List (Exchange Bool) :=
  steps.flatMap Step.exchanges

theorem stepped_singleton {scope : Scope} {program : Program} (step : Step scope program) :
    stepped [step] = step.exchanges :=
  List.append_nil _

namespace Walk

variable {scope : Scope} {program : Program} {between : Bool → Bool → Prop} {fuel position : Nat}
  {machine machine' : Machine} {running running' : Bool} {steps : List (Step scope program)}
  {passed : List (Exchange Bool)} {r : Except Fault Outcome}

/-- What passes in the steps of a walk comes first. -/
theorem stepped_prefix
    (walk : Walk scope program between fuel position machine running steps passed r machine' running') :
    stepped steps <+: passed := by
  induction walk with
  | exhausted => exact List.nil_prefix
  | ended found course => exact List.nil_prefix
  | cancelled found => exact List.nil_prefix
  | failed step leads => exact ⟨[], by rw [List.append_nil, stepped_singleton]⟩
  | returned step leads course =>
      rw [stepped_singleton]
      exact List.prefix_append _ _
  | onward step leads flag walk ih => exact (List.prefix_append_right_inj _).mpr ih

/-- A step that fails fails the walk. -/
theorem fails
    (walk : Walk scope program between fuel position machine running steps passed r machine' running')
    {step : Step scope program} (member : step ∈ steps) {fault : Fault}
    (leads : step.leads = .error fault) : r = .error fault := by
  induction walk with
  | exhausted => cases member
  | ended found course => cases member
  | cancelled found => cases member
  | failed first goes =>
      cases List.mem_singleton.mp member
      rw [goes] at leads
      cases leads
      rfl
  | returned first goes course =>
      cases List.mem_singleton.mp member
      rw [goes] at leads
      cases leads
  | onward first goes flag walk ih =>
      rcases List.mem_cons.mp member with rfl | later
      · rw [goes] at leads
        cases leads
      · exact ih later

/-- What follows the first step of a walk. -/
def Goes (fuel : Nat) (step : Step scope program) (rest : List (Step scope program))
    (later : List (Exchange Bool)) (r : Except Fault Outcome) (machine : Machine) (running : Bool) :
    Prop :=
  match step.leads with
  | .error fault =>
    rest = [] ∧ later = [] ∧ r = .error fault ∧ machine = step.after ∧ running = step.running
  | .ok none => rest = [] ∧ ∃ found, (Evaluation.result scope).Course step.after step.running later found
      machine running ∧ r = found.map .completed
  | .ok (some next) => Walk scope program Eq fuel next step.after step.running rest later r machine running

/-- Before an instruction a walk takes a step, if the flag is set. -/
theorem of_found {instruction : Instruction} (found : program[position]? = some instruction)
    (walk : Walk scope program Eq (fuel + 1) position machine true steps passed r machine' running') :
    ∃ step rest later, steps = step :: rest ∧ passed = step.exchanges ++ later ∧
      step.position = position ∧ step.before = machine ∧ Goes fuel step rest later r machine' running' := by
  cases walk with
  | ended ended =>
      rw [ended] at found
      cases found
  | failed step leads =>
      refine ⟨step, [], [], rfl, (List.append_nil _).symm, rfl, rfl, ?_⟩
      unfold Goes
      rw [leads]
      exact ⟨rfl, rfl, rfl, rfl, rfl⟩
  | returned step leads course =>
      refine ⟨step, [], _, rfl, rfl, rfl, rfl, ?_⟩
      unfold Goes
      rw [leads]
      exact ⟨rfl, _, course, rfl⟩
  | onward step leads same walk =>
      refine ⟨step, _, _, rfl, rfl, rfl, rfl, ?_⟩
      unfold Goes
      rw [leads]
      subst same
      exact walk

/-- At the end of the program a walk reads the result. -/
theorem of_none (ended : program[position]? = none)
    (walk : Walk scope program Eq (fuel + 1) position machine running steps passed r machine' running') :
    steps = [] ∧ ∃ found, (Evaluation.result scope).Course machine running passed found machine' running' ∧
      r = found.map .completed := by
  cases walk with
  | ended _ course => exact ⟨rfl, _, course, rfl⟩
  | cancelled found =>
      rw [ended] at found
      cases found
  | failed step _ => cases ended.symm.trans step.found
  | returned step _ _ => cases ended.symm.trans step.found
  | onward step _ _ _ => cases ended.symm.trans step.found

/-- Before an instruction a walk is cancelled, if the flag is cleared. -/
theorem of_cleared {instruction : Instruction} (found : program[position]? = some instruction)
    (walk : Walk scope program Eq (fuel + 1) position machine false steps passed r machine' running') :
    steps = [] ∧ passed = [.told (.log (.stoppedBefore position))] ∧ r = .ok .cancelled ∧
      running' = false := by
  cases walk with
  | ended ended =>
      rw [ended] at found
      cases found
  | cancelled _ => exact ⟨rfl, rfl, rfl, rfl⟩

/-- A walk with steps starts at the first of them. -/
theorem found_of_cons {step : Step scope program} {rest : List (Step scope program)}
    (walk : Walk scope program Eq fuel position machine running (step :: rest) passed r machine' running') :
    program[position]? = some step.instruction := by
  cases walk with
  | failed step _ => exact step.found
  | returned step _ _ => exact step.found
  | onward step _ _ _ => exact step.found

end Walk

namespace Evaluation

variable {scope : Scope} {program : Program} {fuel position : Nat} {machine machine' : Machine}
  {running running' : Bool} {passed : List (Exchange Bool)} {r : Except Fault Outcome}

theorem completed_iff :
    Course (do return Outcome.completed (← result scope)) machine running passed r machine' running' ↔
      ∃ found, (result scope).Course machine running passed found machine' running' ∧
        r = found.map .completed := by
  simp only [bind_iff, pure_iff]
  constructor
  · rintro (⟨fault, course, rfl⟩ | ⟨value, _, _, first, _, course, ⟨rfl, rfl, rfl, rfl⟩, rfl⟩)
    · exact ⟨_, course, rfl⟩
    · exact ⟨_, by simpa using course, rfl⟩
  · rintro ⟨fault | value, course, rfl⟩
    · exact .inl ⟨fault, course, rfl⟩
    · exact .inr ⟨value, machine', running', passed, [], course, ⟨rfl, rfl, rfl, rfl⟩, by simp⟩

/-- What follows a step is its failure, the end of the program, or the loop at the position to which the
step leads. -/
theorem walk_of_follow (step : Step scope program) {flow : Flow} (flows : step.result = .ok flow)
    (course : (follow scope program fuel step.position flow).Course step.after step.running passed r
      machine' running')
    (loops : ∀ {next passed}, (loop scope program fuel next).Course step.after step.running passed r
        machine' running' → ∃ steps, Walk scope program Eq fuel next step.after step.running steps passed r
        machine' running') :
    ∃ steps, Walk scope program Eq (fuel + 1) step.position step.before true steps
      (step.exchanges ++ passed) r machine' running' := by
  cases flow with
  | next =>
      obtain ⟨steps, walk⟩ := loops course
      exact ⟨_, .onward step (Step.leads_of_next flows) rfl walk⟩
  | jump offset =>
      have leads := Step.leads_of_jump flows
      rcases bind_iff.mp course with
        ⟨fault, computed, rfl⟩ | ⟨target, _, _, _, _, computed, goes, rfl⟩
      · obtain ⟨rfl, outside, rfl, rfl⟩ := compute_iff.mp computed
        rw [← outside] at leads
        rw [List.append_nil]
        exact ⟨_, .failed step leads⟩
      · obtain ⟨rfl, inside, rfl, rfl⟩ := compute_iff.mp computed
        rw [← inside] at leads
        obtain ⟨steps, walk⟩ := loops goes
        exact ⟨_, .onward step leads rfl walk⟩
  | «return» =>
      obtain ⟨found, ends, rfl⟩ := completed_iff.mp course
      exact ⟨_, .returned step (Step.leads_of_return flows) ends⟩

theorem loop_course
    (course : (loop scope program fuel position).Course machine running passed r machine' running') :
    ∃ steps, Walk scope program Eq fuel position machine running steps passed r machine' running' := by
  induction fuel generalizing position machine running passed with
  | zero =>
      obtain ⟨rfl, rfl, rfl, rfl⟩ := pure_iff.mp course
      exact ⟨[], .exhausted⟩
  | succ fuel ih =>
      cases found : program[position]? with
      | none =>
          rw [loop_of_none found] at course
          obtain ⟨value, ends, rfl⟩ := completed_iff.mp course
          exact ⟨[], .ended found ends⟩
      | some instruction =>
          rw [loop_of_some found] at course
          have checked := mayRun_bind_iff.mp course
          cases running with
          | false =>
              obtain ⟨later, stopped, rfl⟩ := log_bind_iff.mp checked
              obtain ⟨rfl, rfl, rfl, rfl⟩ := pure_iff.mp stopped
              exact ⟨[], .cancelled found⟩
          | true =>
              obtain ⟨later, goes, rfl⟩ := log_bind_iff.mp checked
              rcases bind_iff.mp goes with
                ⟨fault, executed, rfl⟩ | ⟨flow, after, flag, shared, rest, executed, follows, rfl⟩
              · let step : Step scope program := ⟨_, _, _, _, _, _, _, found, executed⟩
                exact ⟨[step], .failed step rfl⟩
              · let step : Step scope program := ⟨_, _, _, _, _, _, _, found, executed⟩
                exact walk_of_follow step rfl follows ih

end Evaluation

namespace Interpreter

/-- How a run ends after a walk: what it notes, its outcome, and the machine that it leaves. -/
def closing : Except Fault Outcome → Machine → List Note × Outcome × Machine
  | .ok (.completed value), machine => ([], .completed value, machine)
  | .ok .cancelled, _ => ([.report (.warning .interpreter .evaluationCancelled)], .cancelled, {})
  | .ok outcome, _ => ([], outcome, {})
  | .error fault, _ => ([.log (.evaluationFailed fault)], .failed fault, {})

/-- A run that takes given steps: a walk from the first instruction with an empty machine, then the
closing. -/
inductive Ran (interpreter : Interpreter) (between : Bool → Bool → Prop) (fuel : Nat) (frame : Frame)
    (steps : List (Step ⟨frame, interpreter.settings⟩ interpreter.program)) :
    List (Exchange Bool) → Outcome → Interpreter → Prop where
  | intro {walked : List (Exchange Bool)} {r : Except Fault Outcome} {machine : Machine}
      {running : Bool} :
      Walk ⟨frame, interpreter.settings⟩ interpreter.program between fuel 0 {} interpreter.running steps
        walked r machine running →
      Ran interpreter between fuel frame steps (walked ++ (closing r machine).1.map .told)
        (closing r machine).2.1 { interpreter with machine := (closing r machine).2.2, running }

variable {interpreter interpreter' : Interpreter} {fuel : Nat} {target : Target} {frame : Frame}
  {passed : List (Exchange Bool)} {outcome : Outcome} {machine : Machine} {running : Bool}

theorem evaluate_course
    (course : (interpreter.evaluate fuel frame).Course interpreter.running passed (outcome, machine)
      running) :
    ∃ steps walked r machine', Walk ⟨frame, interpreter.settings⟩ interpreter.program Eq fuel 0 {}
        interpreter.running steps walked r machine' running ∧
      passed = walked ++ (closing r machine').1.map .told ∧ (outcome, machine) = (closing r machine').2 := by
  obtain ⟨⟨r, machine'⟩, flag, walked, noted, looped, closes, rfl⟩ :=
    Operation.Course.bind_iff.mp course
  obtain ⟨steps, walk⟩ := Evaluation.loop_course looped
  have closed : noted = (closing r machine').1.map .told ∧
      (outcome, machine) = (closing r machine').2 ∧ running = flag := by
    rcases r with fault | value | _ | fault | _
    · obtain ⟨later, ends, rfl⟩ := Operation.Course.tell_bind_iff.mp closes
      obtain ⟨rfl, same, rfl⟩ := Operation.Course.pure_iff.mp ends
      exact ⟨rfl, same, rfl⟩
    · exact Operation.Course.pure_iff.mp closes
    · obtain ⟨later, ends, rfl⟩ := Operation.Course.tell_bind_iff.mp closes
      obtain ⟨rfl, same, rfl⟩ := Operation.Course.pure_iff.mp ends
      exact ⟨rfl, same, rfl⟩
    · exact Operation.Course.pure_iff.mp closes
    · exact Operation.Course.pure_iff.mp closes
  obtain ⟨rfl, same, rfl⟩ := closed
  exact ⟨steps, walked, r, machine', walk, rfl, same⟩

/-- A target that is gone refuses. -/
theorem run_refused (gone : target.isTerminated = true)
    (course : (interpreter.run fuel target frame).Course passed (outcome, interpreter')) :
    passed = [] ∧ outcome = .failed .targetTerminated ∧ interpreter' = interpreter := by
  rw [run_of_gone gone] at course
  obtain ⟨rfl, same⟩ := Dialogue.Course.done_iff.mp course
  cases same
  exact ⟨rfl, rfl, rfl⟩

theorem run_course (alive : target.isTerminated = false)
    (course : (interpreter.run fuel target frame).Course passed (outcome, interpreter')) :
    ∃ steps, interpreter.Ran Eq fuel frame steps passed outcome interpreter' := by
  rw [run, alive] at course
  obtain ⟨⟨⟨ended, machine⟩, running⟩, first, second, evaluated, done, rfl⟩ :=
    Dialogue.Course.bind_iff.mp course
  obtain ⟨rfl, same⟩ := Dialogue.Course.done_iff.mp done
  cases same
  obtain ⟨steps, walked, r, machine', walk, rfl, same⟩ := evaluate_course evaluated
  have ran := Ran.intro walk
  rw [← same] at ran
  rw [List.append_nil]
  exact ⟨steps, ran⟩

end Interpreter

/-- Surroundings that answer calls and leave the flag alone. -/
def answering (answer : (c : Call) → Except RemoteFailure c.Answer) (request : Request) (running : Bool) :
    request.Reply × Bool :=
  match request with
  | .call c => (answer c, running)
  | .hook _ => (.done, running)
  | .listen .. => (.panicked, running)
  | .read _ => ((), running)

end RemoteDebug
