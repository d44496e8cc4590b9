import RemoteDebug.Proofs.Effect
import RemoteDebug.Proofs.Walk

/-!
Programs of balanced depth.

A depth for every position of a program can be checked against the documented effects of its
instructions, one instruction at a time. `Program.Balanced` is that check, `Interpreter.runs_in_balance`
what it is good for: in no run the stack is too short or a jump leads out of the program, and the stack
is always as deep as the position says.

The invariant of a walk is that the stack has the depth of the position, and that the position is one of
the program or its end. `Step.keeps` carries it over one instruction.
-/

namespace RemoteDebug

/-- Where control goes after an instruction at a position; it goes nowhere after a return. -/
def Flow.destination (position : Nat) : Flow → Option Int
  | .next => some (position + 1)
  | .jump offset => some (position + 1 + offset.toInt)
  | .return => none

/-- What a depth for every position has to satisfy at an instruction of a program of some length. -/
structure Instruction.Balanced (instruction : Instruction) (depth : Nat → Nat) (length position : Nat) :
    Prop where
  /-- There are as many entries as the instruction takes. -/
  enough : instruction.consumes ≤ depth position
  /-- Control stays inside the program or comes to its end. -/
  inside : ∀ flow ∈ instruction.flows, ∀ target ∈ flow.destination position,
    0 ≤ target ∧ target ≤ length
  /-- The depth changes by the effect of the instruction. -/
  effect : ∀ flow ∈ instruction.flows, ∀ target ∈ flow.destination position,
    depth (Int.toNat target) + instruction.consumes = depth position + instruction.produces

/-- A depth for every position of a program, its end included, that agrees with the instructions. -/
structure Program.Balanced (program : Program) (depth : Nat → Nat) : Prop where
  start : depth 0 = 0
  each : ∀ position (instruction : Instruction), program[position]? = some instruction →
    instruction.Balanced depth program.length position

instance (instruction : Instruction) (depth : Nat → Nat) (length position : Nat) :
    Decidable (instruction.Balanced depth length position) :=
  decidable_of_iff
    (instruction.consumes ≤ depth position ∧
      (∀ flow ∈ instruction.flows, ∀ target ∈ flow.destination position,
        0 ≤ target ∧ target ≤ length) ∧
      ∀ flow ∈ instruction.flows, ∀ target ∈ flow.destination position,
        depth (Int.toNat target) + instruction.consumes = depth position + instruction.produces)
    ⟨fun ⟨enough, inside, effect⟩ => ⟨enough, inside, effect⟩,
      fun ⟨enough, inside, effect⟩ => ⟨enough, inside, effect⟩⟩

instance (program : Program) (depth : Nat → Nat) : Decidable (Program.Balanced program depth) :=
  decidable_of_iff
    (depth 0 = 0 ∧ ∀ position (h : position < program.length),
      program[position].Balanced depth program.length position)
    ⟨fun ⟨start, each⟩ => ⟨start, fun position _ found =>
        let ⟨h, same⟩ := List.getElem?_eq_some_iff.mp found
        same ▸ each position h⟩,
      fun ⟨start, each⟩ => ⟨start, fun position h => each position _ (List.getElem?_eq_getElem h)⟩⟩

/-- A jump inside a program goes where its offset says. -/
theorem jumpTarget_of_inside {position length : Nat} {offset : Int64} (within : position < length)
    (addressable : (length : Int) ≤ lastPosition)
    (inside : 0 ≤ position + 1 + offset.toInt ∧ position + 1 + offset.toInt ≤ length) :
    jumpTarget position offset length = .ok (position + 1 + offset.toInt).toNat := by
  have following : min (position + 1 : Int) lastPosition = position + 1 := by omega
  have reached : min (position + 1 + offset.toInt) lastPosition = position + 1 + offset.toInt := by
    omega
  unfold jumpTarget
  dsimp only
  rw [following, reached, if_neg (by omega)]

section Walks

variable {scope : Scope} {program : Program} {depth : Nat → Nat}

/-- The depth after an instruction, which gives room for what follows it. -/
theorem Evaluation.depth_after {instruction : Instruction} {m m' : Machine} {s t : Bool}
    {passed : List (Exchange Bool)} {flow : Flow}
    (course : (execute scope instruction).Course m s passed (.ok flow) m' t)
    (enough : instruction.consumes ≤ m.depth) :
    flow ∈ instruction.flows ∧ m'.depth + instruction.consumes = m.depth + instruction.produces := by
  obtain ⟨flows, pushed, length, stack⟩ :=
    execute_trades scope instruction _ _ _ _ _ _ course enough
  refine ⟨flows, ?_⟩
  rw [Machine.depth, stack, List.length_append, List.length_drop, length]
  unfold Machine.depth at enough ⊢
  omega

theorem Instruction.eq_return_of_flows {instruction : Instruction}
    (returns : .return ∈ instruction.flows) : instruction = .return := by
  cases instruction with
  | «return» => rfl
  | conditionalJump offset jumpOn =>
      rcases List.mem_cons.mp returns with same | later
      · cases same
      · cases List.mem_singleton.mp later
  | _ => cases List.mem_singleton.mp returns

/-- From the depth of its position a step leads to the depth of the next position. -/
theorem Step.keeps (balanced : Program.Balanced program depth)
    (addressable : (program.length : Int) ≤ lastPosition) (step : Step scope program)
    (deep : step.before.depth = depth step.position) :
    match step.leads with
    | .ok (some next) => step.after.depth = depth next ∧ next ≤ program.length
    | .ok none => step.instruction = .return
    | .error fault => fault.derails = false := by
  obtain ⟨enough, inside, effect⟩ := balanced.each _ _ step.found
  have within : step.position < program.length := (List.getElem?_eq_some_iff.mp step.found).1
  rw [← deep] at enough effect
  have course := step.course
  cases result : step.result with
  | error fault =>
      rw [result] at course
      rw [Step.leads_of_fault result]
      exact Evaluation.execute_trades scope step.instruction _ _ _ _ _ _ course enough
  | ok flow =>
      rw [result] at course
      obtain ⟨flows, changed⟩ := Evaluation.depth_after course enough
      cases flow with
      | next =>
          have landed : depth (step.position + 1) + _ = _ := effect _ flows (step.position + 1) rfl
          rw [Step.leads_of_next result]
          refine ⟨?_, within⟩
          omega
      | jump offset =>
          have goes : step.position + 1 + offset.toInt ∈ (Flow.jump offset).destination step.position :=
            rfl
          have landed := effect _ flows _ goes
          have stays := inside _ flows _ goes
          have leads : step.leads = .ok (some (step.position + 1 + offset.toInt).toNat) := by
            rw [Step.leads_of_jump result, jumpTarget_of_inside within addressable stays]
            rfl
          rw [leads]
          refine ⟨?_, Int.toNat_le.mpr stays.2⟩
          omega
      | «return» =>
          rw [Step.leads_of_return result]
          exact Instruction.eq_return_of_flows flows

/-- What the balance of depths promises of the steps, the outcome and the last machine of a walk. -/
structure InBalance (depth : Nat → Nat) (steps : List (Step scope program)) (outcome : Outcome)
    (machine : Machine) : Prop where
  /-- Before every instruction the stack has the depth of the position. -/
  before : ∀ step ∈ steps, step.before.depth = depth step.position
  /-- The stack is never too short, and no jump leads out of the program. -/
  orderly : ∀ fault, outcome = .failed fault → fault.derails = false
  /-- A walk to the end of the program leaves the depth of the end. -/
  atEnd : ∀ value, outcome = .completed value → (∀ step ∈ steps, step.instruction ≠ .return) →
    machine.depth = depth program.length

namespace InBalance

variable {machine machine' : Machine} {running running' : Bool} {passed : List (Exchange Bool)}

theorem of_completed {steps : List (Step scope program)} {value : Option Value}
    (before : ∀ step ∈ steps, step.before.depth = depth step.position)
    (atEnd : (∀ step ∈ steps, step.instruction ≠ .return) → machine.depth = depth program.length) :
    InBalance depth steps (.completed value) machine where
  before := before
  orderly _ impossible := nomatch impossible
  atEnd _ _ := atEnd

theorem of_failed {steps : List (Step scope program)} {fault : Fault}
    (before : ∀ step ∈ steps, step.before.depth = depth step.position)
    (orderly : fault.derails = false) : InBalance depth steps (.failed fault) machine where
  before := before
  orderly := by
    rintro _ ⟨⟩
    exact orderly
  atEnd _ impossible := nomatch impossible

/-- A walk without steps that is cut before the end. -/
theorem of_cut {outcome : Outcome} (cut : outcome = .exhausted ∨ outcome = .cancelled) :
    InBalance depth ([] : List (Step scope program)) outcome machine := by
  refine ⟨List.forall_mem_nil _, fun _ failed => ?_, fun _ completed => ?_⟩
  · rcases cut with rfl | rfl <;> cases failed
  · rcases cut with rfl | rfl <;> cases completed

/-- Reading the result is in balance where the program was. -/
theorem of_result {steps : List (Step scope program)} {r : Except Fault (Option Value)}
    (course : (Evaluation.result scope).Course machine running passed r machine' running')
    (before : ∀ step ∈ steps, step.before.depth = depth step.position)
    (atEnd : (∀ step ∈ steps, step.instruction ≠ .return) → machine.depth = depth program.length) :
    InBalance depth steps (Interpreter.closing (r.map .completed) machine').2.1
      (Interpreter.closing (r.map .completed) machine').2.2 := by
  have read := Evaluation.result_trades scope _ _ _ _ _ _ course (Nat.zero_le _)
  cases r with
  | error fault => exact of_failed before read
  | ok value =>
      obtain ⟨-, pushed, length, stack⟩ := read
      refine of_completed before fun through => ?_
      have same : machine'.stack = machine.stack := by
        rw [stack, List.eq_nil_of_length_eq_zero length]
        rfl
      change machine'.stack.length = _
      rw [same]
      exact atEnd through

end InBalance

/-- A walk that starts in balance stays in balance. -/
theorem Walk.inBalance (balanced : Program.Balanced program depth)
    (addressable : (program.length : Int) ≤ lastPosition) {between : Bool → Bool → Prop}
    {fuel position : Nat} {machine machine' : Machine} {running running' : Bool}
    {steps : List (Step scope program)} {passed : List (Exchange Bool)} {r : Except Fault Outcome}
    (walk : Walk scope program between fuel position machine running steps passed r machine' running')
    (deep : machine.depth = depth position) (within : position ≤ program.length) :
    InBalance depth steps (Interpreter.closing r machine').2.1
      (Interpreter.closing r machine').2.2 := by
  induction walk with
  | exhausted => exact .of_cut (.inl rfl)
  | ended found course =>
      refine .of_result course (List.forall_mem_nil _) fun _ => ?_
      rw [deep, Nat.le_antisymm within (List.getElem?_eq_none_iff.mp found)]
  | cancelled => exact .of_cut (.inr rfl)
  | failed step leads =>
      have kept := step.keeps balanced addressable deep
      rw [leads] at kept
      exact .of_failed (List.forall_mem_singleton.mpr deep) kept
  | returned step leads course =>
      have kept := step.keeps balanced addressable deep
      rw [leads] at kept
      refine .of_result course (List.forall_mem_singleton.mpr deep) fun through => ?_
      exact absurd kept (through step List.mem_cons_self)
  | onward step leads flag walk ih =>
      have kept := step.keeps balanced addressable deep
      rw [leads] at kept
      obtain ⟨before, orderly, atEnd⟩ := ih kept.1 kept.2
      refine ⟨?_, orderly, ?_⟩
      · rintro other (_ | ⟨_, later⟩)
        · exact deep
        · exact before other later
      · intro value completed through
        exact atEnd value completed fun other later => through other (List.mem_cons_of_mem _ later)

end Walks

namespace Interpreter

variable {interpreter interpreter' : Interpreter} {depth : Nat → Nat} {fuel : Nat} {frame : Frame}

theorem Ran.inBalance (balanced : Program.Balanced interpreter.program depth)
    (addressable : (interpreter.program.length : Int) ≤ lastPosition) {between : Bool → Bool → Prop}
    {steps : List (Step ⟨frame, interpreter.settings⟩ interpreter.program)}
    {passed : List (Exchange Bool)} {outcome : Outcome}
    (ran : interpreter.Ran between fuel frame steps passed outcome interpreter') :
    InBalance depth steps outcome interpreter'.machine := by
  obtain ⟨walk⟩ := ran
  exact walk.inBalance balanced addressable balanced.start.symm (Nat.zero_le _)

/-- Runs of a balanced program are in balance, whatever the target answers. This holds as well of runs
in which others change the flag between two instructions. A program in memory is addressable: its
positions are words of the machine. -/
theorem runs_in_balance (balanced : Program.Balanced interpreter.program depth)
    (addressable : (interpreter.program.length : Int) ≤ lastPosition) (fuel : Nat) (target : Target)
    (frame : Frame) :
    (∀ passed outcome interpreter',
      (interpreter.run fuel target frame).Course passed (outcome, interpreter') →
      (∀ fault, outcome = .failed fault → fault.derails = false) ∧
      (target.isTerminated = false →
        ∃ steps, interpreter.Ran Eq fuel frame steps passed outcome interpreter' ∧
          InBalance depth steps outcome interpreter'.machine)) ∧
    ∀ between steps passed outcome interpreter',
      interpreter.Ran between fuel frame steps passed outcome interpreter' →
      InBalance depth steps outcome interpreter'.machine := by
  constructor
  · intro passed outcome interpreter' course
    by_cases gone : target.isTerminated = true
    · rw [run, if_pos gone] at course
      obtain ⟨-, same⟩ := Dialogue.Course.done_iff.mp course
      cases same
      refine ⟨?_, fun alive => ?_⟩
      · rintro _ ⟨⟩
        rfl
      · rw [gone] at alive
        cases alive
    · have alive : target.isTerminated = false := by simpa using gone
      obtain ⟨steps, ran⟩ := run_course alive course
      have kept := ran.inBalance balanced addressable
      exact ⟨kept.orderly, fun _ => ⟨steps, ran, kept⟩⟩
  · intro between steps passed outcome interpreter' ran
    exact ran.inBalance balanced addressable

end Interpreter

namespace Balanced.Sample

/-- A loop that counts an internal variable up to three. -/
def counting : Interpreter where
  program := [.createInternal "i" "int", .pushInternal "i", .pushLiteral (.int 1),
    .compoundAssign .add, .pushLiteral (.int 3), .binary .less, .conditionalJump (-6) true,
    .pushInternal "i"]

/-- The depths before the instructions of the loop and at its end. -/
def depths (position : Nat) : Nat := [0, 0, 1, 2, 1, 2, 1, 0, 1].getD position 0

/-- Surroundings that fail every call; the loop asks for nothing. -/
def silent (request : Request) (running : Bool) : request.Reply × Bool :=
  match request with
  | .call _ => (.error .disconnected, running)
  | .hook _ => (.done, running)
  | .listen .. => (.panicked, running)
  | .read _ => ((), running)

end Balanced.Sample

open Balanced.Sample in
theorem Interpreter.runs_in_balance_counting :
    ∃ passed interpreter', (counting.run 30 { name := "sample" } ⟨⟨1⟩, 0⟩).Course passed
        (.completed (some (.int 3)), interpreter') ∧
      interpreter'.depth = depths 8 := by
  have completes : ((counting.run 30 { name := "sample" } ⟨⟨1⟩, 0⟩).follow silent).2.1 =
      .completed (some (.int 3)) := by
    decide +kernel
  have balanced : Program.Balanced counting.program depths := by
    decide
  obtain ⟨passed, interpreter', course⟩ := Dialogue.exists_course_of_follow completes
  obtain ⟨-, balances⟩ := (runs_in_balance balanced (by decide) 30 _ _).1 _ _ _ course
  obtain ⟨steps, ran, kept⟩ := balances rfl
  refine ⟨passed, interpreter', course, kept.atEnd _ rfl fun step member returns => ?_⟩
  have found := List.mem_of_getElem? step.found
  rw [returns] at found
  exact absurd found (by decide)

end RemoteDebug
