import RemoteDebug.Proofs.Facade
import RemoteDebug.Proofs.History

/-!
Cancellation.

A request to stop cuts a run at the boundary of an instruction. Two runs are compared that meet the same
facade. In one of them nobody clears the flag, in the other it is cleared while a call of some instruction
waits for its reply.

* `Step.alike`: the instruction under way goes on as if nothing had happened,
* `Walk.Goes.cut` compares what follows at its boundary,
* `Walk.cut` compares the two walks, instruction after instruction,
* `Interpreter.cut_at_boundary` compares the two runs. After a request to stop no later run takes a step.
-/

namespace RemoteDebug

/-! ### Returns -/

namespace Evaluation

/-- Whatever the evaluation gives is as described. -/
def Gives {α : Type} (x : Evaluation α) (gives : α → Prop) : Prop :=
  ∀ m s passed a m' t, x.Course m s passed (.ok a) m' t → gives a

namespace Gives

variable {α β : Type} {gives : β → Prop}

theorem pure {b : β} (given : gives b) : Gives (Pure.pure b) gives := by
  intro m s passed c m' t course
  cases (pure_iff.mp course).2.1
  exact given

/-- Only the end of an evaluation matters. -/
theorem bind {x : Evaluation α} {f : α → Evaluation β} (rest : ∀ a, Gives (f a) gives) :
    Gives (x >>= f) gives := by
  intro m s passed b m' t course
  rcases bind_iff.mp course with ⟨fault, -, impossible⟩ | ⟨a, _, _, _, _, -, tail, -⟩
  · cases impossible
  · exact rest a _ _ _ _ _ _ tail

end Gives

/-- No other instruction does what a return does. -/
theorem execute_gives (scope : Scope) {instruction : Instruction} (other : instruction ≠ .return) :
    Gives (execute scope instruction) (· ≠ .return) := by
  cases instruction with
  | pushLiteral literal =>
      cases literal with
      | string text => exact .bind fun _ => .bind fun _ => .pure nofun
      | _ => exact .bind fun _ => .pure nofun
  | pushInternal name =>
      refine .bind fun m => ?_
      dsimp only
      split
      · exact .bind fun _ => .bind fun _ => .pure nofun
      · exact .bind fun _ => .pure nofun
  | dup =>
      refine .bind fun m => ?_
      split <;> exact .bind fun _ => .pure nofun
  | conditionalJump offset jumpOn =>
      refine .bind fun _ => .bind fun condition => .pure ?_
      split <;> nofun
  | «return» => exact absurd rfl other
  | noOp | jump _ => exact .pure nofun
  | pushNull | pushLocal _ | createInternal _ _ | assign | compoundAssign _ =>
      exact .bind fun _ => .pure nofun
  | pushThis | pushClassObject _ | pushField _ | pushStatic _ _ | pop =>
      exact .bind fun _ => .bind fun _ => .pure nofun
  | arrayLength | unary _ | cast _ | instanceOf _ =>
      exact .bind fun _ => .bind fun _ => .bind fun _ => .pure nofun
  | arrayAccess | newArray _ | binary _ | send _ _ _ _ | sendStatic _ _ _ _ | newObject _ _ _ =>
      exact .bind fun _ => .bind fun _ => .bind fun _ => .bind fun _ => .pure nofun

end Evaluation

theorem Step.leads_eq_none_iff {scope : Scope} {program : Program} {step : Step scope program} :
    step.leads = .ok none ↔ step.instruction = .return := by
  have course := step.course
  constructor
  · intro leads
    rcases flows : step.result with fault | _ | offset | _
    · rw [Step.leads_of_fault flows] at leads
      cases leads
    · rw [Step.leads_of_next flows] at leads
      cases leads
    · rw [Step.leads_of_jump flows] at leads
      cases jumps : jumpTarget step.position offset program.length <;> rw [jumps] at leads <;> cases leads
    · rw [flows] at course
      by_cases returns : step.instruction = .return
      · exact returns
      · exact absurd rfl (Evaluation.execute_gives scope returns _ _ _ _ _ _ course)
  · intro returns
    rw [returns] at course
    exact Step.leads_of_return (Evaluation.pure_iff.mp course).2.1

/-! ### Walks -/

section Walks

variable {scope : Scope} {program : Program}

/-- Two executed instructions that differ in nothing but the flag. -/
structure Step.Alike (step step' : Step scope program) : Prop where
  position : step'.position = step.position
  instruction : step'.instruction = step.instruction
  before : step'.before = step.before
  outward : outward step'.exchanges = outward step.exchanges
  result : step'.result = step.result
  after : step'.after = step.after

theorem Step.Alike.leads {step step' : Step scope program} (alike : step.Alike step') :
    step'.leads = step.leads := by
  unfold Step.leads
  rw [alike.result, alike.position]

section Facades

variable {facade : Facade} {clears : Nat → Bool} {prior : List (Exchange Unit)}

/-- A step goes the same way when the flag is cleared meanwhile. -/
theorem Step.alike {step step' : Step scope program} (position : step'.position = step.position)
    (before : step'.before = step.before) (meets : Meets facade undisturbed prior step.exchanges)
    (meets' : Meets facade clears prior step'.exchanges) :
    step.Alike step' ∧ step.running = true ∧ Carries id true step'.passed step'.running := by
  obtain ⟨position, instruction, machine, passed, result, after, running, found, course⟩ := step
  obtain ⟨_, instruction', _, passed', result', after', running', found', course'⟩ := step'
  cases position
  cases before
  cases Option.some.inj (found.symm.trans found')
  have heedless := (Evaluation.execute_composed scope instruction).heedless machine
  obtain ⟨carries, keeps⟩ := heedless _ _ _ _ course'
  obtain ⟨same, ends⟩ := Dialogue.Course.settled course keeps meets meets'.keep
  cases ends
  subst same
  refine ⟨⟨rfl, rfl, rfl, ?_, rfl, rfl⟩, rfl, carries⟩
  exact congrArg (_ :: ·) (outward_kept passed').symm

/-- A step is settled by what it meets. -/
theorem Step.eq_of_meets {step step' : Step scope program} (position : step'.position = step.position)
    (before : step'.before = step.before) (meets : Meets facade clears prior step.exchanges)
    (meets' : Meets facade clears prior step'.exchanges) : step' = step := by
  obtain ⟨position, instruction, machine, passed, result, after, running, found, course⟩ := step
  obtain ⟨_, instruction', _, passed', result', after', running', found', course'⟩ := step'
  cases position
  cases before
  cases Option.some.inj (found.symm.trans found')
  obtain ⟨rfl, ends⟩ := Dialogue.Course.settled course course' meets meets'
  cases ends
  rfl

end Facades

section Cut

variable {facade : Facade} {clears : Nat → Bool} {prior : List (Exchange Unit)}

/-- The result of a program is read in the same way when the flag is cleared. -/
theorem Evaluation.result_alike {machine last last' : Machine} {passed passed' : List (Exchange Bool)}
    {found found' : Except Fault (Option Value)} {s t t' : Bool}
    (course : (result scope).Course machine true passed found last t)
    (course' : (result scope).Course machine s passed' found' last' t')
    (meets : Meets facade undisturbed prior passed) (meets' : Meets facade clears prior passed') :
    found' = found ∧ last' = last ∧ outward passed' = outward passed ∧ Carries id s passed' t' := by
  obtain ⟨carries, keeps⟩ := (result_spares scope).heedless machine _ _ _ _ course'
  obtain ⟨rfl, ends⟩ := Dialogue.Course.settled course keeps meets meets'.keep
  cases ends
  exact ⟨rfl, rfl, (outward_kept passed').symm, carries⟩

/-- The boundary after a step in which the flag is cleared. Where the other walk goes on with an instruction
this one is cancelled, elsewhere it ends as the other one. -/
theorem Walk.Goes.cut {fuel : Nat} {step step' : Step scope program}
    {rest rest' : List (Step scope program)} {tail tail' : List (Exchange Bool)}
    {r r' : Except Fault Outcome} {last last' : Machine} {running running' : Bool}
    (goes : Goes (fuel + 1) step rest tail r last running)
    (goes' : Goes (fuel + 1) step' rest' tail' r' last' running')
    (alike : step.Alike step') (set : step.running = true) (cleared : step'.running = false)
    (meets : Meets facade undisturbed prior tail) (meets' : Meets facade clears prior tail') :
    rest' = [] ∧ running' = false ∧
      (∀ next, step.leads = .ok (some next) → next < program.length →
        r' = .ok .cancelled ∧ tail' = [.told (.log (.stoppedBefore next))]) ∧
      ((∀ next, step.leads = .ok (some next) → program.length ≤ next) →
        r' = r ∧ last' = last ∧ outward tail' = outward tail) := by
  unfold Goes at goes goes'
  rw [alike.leads, alike.after, cleared] at goes'
  rw [set] at goes
  rcases leads : step.leads with fault | _ | next
  · rw [leads] at goes goes'
    obtain ⟨rfl, rfl, rfl, rfl, rfl⟩ := goes
    obtain ⟨rfl, rfl, rfl, rfl, rfl⟩ := goes'
    exact ⟨rfl, rfl, nofun, fun _ => ⟨rfl, rfl, rfl⟩⟩
  · rw [leads] at goes goes'
    obtain ⟨rfl, found, course, rfl⟩ := goes
    obtain ⟨rfl, found', course', rfl⟩ := goes'
    obtain ⟨rfl, rfl, looks, carries⟩ := Evaluation.result_alike course course' meets meets'
    exact ⟨rfl, meets'.stays_cleared carries, nofun, fun _ => ⟨rfl, rfl, looks⟩⟩
  · rw [leads] at goes goes'
    cases onward : program[next]? with
    | none =>
        obtain ⟨rfl, found, course, rfl⟩ := goes.of_none onward
        obtain ⟨rfl, found', course', rfl⟩ := goes'.of_none onward
        obtain ⟨rfl, rfl, looks, carries⟩ := Evaluation.result_alike course course' meets meets'
        refine ⟨rfl, meets'.stays_cleared carries, ?_, fun _ => ⟨rfl, rfl, looks⟩⟩
        intro next' same inside
        cases same
        exact absurd inside (Nat.not_lt.mpr (List.getElem?_eq_none_iff.mp onward))
    | some instruction =>
        obtain ⟨rfl, rfl, rfl, rfl⟩ := goes'.of_cleared onward
        have inside : next < program.length := (List.getElem?_eq_some_iff.mp onward).1
        refine ⟨rfl, rfl, ?_, fun beyond => absurd inside (Nat.not_lt.mpr (beyond next rfl))⟩
        intro next' same _
        cases same
        exact ⟨rfl, rfl⟩

/-- A walk that is stopped in a step goes as far as the end of the step. -/
theorem Walk.cut_nil {fuel position : Nat} {machine last last' : Machine} {running running' : Bool}
    {step : Step scope program} {later steps' : List (Step scope program)}
    {before after passed passed' : List (Exchange Bool)} {r r' : Except Fault Outcome} {q : Request}
    {s t : Bool} {reply : q.Reply}
    (walk : Walk scope program Eq (fuel + 2) position machine true (step :: later) passed r last running)
    (walk' : Walk scope program Eq (fuel + 2) position machine true steps' passed' r' last' running')
    (meets : Meets facade undisturbed prior passed)
    (inside : step.exchanges = before ++ .asked q s reply t :: after)
    (meets' : Meets facade (stopAt (prior.length + before.length)) prior passed') :
    ∃ step', step.Alike step' ∧ steps' = [step'] ∧ running' = false ∧
      (∀ next, step.leads = .ok (some next) → next < program.length → r' = .ok .cancelled ∧
        passed' = step'.exchanges ++ [.told (.log (.stoppedBefore next))]) ∧
      ((∀ next, step.leads = .ok (some next) → program.length ≤ next) → r' = r ∧ last' = last ∧
        outward passed' = outward passed) := by
  have found := walk.found_of_cons
  obtain ⟨_, rest, tail, same, rfl, rfl, rfl, goes⟩ := walk.of_found found
  cases same
  obtain ⟨step', rest', tail', rfl, rfl, position, begins, goes'⟩ := walk'.of_found found
  obtain ⟨meets, meetsTail⟩ := Meets.append_iff.mp meets
  obtain ⟨meets', meetsTail'⟩ := Meets.append_iff.mp meets'
  obtain ⟨alike, set, carries⟩ := Step.alike position begins meets meets'
  rw [alike.outward] at meetsTail'
  have cleared : step'.running = false := by
    have looks := alike.outward
    rw [inside] at looks
    obtain ⟨before', s', t', after', split, length⟩ := split_of_outward looks
    have carries : Carries id true step'.exchanges step'.running := carries
    rw [split, ← length] at meets'
    rw [split] at carries
    exact meets'.cleared carries
  obtain ⟨rfl, rfl, cancels, ends⟩ := goes.cut goes' alike set cleared meetsTail meetsTail'
  refine ⟨step', alike, rfl, rfl, ?_, ?_⟩
  · intro next leads inside
    obtain ⟨rfl, rfl⟩ := cancels next leads inside
    exact ⟨rfl, rfl⟩
  · intro beyond
    obtain ⟨rfl, rfl, looks⟩ := ends beyond
    refine ⟨rfl, rfl, ?_⟩
    rw [outward_append, outward_append, alike.outward, looks]

/-- A walk that is stopped in some step takes the same steps up to this one. Where the other walk goes on
with an instruction it is cancelled, elsewhere it ends as the other one. -/
theorem Walk.cut {fuel position : Nat} {machine last last' : Machine} {running running' : Bool}
    {earlier : List (Step scope program)} {step : Step scope program}
    {later steps' : List (Step scope program)} {before after passed passed' : List (Exchange Bool)}
    {r r' : Except Fault Outcome} {q : Request} {s t : Bool} {reply : q.Reply}
    (walk : Walk scope program Eq fuel position machine true (earlier ++ step :: later) passed r last
      running)
    (walk' : Walk scope program Eq fuel position machine true steps' passed' r' last' running')
    (enough : earlier.length + 1 < fuel) (meets : Meets facade undisturbed prior passed)
    (inside : step.exchanges = before ++ .asked q s reply t :: after)
    (meets' : Meets facade (stopAt (prior.length + (stepped earlier ++ before).length)) prior passed') :
    ∃ step', step.Alike step' ∧ steps' = earlier ++ [step'] ∧ running' = false ∧
      (∀ next, step.leads = .ok (some next) → next < program.length → r' = .ok .cancelled ∧
        passed' = stepped earlier ++ step'.exchanges ++ [.told (.log (.stoppedBefore next))]) ∧
      ((∀ next, step.leads = .ok (some next) → program.length ≤ next) → r' = r ∧ last' = last ∧
        outward passed' = outward passed) := by
  induction earlier generalizing fuel position machine prior steps' passed passed' with
  | nil =>
      obtain ⟨fuel, rfl⟩ := Nat.exists_eq_add_of_le' (Nat.succ_le_of_lt enough)
      exact walk.cut_nil walk' meets inside meets'
  | cons first earlier ih =>
      obtain ⟨fuel, rfl⟩ := Nat.exists_eq_succ_of_ne_zero (Nat.ne_zero_of_lt enough)
      have found := walk.found_of_cons
      obtain ⟨_, rest, tail, same, rfl, rfl, rfl, goes⟩ := walk.of_found found
      cases same
      obtain ⟨step', rest', tail', rfl, rfl, position, begins, goes'⟩ := walk'.of_found found
      obtain ⟨meets, meetsTail⟩ := Meets.append_iff.mp meets
      obtain ⟨meets', meetsTail'⟩ := Meets.append_iff.mp meets'
      -- The first step is over before the flag is cleared.
      have steps : stepped (first :: earlier) = first.exchanges ++ stepped earlier := rfl
      have undisturbedYet : Meets facade (stopAt (prior.length +
          (stepped (first :: earlier) ++ before).length)) prior first.exchanges := by
        refine meets.congr fun n low high => ?_
        rw [steps, List.length_append, List.length_append]
        simp only [undisturbed, stopAt]
        rw [eq_comm, beq_eq_false_iff_ne]
        omega
      obtain rfl := Step.eq_of_meets position begins undisturbedYet meets'
      have set : step'.running = true := (Step.alike rfl rfl meets meets).2.1
      have place : prior.length + (stepped (step' :: earlier) ++ before).length =
          (prior ++ outward step'.exchanges).length + (stepped earlier ++ before).length := by
        simp [steps, outward, Nat.add_assoc]
      rw [place] at meetsTail'
      unfold Goes at goes goes'
      rw [set] at goes goes'
      rcases leads : step'.leads with fault | _ | next
      · rw [leads] at goes
        cases (List.append_eq_nil_iff.mp goes.1).2
      · rw [leads] at goes
        cases (List.append_eq_nil_iff.mp goes.1).2
      · rw [leads] at goes goes'
        obtain ⟨last, alike, rfl, cleared, cancels, ends⟩ :=
          ih goes goes' (Nat.lt_of_succ_lt_succ enough) meetsTail meetsTail'
        refine ⟨last, alike, rfl, cleared, ?_, ?_⟩
        · intro next' onward inside
          obtain ⟨rfl, rfl⟩ := cancels next' onward inside
          refine ⟨rfl, ?_⟩
          rw [steps, List.append_assoc, List.append_assoc, List.append_assoc]
        · intro beyond
          obtain ⟨rfl, rfl, looks⟩ := ends beyond
          refine ⟨rfl, rfl, ?_⟩
          rw [outward_append, outward_append, looks]

end Cut

end Walks

/-! ### Runs -/

namespace Interpreter

variable {interpreter : Interpreter} {fuel : Nat} {frame : Frame}

/-- What is known of a run that is stopped in a step, after some earlier steps, beside the run that nobody
stops. Of either run there are the exchanges, the outcome and the interpreter that it leaves. -/
structure CutBehind (interpreter : Interpreter) (fuel : Nat) (frame : Frame)
    (earlier : List (Step ⟨frame, interpreter.settings⟩ interpreter.program))
    (step : Step ⟨frame, interpreter.settings⟩ interpreter.program)
    (passed : List (Exchange Bool)) (outcome : Outcome) (left : Interpreter)
    (passed' : List (Exchange Bool)) (outcome' : Outcome) (left' : Interpreter) : Prop where
  /-- The same instructions are executed up to the step and not beyond it, with the same calls. -/
  same : ∃ step', step.Alike step' ∧
    interpreter.Ran Eq fuel frame (earlier ++ [step']) passed' outcome' left' ∧
    outward (stepped earlier ++ step.exchanges) <+: outward passed'
  /-- The failure of the step is the failure of the run. -/
  failed : ∀ fault, step.leads = .error fault → outcome' = .failed fault
  /-- A step fails, it is a return, or it leads to a position. -/
  ways : (∃ fault, step.leads = .error fault) ∨ step.instruction = .return ∨
    ∃ next, step.leads = .ok (some next)
  /-- A run that is over after the step ends as if nobody had stopped it. -/
  finished : (∃ fault, step.leads = .error fault) ∨ step.instruction = .return ∨
      (∃ next, step.leads = .ok (some next) ∧ interpreter.program.length ≤ next) →
    outcome' = outcome ∧ left' = { left with running := false } ∧ outward passed' = outward passed
  /-- Any other run is cancelled, and only remarks follow the step. -/
  cancelled : ∀ next, step.leads = .ok (some next) → next < interpreter.program.length →
    outcome' = .cancelled ∧ left' = { interpreter with machine := {}, running := false } ∧
      outward passed' = outward (stepped earlier ++ step.exchanges) ++
        [.told (.log (.stoppedBefore next)), .told (.report (.warning .interpreter .evaluationCancelled))]
  /-- The request holds for later runs. -/
  cleared : left'.running = false

theorem Ran.cut {facade : Facade} {passed passed' : List (Exchange Bool)} {outcome outcome' : Outcome}
    {left left' : Interpreter}
    {earlier later steps' : List (Step ⟨frame, interpreter.settings⟩ interpreter.program)}
    {step : Step ⟨frame, interpreter.settings⟩ interpreter.program} {before after : List (Exchange Bool)}
    {q : Request} {s t : Bool} {reply : q.Reply} (ready : interpreter.running = true)
    (ran : interpreter.Ran Eq fuel frame (earlier ++ step :: later) passed outcome left)
    (ran' : interpreter.Ran Eq fuel frame steps' passed' outcome' left')
    (meets : Meets facade undisturbed [] passed)
    (inside : step.exchanges = before ++ .asked q s reply t :: after)
    (meets' : Meets facade (stopAt (stepped earlier ++ before).length) [] passed')
    (enough : earlier.length + 1 < fuel) :
    interpreter.CutBehind fuel frame earlier step passed outcome left passed' outcome' left' := by
  have again := ran'
  obtain @⟨walked, r, machine, running, walk⟩ := ran
  obtain @⟨walked', r', machine', running', walk'⟩ := ran'
  have first := walk'.stepped_prefix
  rw [ready] at walk walk'
  obtain ⟨meets, -⟩ := Meets.append_iff.mp meets
  obtain ⟨meets', -⟩ := Meets.append_iff.mp meets'
  rw [← Nat.zero_add (stepped earlier ++ before).length] at meets'
  obtain ⟨step', alike, rfl, rfl, cancels, ends⟩ := walk.cut walk' enough meets inside meets'
  have looks : outward (stepped (earlier ++ [step'])) = outward (stepped earlier ++ step.exchanges) := by
    simp only [stepped, List.flatMap_append, List.flatMap_singleton, outward_append, alike.outward]
  refine ⟨⟨step', alike, again, ?_⟩, ?_, ?_, ?_, ?_, rfl⟩
  · rw [← looks, outward_append]
    exact ((first.map _).trans (List.prefix_append _ _))
  · intro fault leads
    rw [walk'.fails (List.mem_append_right _ List.mem_cons_self) (alike.leads.trans leads)]
    rfl
  · rcases leads : step.leads with fault | _ | next
    · exact .inl ⟨fault, rfl⟩
    · exact .inr (.inl (Step.leads_eq_none_iff.mp leads))
    · exact .inr (.inr ⟨next, rfl⟩)
  · intro finished
    have beyond : ∀ next, step.leads = .ok (some next) → interpreter.program.length ≤ next := by
      intro next leads
      rcases finished with ⟨fault, fails⟩ | returns | ⟨next', onward, beyond⟩
      · cases fails.symm.trans leads
      · cases (Step.leads_eq_none_iff.mpr returns).symm.trans leads
      · cases onward.symm.trans leads
        exact beyond
    obtain ⟨rfl, rfl, same⟩ := ends beyond
    refine ⟨rfl, rfl, ?_⟩
    rw [outward_append, outward_append, same]
  · intro next leads inside
    obtain ⟨rfl, rfl⟩ := cancels next leads inside
    refine ⟨rfl, rfl, ?_⟩
    rw [← looks]
    simp [stepped, outward, closing, Exchange.onPart]

/-- On an empty machine there is no result, and no call is made for one. -/
theorem result_of_empty {scope : Scope} {s t : Bool} {passed : List (Exchange Bool)}
    {found : Except Fault (Option Value)} {machine : Machine}
    (course : (Evaluation.result scope).Course {} s passed found machine t) :
    passed = [] ∧ found = .ok none ∧ machine = {} ∧ t = s :=
  Evaluation.pure_iff.mp (Evaluation.get_bind_iff.mp course)

/-- A run that is stopped before it starts makes no call. -/
theorem Ran.of_cleared {steps : List (Step ⟨frame, interpreter.settings⟩ interpreter.program)}
    {passed : List (Exchange Bool)} {outcome : Outcome} {left : Interpreter}
    (cleared : interpreter.running = false)
    (ran : interpreter.Ran Eq (fuel + 1) frame steps passed outcome left) :
    left = { interpreter with machine := {} } ∧
      if interpreter.program = [] then outcome = .completed none ∧ passed = []
      else outcome = .cancelled ∧ passed = [.told (.log (.stoppedBefore 0)),
        .told (.report (.warning .interpreter .evaluationCancelled))] := by
  obtain ⟨program, settings, machine, running⟩ := interpreter
  cases cleared
  obtain ⟨walk⟩ := ran
  cases program with
  | nil =>
      obtain ⟨-, found, course, rfl⟩ := walk.of_none rfl
      obtain ⟨rfl, rfl, rfl, rfl⟩ := result_of_empty course
      exact ⟨rfl, rfl, rfl⟩
  | cons instruction program =>
      obtain ⟨-, rfl, rfl, rfl⟩ := walk.of_cleared rfl
      exact ⟨rfl, rfl, rfl⟩

/-- A request to stop holds for all later runs. -/
theorem Later.cleared {later : Interpreter} (cleared : interpreter.running = false)
    (history : interpreter.Later later) :
    later.running = false ∧ later.program = interpreter.program := by
  induction history with
  | now => exact ⟨cleared, rfl⟩
  | @run former left fuel target frame passed outcome history course ih =>
      by_cases gone : target.isTerminated = true
      · obtain ⟨-, -, rfl⟩ := run_refused gone course
        exact ih
      · obtain ⟨steps, ran⟩ := run_course (Bool.eq_false_iff.mpr gone) course
        cases fuel with
        | zero =>
            obtain ⟨walk⟩ := ran
            cases walk
            exact ih
        | succ fuel =>
            obtain ⟨rfl, -⟩ := ran.of_cleared ih.1
            exact ih
  | stop _ ih => exact ⟨rfl, ih.2⟩

/-- A request to stop that is made while a call of an instruction waits cuts the run at the boundary of
this instruction. A run counts the instructions it may execute, and one more has to be permitted than were
executed, for what comes next is a matter of the run as well. A request that was made before the run leaves
nothing to execute, in this run and in all later ones. -/
theorem cut_at_boundary (facade : Facade) (interpreter : Interpreter) (fuel : Nat) (target : Target)
    (frame : Frame) (alive : target.isTerminated = false) :
    (interpreter.running = true → ∀ passed outcome left,
      (interpreter.run fuel target frame).Course passed (outcome, left) →
      Meets facade undisturbed [] passed →
      ∃ steps, interpreter.Ran Eq fuel frame steps passed outcome left ∧
        ∀ earlier step later, steps = earlier ++ step :: later → earlier.length + 1 < fuel →
        ∀ before c s reply t after, step.exchanges = before ++ .asked (.call c) s reply t :: after →
          (∃ passed' result, (interpreter.run fuel target frame).Course passed' result ∧
            Meets facade (stopAt (stepped earlier ++ before).length) [] passed') ∧
          ∀ passed' outcome' left',
            (interpreter.run fuel target frame).Course passed' (outcome', left') →
            Meets facade (stopAt (stepped earlier ++ before).length) [] passed' →
            interpreter.CutBehind fuel frame earlier step passed outcome left passed' outcome' left') ∧
    (interpreter.running = false → ∀ later, interpreter.Later later → 0 < fuel →
      ∀ passed outcome left, (later.run fuel target frame).Course passed (outcome, left) →
        if interpreter.program = [] then outcome = .completed none ∧ passed = []
        else outcome = .cancelled ∧ passed = [.told (.log (.stoppedBefore 0)),
          .told (.report (.warning .interpreter .evaluationCancelled))]) := by
  constructor
  · intro ready passed outcome left course meets
    obtain ⟨steps, ran⟩ := run_course alive course
    refine ⟨steps, ran, ?_⟩
    rintro earlier step later rfl enough before c s reply t after inside
    refine ⟨Dialogue.exists_meets _ _, ?_⟩
    intro passed' outcome' left' course' meets'
    obtain ⟨steps', ran'⟩ := run_course alive course'
    exact ran.cut ready ran' meets inside meets' enough
  · intro cleared later history enough passed outcome left course
    obtain ⟨stays, same⟩ := history.cleared cleared
    obtain ⟨fuel, rfl⟩ := Nat.exists_eq_succ_of_ne_zero (Nat.ne_zero_of_lt enough)
    obtain ⟨steps, ran⟩ := run_course alive course
    rw [← same]
    exact (ran.of_cleared stays).2

end Interpreter

namespace Cancellation.Sample

/-- A program with one call, before its end. -/
def looking : Interpreter where
  program := [.pushThis, .noOp]

/-- A target in which there is one object. -/
def present : (c : Call) → Except RemoteFailure c.Answer
  | .thisObject .. => .ok (.object ⟨2⟩)
  | _ => .error .disconnected

def facade : Facade := fun _ request => (answering present request true).1

/-- What passes when nobody stops the program. -/
def heard : List (Exchange Bool) :=
  [.told (.log (.instruction 0 .pushThis)),
    .asked (.call (.thisObject ⟨1⟩ 0)) true (.ok (.object ⟨2⟩)) true,
    .told (.log (.instruction 1 .noOp))]

/-- The first step of the program waits for one reply, and the second one follows it. -/
theorem first_step {steps : List (Step ⟨⟨⟨1⟩, 0⟩, {}⟩ looking.program)} {outcome : Outcome}
    {left : Interpreter} (ran : looking.Ran Eq 30 ⟨⟨1⟩, 0⟩ steps heard outcome left) :
    ∃ step later reply t after, steps = [] ++ step :: later ∧ step.leads = .ok (some 1) ∧
      step.exchanges = [.told (.log (.instruction 0 .pushThis))] ++
        .asked (.call (.thisObject ⟨1⟩ 0)) true reply t :: after := by
  generalize passes : heard = passed at ran
  obtain ⟨walk⟩ := ran
  obtain ⟨⟨position, instruction, machine, passed, result, after, running, found, course⟩, rest, later,
    rfl, rfl, rfl, rfl, -⟩ := walk.of_found rfl
  cases found
  rcases Evaluation.call_bind_iff.mp course with ⟨failure, rfl, -, -⟩ | ⟨answer, u, later, pushes, rfl⟩
  · cases passes
  · obtain ⟨-, rfl, -⟩ := Evaluation.pure_iff.mp pushes
    exact ⟨_, rest, _, _, _, rfl, rfl, rfl⟩

end Cancellation.Sample

open Cancellation.Sample in
theorem Interpreter.cut_at_boundary_looking :
    ∃ passed left, (looking.run 30 { name := "sample" } ⟨⟨1⟩, 0⟩).Course passed (.cancelled, left) ∧
      Meets facade (stopAt 1) [] passed ∧ left.running = false := by
  have course : (looking.run 30 { name := "sample" } ⟨⟨1⟩, 0⟩).Course heard
      (.completed (some (.object ⟨2⟩)), _) :=
    Dialogue.course_follow (answering present) (looking.run 30 { name := "sample" } ⟨⟨1⟩, 0⟩)
  obtain ⟨steps, ran, cuts⟩ :=
    (cut_at_boundary facade looking 30 _ _ rfl).1 rfl _ _ _ course ⟨⟨rfl, rfl⟩, trivial⟩
  obtain ⟨step, later, reply, t, after, rfl, leads, inside⟩ := first_step ran
  obtain ⟨⟨passed, ⟨outcome, left⟩, stopped, meets⟩, behind⟩ :=
    cuts [] step later rfl (by decide) _ _ _ _ _ _ inside
  have cut := behind _ _ _ stopped meets
  obtain ⟨rfl, -, -⟩ := cut.cancelled 1 leads (by decide)
  exact ⟨passed, left, stopped, meets, cut.cleared⟩

end RemoteDebug
