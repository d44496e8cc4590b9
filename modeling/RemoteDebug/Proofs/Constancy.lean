import RemoteDebug.Proofs.Assignment

/-!
The kinds of primitive variables of the target.

The interpreter does not know how a variable of the target was declared, so an assignment goes by the value
that the variable has. Where this is a primitive, what is written has its kind. There is one slip: a value
that is no primitive is assigned as it is, without a look at the variable. A compound assignment has no such
gap, and neither have the variables of the interpreter.

* `assigned_of_inTarget`: apart from the slip, an assignment adapts its value as a compound assignment does.
* `Evaluation.KeepsKind` says what is written, what is refused and what slips through,
  `Interpreter.kinds_kept_but_slips` says it of every step of a run.
-/

namespace RemoteDebug

/-- A primitive is converted to its own kind without a change. -/
theorem Value.convert_self {value : Value} (primitive : value.isPrimitive = true) :
    value.convert value.kind = some value :=
  if_pos ⟨rfl, primitive⟩

theorem Value.isPrimitive_of_kind {value current : Value} (same : value.kind = current.kind)
    (primitive : current.isPrimitive = true) : value.isPrimitive = true := by
  rw [isPrimitive, same]
  exact primitive

theorem Variable.writing_inj {scope : Scope} {place place' : Variable} {value value' : Value}
    {s t s' t' : Bool} {reply reply' : Except RemoteFailure Unit} (target : place.inTarget = true)
    (same : place.writing scope value s reply t = place'.writing scope value' s' reply' t') :
    place = place' ∧ value = value' := by
  cases place with
  | internal name => cases target
  | frameLocal | field | staticField | element =>
      cases place' <;> cases same
      exact ⟨rfl, rfl⟩

/-- The only write of a course is found where it is. -/
theorem Writeless.eq_of_append {σ : Type} {prior before after : List (Exchange σ)} {e e' : Exchange σ}
    (writeless : Writeless prior) (writes : e.isWrite = true)
    (same : prior ++ [e'] = before ++ e :: after) : before = prior ∧ e = e' := by
  rcases List.append_eq_append_iff.mp same with ⟨between, rfl, rest⟩ | ⟨between, rfl, rest⟩
  · cases between with
    | nil =>
        cases rest
        exact ⟨List.append_nil _, rfl⟩
    | cons x between =>
        obtain ⟨-, impossible⟩ := List.cons_eq_cons.mp rest
        cases between <;> cases impossible
  · cases between with
    | nil =>
        cases rest
        exact ⟨(List.append_nil _).symm, rfl⟩
    | cons x between =>
        cases rest
        have reads := writeless e (List.mem_append_right _ List.mem_cons_self)
        rw [writes] at reads
        cases reads

namespace Evaluation

variable {scope : Scope} {m m' : Machine} {s t : Bool} {passed : List (Exchange Bool)}
  {place : Variable} {value current : Value}

theorem convertTo_self (primitive : value.isPrimitive = true) : convertTo value value.kind = .ok value := by
  rw [convertTo, Value.convert_self primitive]
  rfl

/-- Apart from values that are no primitives, an assignment adapts to the value that the variable has. -/
theorem assigned_of_inTarget (target : place.inTarget = true) : assigned scope place value =
    if value.isPrimitive then do adapted (← readVariable scope place) value else pure value := by
  cases place with
  | internal name => cases target
  | frameLocal | field | staticField | element =>
      unfold assigned
      cases primitive : value.isPrimitive with
      | false => rfl
      | true =>
          simp only [Bool.not_true, Bool.false_eq_true, if_false, if_true]
          refine bind_congr fun current => ?_
          unfold adapted
          cases held : current.isPrimitive with
          | false => rfl
          | true =>
              by_cases same : current.kind = value.kind
              · simp [same, convertTo_self primitive, compute]
              · simp [same]

theorem adapted_iff {r : Except Fault Value} : Course (adapted current value) m s passed r m' t ↔
    passed = [] ∧ r = (if current.isPrimitive then convertTo value current.kind else .ok value) ∧
      m' = m ∧ t = s := by
  unfold adapted
  split
  · exact compute_iff
  · exact pure_iff

theorem kind_of_adapted {stored : Value} (primitive : current.isPrimitive = true)
    (course : Course (adapted current value) m s passed (.ok stored) m' t) : stored.kind = current.kind := by
  obtain ⟨-, same, -, -⟩ := adapted_iff.mp course
  rw [if_pos primitive] at same
  exact Value.kind_of_convert (eq_some_of_elim_ok same.symm)

/-- What is stored in a variable of the target has the kind of the primitive that was read of it. -/
theorem kind_of_making {instruction : Instruction} {make : Variable → Value → Evaluation Value}
    (makes : making? scope instruction = some make) (target : place.inTarget = true) {stored : Value}
    (course : Course (make place value) m s passed (.ok stored) m' t) :
    (instruction = .assign ∧ stored.isPrimitive = false) ∨
      ∃ current u later, passed = place.reading scope s (.ok current) u ++ later ∧
        (current.isPrimitive = true → stored.kind = current.kind) := by
  have reads {x : Value → Evaluation Value} {stored : Value}
      (adapts : ∀ current n u later m' t, Course (x current) n u later (.ok stored) m' t →
        current.isPrimitive = true → stored.kind = current.kind)
      (course : Course (readVariable scope place >>= x) m s passed (.ok stored) m' t) :
      ∃ current u later, passed = place.reading scope s (.ok current) u ++ later ∧
        (current.isPrimitive = true → stored.kind = current.kind) := by
    rcases bind_iff.mp course with ⟨_, -, impossible⟩ | ⟨current, n, u, first, later, looks, goes, rfl⟩
    · cases impossible
    obtain ⟨failure | _, rfl, same, -⟩ := (readVariable_iff target).mp looks
    · cases same
    · cases same
      exact ⟨current, u, later, rfl, adapts _ _ _ _ _ _ goes⟩
  cases instruction with
  | assign =>
      cases makes
      rw [assigned_of_inTarget target] at course
      split at course
      · exact .inr (reads (fun _ _ _ _ _ _ adapts primitive => kind_of_adapted primitive adapts) course)
      · rename_i other
        obtain ⟨-, same, -, -⟩ := pure_iff.mp course
        cases same
        exact .inl ⟨rfl, Bool.eq_false_iff.mpr other⟩
  | compoundAssign op =>
      cases makes
      refine .inr (reads (fun current _ _ _ _ _ goes primitive => ?_) course)
      rcases bind_iff.mp goes with ⟨_, -, impossible⟩ | ⟨result, _, _, _, _, -, adapts, -⟩
      · cases impossible
      · exact kind_of_adapted primitive adapts
  | _ => cases makes

/-! ### Assignments -/

/-- After `prior` and `before`, a facade would report a primitive of a kind for a variable of the target, and
what has been read of the variable along `before` had this kind. The latter is a condition on the facade: the
variable has not come to hold a value of another kind since the instruction read it. -/
structure Shows (facade : Facade) (scope : Scope) (prior : List (Exchange Unit))
    (before : List (Exchange Bool)) (place : Variable) (kind : Kind) : Prop where
  target : place.inTarget = true
  reports : ∃ current, facade.report? scope (prior ++ outward before) place = some (.ok current) ∧
    current.isPrimitive = true ∧ current.kind = kind
  steady : ∀ first s current t later, before = first ++ (place.reading scope s (.ok current) t ++ later) →
    current.kind = kind

theorem Shows.isPrimitive {facade : Facade} {prior : List (Exchange Unit)} {before : List (Exchange Bool)}
    {kind : Kind} (shows : Shows facade scope prior before place kind) (same : value.kind = kind) :
    value.isPrimitive = true := by
  obtain ⟨current, -, primitive, rfl⟩ := shows.reports
  exact Value.isPrimitive_of_kind same primitive

/-- What an assignment does to the kind of a primitive in the target. -/
structure KeepsKind (facade : Facade) (scope : Scope) (prior : List (Exchange Unit))
    (instruction : Instruction) (m : Machine) (s : Bool) (passed : List (Exchange Bool))
    (r : Except Fault Flow) : Prop where
  /-- A value that is written has the kind of the value that it replaces, unless it is an assigned value that
  is no primitive. -/
  keeps : ∀ before place value u reply v after kind, Shows facade scope prior before place kind →
    passed = before ++ (place.writing scope value u reply v ++ after) →
    value.kind = kind ∨ instruction = .assign ∧ value.isPrimitive = false
  /-- A value that cannot be converted is not written, with the same exception. -/
  refuses : ∀ before rest place value u v kind, Shows facade scope prior before place kind →
    Course (offered scope instruction) m s before (.ok (value, place)) u v → passed = before ++ rest →
    value.convert kind = none → (instruction = .assign → value.isPrimitive = true) →
    r = .error (.invalidCast value.kind kind.name) ∧ Writeless passed
  /-- An assigned value that is no primitive is written as it is. -/
  slips : ∀ before rest place value u v, instruction = .assign → place.inTarget = true →
    Course (offered scope instruction) m s before (.ok (value, place)) u v → passed = before ++ rest →
    value.isPrimitive = false → ∃ reply w, rest = place.writing scope value v reply w

/-- A course with a write does not spare the target. -/
theorem not_writeless_of_writing {first after : List (Exchange Bool)} {reply : Except RemoteFailure Unit}
    (target : place.inTarget = true) :
    ¬ Writeless (first ++ (place.writing scope value s reply t ++ after)) := by
  intro writeless
  obtain ⟨e, same, writes⟩ := Variable.writing_eq_singleton target scope value s t reply
  rw [same] at writeless
  have reads := writeless e (List.mem_append_right _ List.mem_cons_self)
  rw [writes] at reads
  cases reads

theorem eq_of_writing {first before after : List (Exchange Bool)} {place' : Variable} {value' : Value}
    {s' t' : Bool} {reply reply' : Except RemoteFailure Unit} (writeless : Writeless first)
    (target : place.inTarget = true) (target' : place'.inTarget = true)
    (same : first ++ place'.writing scope value' s' reply' t' =
      before ++ (place.writing scope value s reply t ++ after)) :
    before = first ∧ place = place' ∧ value = value' := by
  obtain ⟨e, writing, writes⟩ := Variable.writing_eq_singleton target scope value s t reply
  obtain ⟨e', writing', -⟩ := Variable.writing_eq_singleton target' scope value' s' t' reply'
  rw [writing, writing'] at same
  obtain ⟨rfl, rfl⟩ := writeless.eq_of_append writes same
  obtain ⟨rfl, rfl⟩ := Variable.writing_inj target (writing.trans writing'.symm)
  exact ⟨rfl, rfl, rfl⟩

variable {facade : Facade} {clears : Nat → Bool} {prior : List (Exchange Unit)} {instruction : Instruction}
  {make : Variable → Value → Evaluation Value} {kind : Kind} {r : Except Fault Flow}

/-- An assignment writes no variable of the target, or it ends with a write of what it has made. -/
theorem Assigns.writeless_or (makes : making? scope instruction = some make)
    (assigns : Assigns scope make m s passed r m' t) : Writeless passed ∨
      ∃ place value stored first made u v reply w, place.inTarget = true ∧ Writeless (first ++ made) ∧
        Course (make place value) m u made (.ok stored) m v ∧
        passed = first ++ made ++ place.writing scope stored v reply w := by
  cases assigns with
  | unready fails => exact .inl (operands_writeless fails)
  | unmade stack offers fails =>
      obtain ⟨-, quiet, -⟩ := making_inquires makes _ _ _ _ _ _ _ _ fails
      exact .inl ((operands_writeless offers).append quiet)
  | made stack offers inquires puts =>
      obtain ⟨-, quiet, -⟩ := making_inquires makes _ _ _ _ _ _ _ _ inquires
      have writeless := (operands_writeless offers).append quiet
      rw [← List.append_assoc]
      cases puts with
      | internal same sets => exact .inl (writeless.append .nil)
      | unknown same absent => exact .inl (writeless.append .nil)
      | target target => exact .inr ⟨_, _, _, _, _, _, _, _, _, target, writeless, inquires, rfl⟩
      | refused target => exact .inr ⟨_, _, _, _, _, _, _, _, _, target, writeless, inquires, rfl⟩

/-- What is written has the kind of the value that it replaces. -/
theorem keeps_of_assigns (makes : making? scope instruction = some make)
    (assigns : Assigns scope make m s passed r m' t) {before after : List (Exchange Bool)} {u v : Bool}
    {reply : Except RemoteFailure Unit} (shows : Shows facade scope prior before place kind)
    (passes : passed = before ++ (place.writing scope value u reply v ++ after)) :
    value.kind = kind ∨ instruction = .assign ∧ value.isPrimitive = false := by
  subst passes
  rcases assigns.writeless_or makes with
    writeless | ⟨place', operand, stored, first, made, _, _, _, _, target, writeless, makesIt, same⟩
  · exact absurd writeless (not_writeless_of_writing shows.target)
  obtain ⟨rfl, rfl, rfl⟩ := eq_of_writing writeless shows.target target same.symm
  rcases kind_of_making makes target makesIt with slips | ⟨current, w, later, rfl, kept⟩
  · exact .inr slips
  have steady := shows.steady first _ current w later rfl
  exact .inl ((kept (shows.isPrimitive steady)).trans steady)

theorem refused_of_adapted (primitive : current.isPrimitive = true)
    (inconvertible : value.convert current.kind = none) {r : Except Fault Unit}
    (course : Course (do store scope place (← adapted current value)) m s passed r m' t) :
    passed = [] ∧ r = .error (.invalidCast value.kind current.kind.name) := by
  have converts : ∀ passed r m' t, Course (adapted current value) m s passed r m' t →
      passed = [] ∧ r = convertTo value current.kind ∧ m' = m ∧ t = s := by
    intro passed r m' t adapts
    have result := adapted_iff.mp adapts
    rwa [if_pos primitive] at result
  obtain ⟨rfl, rfl, -⟩ := refused_of_converted converts inconvertible course
  exact ⟨rfl, rfl⟩

/-- What is read next is what would be reported. -/
theorem reply_of_report {before later : List (Exchange Bool)} {reply : Except RemoteFailure Value}
    {u v : Bool} (target : place.inTarget = true)
    (reports : facade.report? scope (prior ++ outward before) place = some (.ok current))
    (meets : Meets facade clears prior (before ++ (place.reading scope u reply v ++ later))) :
    reply = .ok current := by
  have reading := (Meets.append_iff.mp (Meets.append_iff.mp meets).2).1
  have reported := Facade.report?_of_meets target reading
  rw [reports] at reported
  exact (Option.some.inj reported).symm

/-- A value that cannot be converted is not written. -/
theorem assign_refuses {before rest : List (Exchange Bool)} {u : Machine} {v : Bool}
    (shows : Shows facade scope prior before place kind)
    (offers : Course (operands scope) m s before (.ok (value, place)) u v)
    (inconvertible : value.convert kind = none) (primitive : value.isPrimitive = true)
    (course : Course (execute scope .assign) m s (before ++ rest) r m' t)
    (meets : Meets facade clears prior (before ++ rest)) :
    r = .error (.invalidCast value.kind kind.name) ∧ Writeless (before ++ rest) := by
  obtain ⟨ended, assigns, rfl⟩ := next_course course
  rw [assign_eq] at assigns
  have goes := offers.tail assigns
  simp only [assigned_of_inTarget shows.target, if_pos primitive, bind_assoc] at goes
  obtain ⟨current, reports, held, rfl⟩ := shows.reports
  rcases bind_iff.mp goes with ⟨fault, fails, rfl⟩ | ⟨found, n, w, looked, later, reads, adapts, rfl⟩
  · obtain ⟨reply, rfl, same, -⟩ := (readVariable_iff shows.target).mp fails
    rw [← List.append_nil (place.reading ..)] at meets
    cases reply_of_report shows.target reports meets
    cases same
  · obtain ⟨reply, rfl, same, rfl⟩ := (readVariable_iff shows.target).mp reads
    cases reply_of_report shows.target reports meets
    cases same
    obtain ⟨rfl, rfl⟩ := refused_of_adapted held inconvertible adapts
    exact ⟨rfl, (operands_writeless offers).append (Variable.reading_writeless.append .nil)⟩

/-- What is combined has been read. -/
theorem combined_reads {op : BinaryOp} (target : place.inTarget = true)
    (course : Course (combined scope op) m s passed (.ok (value, place, current)) m' t) :
    Writeless passed ∧ ∃ first u v later,
      passed = first ++ (place.reading scope u (.ok current) v ++ later) := by
  rcases bind_iff.mp course with ⟨_, -, impossible⟩ | ⟨⟨operand, _⟩, _, u, first, _, begins, goes, rfl⟩
  · cases impossible
  rcases bind_iff.mp goes with ⟨_, -, impossible⟩ | ⟨former, _, v, looked, _, reads, continues, rfl⟩
  · cases impossible
  rcases bind_iff.mp continues with ⟨_, -, impossible⟩ | ⟨result, _, w, computed, _, computes, ends, rfl⟩
  · cases impossible
  obtain ⟨rfl, same, rfl, rfl⟩ := pure_iff.mp ends
  cases same
  obtain ⟨failure | _, rfl, same, -⟩ := (readVariable_iff target).mp reads
  · cases same
  cases same
  obtain ⟨-, quiet, -⟩ := binary_inquires scope op _ _ _ _ _ _ _ _ computes
  refine ⟨(operands_writeless begins).append (Variable.reading_writeless.append (quiet.append .nil)), ?_⟩
  exact ⟨first, u, v, computed ++ [], rfl⟩

theorem compoundAssign_refuses {op : BinaryOp} {before rest : List (Exchange Bool)} {u : Machine} {v : Bool}
    (shows : Shows facade scope prior before place kind)
    (offers : Course (offered scope (.compoundAssign op)) m s before (.ok (value, place)) u v)
    (inconvertible : value.convert kind = none)
    (course : Course (execute scope (.compoundAssign op)) m s (before ++ rest) r m' t) :
    r = .error (.invalidCast value.kind kind.name) ∧ Writeless (before ++ rest) := by
  obtain ⟨ended, assigns, rfl⟩ := next_course course
  rw [compoundAssign_eq] at assigns
  rcases bind_iff.mp offers with
    ⟨_, -, impossible⟩ | ⟨⟨_, _, current⟩, _, _, _, _, begins, ends, rfl⟩
  · cases impossible
  obtain ⟨rfl, same, rfl, rfl⟩ := pure_iff.mp ends
  cases same
  rw [List.append_nil] at assigns shows
  obtain ⟨writeless, first, u, v, later, read⟩ := combined_reads shows.target begins
  cases shows.steady first u current v later read
  obtain ⟨rfl, rfl⟩ := refused_of_adapted (shows.isPrimitive rfl) inconvertible (begins.tail assigns)
  exact ⟨rfl, (writeless.append .nil).append .nil⟩

/-- A value that is no primitive is written without a look at the variable. -/
theorem assign_slips {before rest : List (Exchange Bool)} {u : Machine} {v : Bool}
    (target : place.inTarget = true) (other : value.isPrimitive = false)
    (offers : Course (operands scope) m s before (.ok (value, place)) u v)
    (course : Course (execute scope .assign) m s (before ++ rest) r m' t) :
    ∃ reply, rest = place.writing scope value v reply t := by
  obtain ⟨ended, assigns, rfl⟩ := next_course course
  rw [assign_eq] at assigns
  have goes := offers.tail assigns
  simp only [assigned_of_inTarget target, other, Bool.false_eq_true, if_false, pure_bind] at goes
  cases store_puts goes with
  | internal same | unknown same =>
      subst same
      cases target
  | target | refused => exact ⟨_, rfl⟩

/-- Assignments keep the kinds of primitives, but for one slip. -/
theorem execute_keepsKind (stores : instruction = .assign ∨ ∃ op, instruction = .compoundAssign op)
    (course : Course (execute scope instruction) m s passed r m' t)
    (meets : Meets facade clears prior passed) :
    KeepsKind facade scope prior instruction m s passed r where
  keeps before place value u reply v after kind shows passes := by
    obtain ⟨make, makes⟩ := exists_making scope stores
    exact keeps_of_assigns makes (execute_assigns makes course) shows passes
  refuses before rest place value u v kind shows offers passes inconvertible primitive := by
    subst passes
    rcases stores with rfl | ⟨op, rfl⟩
    · exact assign_refuses shows offers inconvertible (primitive rfl) course meets
    · exact compoundAssign_refuses shows offers inconvertible course
  slips before rest place value u v assigns target offers passes other := by
    subst assigns passes
    obtain ⟨reply, rfl⟩ := assign_slips target other offers course
    exact ⟨reply, t, rfl⟩

end Evaluation

/-! ### Runs -/

/-- What has passed when a step begins that some others precede: the entry about it comes last. -/
def Step.past {scope : Scope} {program : Program} (step : Step scope program)
    (earlier : List (Step scope program)) : List (Exchange Unit) :=
  outward (stepped earlier ++ [.told (.log (.instruction step.position step.instruction))])

namespace Interpreter

variable {interpreter : Interpreter} {fuel : Nat} {frame : Frame}

/-- A step of a run goes on with the replies of the same facade. -/
theorem Ran.meets_step {between : Bool → Bool → Prop} {facade : Facade} {clears : Nat → Bool}
    {passed : List (Exchange Bool)} {outcome : Outcome} {left : Interpreter}
    {earlier later : List (Step ⟨frame, interpreter.settings⟩ interpreter.program)}
    {step : Step ⟨frame, interpreter.settings⟩ interpreter.program}
    (ran : interpreter.Ran between fuel frame (earlier ++ step :: later) passed outcome left)
    (meets : Meets facade clears [] passed) : Meets facade clears (step.past earlier) step.passed := by
  obtain ⟨walk⟩ := ran
  obtain ⟨rest, rfl⟩ := walk.stepped_prefix
  have split : stepped (earlier ++ step :: later) =
      stepped earlier ++ [.told (.log (.instruction step.position step.instruction))] ++
        (step.passed ++ stepped later) := by
    simp [stepped, Step.exchanges]
  rw [split, List.append_assoc, List.append_assoc] at meets
  have begins := (Meets.append_iff.mp meets).2
  exact (Meets.append_iff.mp (Meets.append_iff.mp begins).1).1

/-- An assignment in a run keeps the kinds of primitives, as far as assignments do. -/
def KeepsKind (facade : Facade) {scope : Scope} {program : Program} (earlier : List (Step scope program))
    (step : Step scope program) : Prop :=
  step.instruction = .assign ∨ (∃ op, step.instruction = .compoundAssign op) →
    Evaluation.KeepsKind facade scope (step.past earlier) step.instruction step.before true step.passed
      step.result

theorem Ran.keepsKind {between : Bool → Bool → Prop} {facade : Facade} {clears : Nat → Bool}
    {passed : List (Exchange Bool)} {outcome : Outcome} {left : Interpreter}
    {earlier later : List (Step ⟨frame, interpreter.settings⟩ interpreter.program)}
    {step : Step ⟨frame, interpreter.settings⟩ interpreter.program}
    (ran : interpreter.Ran between fuel frame (earlier ++ step :: later) passed outcome left)
    (meets : Meets facade clears [] passed) : KeepsKind facade earlier step := by
  intro stores
  exact Evaluation.execute_keepsKind stores step.course (ran.meets_step meets)

/-- In every run an assignment to a primitive of the target writes a value of its kind, or it fails and writes
nothing, or it lets a value slip through that is no primitive. The target may reply as it likes, and change its
variables as it likes between instructions. Within one instruction it has to keep the kind of the variable from
the read to the write (`Evaluation.Shows.steady`): a compound assignment that asks an object for its text runs
code of the target between the two, and what it writes has the kind that was read. -/
theorem kinds_kept_but_slips (facade : Facade) (clears : Nat → Bool) (interpreter : Interpreter)
    (fuel : Nat) (target : Target) (frame : Frame) :
    (target.isTerminated = false → ∀ passed outcome left,
      (interpreter.run fuel target frame).Course passed (outcome, left) → Meets facade clears [] passed →
      ∃ steps, interpreter.Ran Eq fuel frame steps passed outcome left ∧
        ∀ earlier step later, steps = earlier ++ step :: later → KeepsKind facade earlier step) ∧
    ∀ between passed outcome left earlier step later,
      interpreter.Ran between fuel frame (earlier ++ step :: later) passed outcome left →
      Meets facade clears [] passed → KeepsKind facade earlier step := by
  constructor
  · intro alive passed outcome left course meets
    obtain ⟨steps, ran⟩ := run_course alive course
    refine ⟨steps, ran, ?_⟩
    rintro earlier step later rfl
    exact ran.keepsKind meets
  · intro between passed outcome left earlier step later ran meets
    exact ran.keepsKind meets

end Interpreter

namespace Constancy.Sample

/-- A program that assigns to a local variable. -/
def assigning (operand : Instruction) : Interpreter where
  program := [.pushLocal "x", operand, .assign]

/-- A target in which the variable is the `int` five. -/
def answers : (c : Call) → Except RemoteFailure c.Answer
  | .localValue .. => .ok (.int 5)
  | .setLocalValue .. => .ok ()
  | _ => .error .disconnected

def facade : Facade := fun _ request => (answering answers request true).1

/-- A step of the program. -/
def step (operand : Instruction) (position : Nat) (instruction : Instruction) (before : Machine)
    (found : (assigning operand).program[position]? = some instruction) :
    Step ⟨⟨⟨1⟩, 0⟩, {}⟩ (assigning operand).program :=
  let course := ((Evaluation.execute ⟨⟨⟨1⟩, 0⟩, {}⟩ instruction).run.run before true).follow
    (answering answers)
  ⟨position, instruction, before, course.1, course.2.1.1, course.2.1.2, course.2.2, found,
    Dialogue.course_follow _ _⟩

def pushing (operand : Instruction) := step operand 0 (.pushLocal "x") {} rfl

def offering (operand : Instruction) := step operand 1 operand (pushing operand).after rfl

def storing (operand : Instruction) := step operand 2 .assign (offering operand).after rfl

/-- A boolean is no number. -/
def truth : Instruction := .pushLiteral (.boolean true)

theorem refuses : ∃ passed outcome left, (assigning truth).Ran Eq 30 ⟨⟨1⟩, 0⟩
    ([pushing truth, offering truth] ++ storing truth :: []) passed outcome left ∧
      Meets facade undisturbed [] passed := by
  refine ⟨_, _, _, .intro (.onward (pushing truth) rfl rfl (.onward (offering truth) rfl rfl
    (.failed (storing truth) rfl))), ?_⟩
  exact ⟨⟨rfl, rfl⟩, trivial⟩

theorem slips : ∃ passed outcome left,
    ((assigning .pushNull).run 30 { name := "sample" } ⟨⟨1⟩, 0⟩).Course passed (outcome, left) ∧
      (assigning .pushNull).Ran Eq 30 ⟨⟨1⟩, 0⟩
        ([pushing .pushNull, offering .pushNull] ++ storing .pushNull :: []) passed outcome left ∧
      Meets facade undisturbed [] passed := by
  refine ⟨_, _, _, ?_, .intro (.onward (pushing .pushNull) rfl rfl (.onward (offering .pushNull) rfl rfl
    (.onward (storing .pushNull) rfl rfl (.ended rfl (Dialogue.course_follow (answering answers) _))))), ?_⟩
  · exact Dialogue.course_follow (answering answers)
      ((assigning .pushNull).run 30 { name := "sample" } ⟨⟨1⟩, 0⟩)
  · exact ⟨⟨rfl, rfl⟩, trivial⟩

end Constancy.Sample

open Constancy.Sample in
theorem Interpreter.kinds_kept_but_slips_refusing :
    (storing truth).result = .error (.invalidCast .boolean "int") ∧ Writeless (storing truth).passed := by
  obtain ⟨passed, outcome, left, ran, meets⟩ := refuses
  have keeps := (kinds_kept_but_slips facade undisturbed (assigning truth) 30 { name := "sample" }
    ⟨⟨1⟩, 0⟩).2 _ _ _ _ _ _ _ ran meets (.inl rfl)
  have shows : Evaluation.Shows facade ⟨⟨⟨1⟩, 0⟩, {}⟩
      ((storing truth).past [pushing truth, offering truth]) [] (.frameLocal "x") .int :=
    ⟨rfl, ⟨.int 5, rfl, rfl, rfl⟩, fun first _ _ _ _ same => by cases first <;> cases same⟩
  have offers : (Evaluation.offered ⟨⟨⟨1⟩, 0⟩, {}⟩ .assign).Course (storing truth).before true []
      (.ok (.boolean true, .frameLocal "x")) {} true :=
    Dialogue.course_follow (answering answers)
      ((Evaluation.offered ⟨⟨⟨1⟩, 0⟩, {}⟩ .assign).run.run (storing truth).before true)
  exact keeps.refuses [] _ _ _ _ _ _ shows offers rfl rfl fun _ => rfl

open Constancy.Sample in
/-- `null` is written to a variable that holds a number. -/
theorem Interpreter.kind_lost :
    ¬ ∀ (facade : Facade) clears (interpreter : Interpreter) fuel (target : Target) frame passed outcome left
      earlier (step : Step ⟨frame, interpreter.settings⟩ interpreter.program) later,
      target.isTerminated = false → (interpreter.run fuel target frame).Course passed (outcome, left) →
      Meets facade clears [] passed →
      interpreter.Ran Eq fuel frame (earlier ++ step :: later) passed outcome left →
      step.instruction = .assign ∨ (∃ op, step.instruction = .compoundAssign op) →
      ∀ before (place : Variable) value u reply v after current, place.inTarget = true →
        step.passed = before ++ (place.writing ⟨frame, interpreter.settings⟩ value u reply v ++ after) →
        facade.report? ⟨frame, interpreter.settings⟩ (step.past earlier ++ outward before) place =
          some (.ok current) →
        current.isPrimitive = true → value.kind = current.kind := by
  intro kept
  obtain ⟨passed, outcome, left, course, ran, meets⟩ := slips
  have same := kept _ _ _ _ _ _ _ _ _ _ _ _ rfl course meets ran (.inl rfl) []
    (.frameLocal "x") .null true (.ok ()) true [] (.int 5) rfl rfl rfl rfl
  cases same

end RemoteDebug
