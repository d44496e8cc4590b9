import RemoteDebug.Proofs.Declaration

/-!
Variables of reference types.

A declaration fixes the kind of a variable, but for references this kind alone does not keep other values
out. An assignment refuses primitives and lets the answer of an invocation without a result pass. A compound
assignment narrows only what replaces a primitive, so it stores whatever the operator gives.

* `Internals.Referring`: every variable of a reference type holds a handle or `null`.
* `Step.Slips` lists what a step can store in such a variable apart from references.
* `Step.refers` and `Step.Slips.not_referring`: a step keeps the references unless it slips, and then one
  of them is lost.
* `Interpreter.references_until_slip` is the statement about runs.
-/

namespace RemoteDebug

/-! ### Values -/

namespace Value

variable {value : Value}

/-- What is neither a primitive nor a reference is `void`. -/
theorem reference_or_void (other : value.isPrimitive = false) :
    value.kind.isReference = true ∨ value = .void := by
  cases value <;> first | exact .inl rfl | exact .inr rfl | cases other

theorem isPrimitive_of_isReference (reference : value.kind.isReference = true) :
    value.isPrimitive = false := by
  cases value <;> first | rfl | cases reference

/-- References are not converted. -/
theorem convert_of_isReference (reference : value.kind.isReference = true) (kind : Kind) :
    value.convert kind = none := by
  have copied := isPrimitive_of_isReference reference
  cases value with
  | object _ | string _ | null => simp [convert, copied, integer?]
  | _ => cases reference

end Value

namespace BinaryOp

variable {op : BinaryOp} {left right result : Value}

/-- With a reference on the left only a comparison of two references has a result. -/
theorem apply_of_isReference (reference : left.kind.isReference = true)
    (applied : op.apply left right = .ok result) :
    (op = .equal ∨ op = .notEqual) ∧ right.kind.isReference = true ∧ ∃ b, result = .boolean b := by
  unfold apply at applied
  dsimp only at applied
  split at applied
  · rename_i compares
    cases applied
    exact ⟨compares.1, compares.2.2, _, rfl⟩
  · split at applied
    · rw [shift?, Value.convert_of_isReference reference] at applied
      cases applied
    · simp [promoteBoth?, Value.convert_of_isReference reference] at applied

theorem apply_of_compared (compares : op = .equal ∨ op = .notEqual)
    (reference : left.kind.isReference = true) (reference' : right.kind.isReference = true) :
    ∃ b, op.apply left right = .ok (.boolean b) := by
  refine ⟨(left.handle? = right.handle?) == (op = .equal), ?_⟩
  rw [apply, if_pos ⟨compares, reference, reference'⟩]

end BinaryOp

/-! ### Variables -/

/-- Every variable of a reference type holds a handle or `null`. -/
def Internals.Referring (internals : Internals) : Prop :=
  ∀ name held, internals.get? name = some held → held.kind = .object →
    held.value.kind.isReference = true

namespace Internals

variable {internals internals' : Internals} {name : String} {held : InternalVariable} {value : Value}

theorem referring_empty : Referring {} := fun _ _ found => nomatch found

theorem Referring.create (referring : internals.Referring)
    (created : internals.create name held = .ok internals')
    (starts : held.kind = .object → held.value = .null) : internals'.Referring := by
  intro other former found object
  rw [get?_of_create created] at found
  split at found
  · cases found
    rw [starts object]
    rfl
  · exact referring other former found object

theorem Referring.set (referring : internals.Referring)
    (stored : internals.set name value = .ok internals')
    (fits : ∀ held, internals.get? name = some held → held.kind = .object →
      value.kind.isReference = true) : internals'.Referring := by
  intro other former found object
  rw [get?_of_set stored] at found
  obtain ⟨held, known, rfl⟩ := Option.map_eq_some_iff.mp found
  by_cases same : other = name
  · rw [if_pos same] at object ⊢
    rw [same] at known
    exact fits held known object
  · rw [if_neg same] at object ⊢
    exact referring other held known object

theorem get?_of_set_error {fault : Fault} (failed : internals.set name value = .error fault) :
    internals.get? name = none := by
  unfold set contains at failed
  split at failed
  · cases failed
  · rename_i absent
    rwa [Bool.not_eq_true, Option.isSome_eq_false_iff, Option.isNone_iff_eq_none] at absent

/-- A variable of a reference type that takes another value holds no reference any more. -/
theorem not_referring_of_set (known : internals.get? name = some held) (object : held.kind = .object)
    (stored : internals.set name value = .ok internals') (other : value.kind.isReference = false) :
    ¬ internals'.Referring := by
  intro referring
  have found : internals'.get? name = some { held with value } := by
    rw [get?_of_set stored, known, Option.map_some, if_pos rfl]
  rw [referring name _ found object] at other
  cases other

end Internals

/-! ### Assignments of both kinds -/

namespace Evaluation

variable {scope : Scope} {m m' u : Machine} {s t v : Bool} {passed prior rest : List (Exchange Bool)}
  {name : String} {value : Value} {held : InternalVariable}

/-- An assignment of either kind: from the popped value and the variable below it is made what to store. -/
def writes (scope : Scope) (make : Variable → Value → Evaluation Value) : Evaluation Unit := do
  let (value, place) ← operands scope
  store scope place (← make place value)

/-- What a compound assignment stores. -/
def altered (scope : Scope) (op : BinaryOp) (place : Variable) (operand : Value) : Evaluation Value := do
  let current ← readVariable scope place
  let result ← binary scope op current operand
  adapted current result

theorem compoundAssign_eq_writes (op : BinaryOp) :
    compoundAssign scope op = writes scope (altered scope op) := by
  simp only [compoundAssign_eq, combined, writes, altered, bind_assoc, pure_bind]

theorem altered_spares (op : BinaryOp) (place : Variable) (operand : Value) :
    Composed scope Machine.Spares (altered scope op place operand) :=
  (readVariable_spares scope place).bind fun current => (binary_spares scope op current operand).bind
    fun result => adapted_spares current result

theorem store_internal {r : Except Fault Unit}
    (course : Course (store scope (.internal name) value) m s passed r m' t) :
    passed = [] ∧ ((m.internals.get? name = none ∧ m'.internals = m.internals) ∨
      m.internals.set name value = .ok m'.internals) := by
  rcases bind_iff.mp course with ⟨fault, fails, rfl⟩ | ⟨_, u, _, _, _, writes, pushes, rfl⟩
  · obtain ⟨rfl, -, ⟨fault, absent, -, rfl⟩ | ⟨-, impossible⟩⟩ :=
      replace_course (x := (·.set name value)) fails
    · refine ⟨rfl, .inl ⟨Internals.get?_of_set_error absent, rfl⟩⟩
    · cases impossible
  · obtain ⟨rfl, -, ⟨_, -, impossible, -⟩ | ⟨stored, -⟩⟩ :=
      replace_course (x := (·.set name value)) writes
    · cases impossible
    · obtain ⟨rfl, -, rfl, -⟩ := modify_iff.mp pushes
      exact ⟨rfl, .inr stored⟩

variable {make : Variable → Value → Evaluation Value}

/-- The internal variables change only where a value is made for one of them. -/
theorem writes_course (spares : ∀ place value, Composed scope Machine.Spares (make place value))
    {r : Except Fault Unit} (course : Course (writes scope make) m s passed r m' t) :
    m'.internals = m.internals ∨ ∃ prior rest name value stored u v u' v',
      Course (operands scope) m s prior (.ok (value, .internal name)) u v ∧ passed = prior ++ rest ∧
      Course (make (.internal name) value) u v rest (.ok stored) u' v' ∧
      m.internals.set name stored = .ok m'.internals := by
  rcases bind_iff.mp course with ⟨fault, fails, rfl⟩ | ⟨⟨value, place⟩, u, v, prior, _, offers, goes, rfl⟩
  · exact .inl (operands_spares.spares fails)
  have same := operands_spares.spares offers
  rcases bind_iff.mp goes with ⟨fault, fails, rfl⟩ | ⟨stored, u', v', rest, _, makes, ends, rfl⟩
  · exact .inl (((spares place value).spares fails).trans same)
  have same' := ((spares place value).spares makes).trans same
  rcases store_course ends with unchanged | ⟨name, rfl, sets⟩
  · exact .inl (unchanged.trans same')
  · obtain ⟨rfl, -⟩ := store_internal ends
    rw [same'] at sets
    rw [List.append_nil]
    exact .inr ⟨prior, rest, name, value, stored, u, v, u', v', offers, rfl, makes, sets⟩

/-- What is made for an internal variable is stored. -/
theorem writes_of_offered (spares : ∀ place value, Composed scope Machine.Spares (make place value))
    {r : Except Fault Unit} (offers : Course (operands scope) m s prior (.ok (value, .internal name)) u v)
    (found : m.internals.get? name = some held)
    (course : Course (writes scope make) m s (prior ++ rest) r m' t) :
    u.internals = m.internals ∧
      ((∃ fault, Course (make (.internal name) value) u v rest (.error fault) m' t) ∨
        ∃ stored u' v', Course (make (.internal name) value) u v rest (.ok stored) u' v' ∧
          m.internals.set name stored = .ok m'.internals) := by
  have same := operands_spares.spares offers
  refine ⟨same, ?_⟩
  rcases bind_iff.mp (offers.tail course) with
    ⟨fault, fails, rfl⟩ | ⟨stored, u', v', _, _, makes, ends, rfl⟩
  · exact .inl ⟨fault, fails⟩
  have same' := ((spares _ value).spares makes).trans same
  obtain ⟨rfl, ⟨absent, -⟩ | sets⟩ := store_internal ends
  · rw [same', found] at absent
    cases absent
  · rw [same'] at sets
    rw [List.append_nil]
    exact .inr ⟨stored, u', v', makes, sets⟩

/-! ### What is made for a reference -/

/-- An assignment to a variable of a reference type stores the value itself, unless it is a primitive. -/
theorem assigned_of_reference {r : Except Fault Value} (found : m.internals.get? name = some held)
    (object : held.kind = .object)
    (course : Course (assigned scope (.internal name) value) m s passed r m' t) :
    passed = [] ∧ r = if value.isPrimitive then .error (.invalidCast value.kind held.kind.name)
      else .ok value := by
  have goes := get_bind_iff.mp course
  rw [Internals.get_of_get? found, compute, pure_bind] at goes
  dsimp only at goes
  rw [if_pos object] at goes
  split at goes
  · obtain ⟨rfl, rfl, -⟩ := throw_iff.mp goes
    exact ⟨rfl, by rw [if_pos ‹_›]⟩
  · obtain ⟨rfl, rfl, -⟩ := pure_iff.mp goes
    exact ⟨rfl, by rw [if_neg ‹_›]⟩

/-- What replaces a reference is the result of the operator, whatever it is. -/
theorem altered_of_reference {op : BinaryOp} {r : Except Fault Value}
    (found : m.internals.get? name = some held) (reference : held.value.kind.isReference = true)
    (course : Course (altered scope op (.internal name) value) m s passed r m' t) :
    Course (binary scope op held.value value) m s passed r m' t := by
  rcases bind_iff.mp course with ⟨_, fails, -⟩ | ⟨current, _, _, _, _, reads, goes, rfl⟩
  · cases (readVariable_of_internal found fails).2.1
  obtain ⟨rfl, same, rfl, rfl⟩ := readVariable_of_internal found reads
  cases same
  have adapts : adapted held.value = pure := by
    funext result
    rw [adapted, Value.isPrimitive_of_isReference reference]
    rfl
  rw [adapts, bind_pure] at goes
  exact goes

/-- The text of a value is found without the creation of another. -/
theorem textOf_course {r : Except Fault String} (course : Course (textOf scope value) m s passed r m' t)
    (text : String) (before : Bool) (reply : (Request.call (.newString text)).Reply) (after : Bool) :
    .asked (.call (.newString text)) before reply after ∉ passed := by
  have silent {r : Except Fault String} {passed : List (Exchange Bool)} (quiet : passed = []) :
      Exchange.asked (.call (.newString text)) before reply after ∉ passed := by
    rw [quiet]
    exact List.not_mem_nil
  unfold textOf at course
  split at course
  · exact silent (r := r) (pure_iff.mp course).1
  · obtain ⟨_, rfl, -⟩ := call_iff.mp course
    simp
  · rcases call_bind_iff.mp course with ⟨_, rfl, -⟩ | ⟨answer, _, _, goes, rfl⟩
    · simp
    · split at goes
      · obtain ⟨_, rfl, -⟩ := call_iff.mp goes
        simp
      · cases (pure_iff.mp goes).1
        simp
      · cases (throw_iff.mp goes).1
        simp
  · split at course
    · exact silent (r := r) (pure_iff.mp course).1
    · exact silent (r := r) (throw_iff.mp course).1

/-- A reference is combined by a comparison with another reference, or by joining texts, of which the last
part is the creation of the joined text. -/
theorem binary_of_reference {op : BinaryOp} {left right result : Value}
    (reference : left.kind.isReference = true)
    (course : Course (binary scope op left right) m s passed (.ok result) m' t) :
    ((op = .equal ∨ op = .notEqual) ∧ right.kind.isReference = true ∧ passed = [] ∧
      ∃ b, result = .boolean b) ∨
    (op = .add ∧ ∃ prior text before,
      passed = prior ++ [.asked (.call (.newString text)) before (.ok result) t]) := by
  unfold binary at course
  split at course
  · rename_i joins
    rcases bind_iff.mp course with ⟨_, -, impossible⟩ | ⟨first, _, _, _, _, -, goes, rfl⟩
    · cases impossible
    rcases bind_iff.mp goes with ⟨_, -, impossible⟩ | ⟨second, _, _, _, _, -, creates, rfl⟩
    · cases impossible
    obtain ⟨failure | answer, rfl, same, -⟩ := call_iff.mp creates
    · cases same
    · cases same
      exact .inr ⟨joins.1, _, _, _, (List.append_assoc _ _ _).symm⟩
  · obtain ⟨rfl, applied, -⟩ := compute_iff.mp course
    obtain ⟨compares, reference', b, rfl⟩ := BinaryOp.apply_of_isReference reference applied.symm
    exact .inl ⟨compares, reference', rfl, b, rfl⟩

/-- Two references are compared without a failure. -/
theorem binary_of_compared {op : BinaryOp} {left right : Value} {r : Except Fault Value}
    (compares : op = .equal ∨ op = .notEqual) (reference : left.kind.isReference = true)
    (reference' : right.kind.isReference = true)
    (course : Course (binary scope op left right) m s passed r m' t) : ∃ b, r = .ok (.boolean b) := by
  obtain ⟨b, applied⟩ := BinaryOp.apply_of_compared compares reference reference'
  unfold binary at course
  split at course
  · rename_i joins
    rcases compares with rfl | rfl <;> cases joins.1
  · exact ⟨b, (compute_iff.mp course).2.1.trans applied⟩

/-- A text that has been created is the result. -/
theorem binary_of_created {op : BinaryOp} {left right answer : Value} {text : String} {before after : Bool}
    {r : Except Fault Value} (course : Course (binary scope op left right) m s
      (prior ++ [.asked (.call (.newString text)) before (.ok answer) after]) r m' t) : r = .ok answer := by
  have last : .asked (.call (.newString text)) before (.ok answer) after ∈
      prior ++ [.asked (.call (.newString text)) before (.ok answer) after] :=
    List.mem_append_right _ List.mem_cons_self
  unfold binary at course
  split at course
  · rcases bind_iff.mp course with ⟨_, fails, -⟩ | ⟨first, _, _, _, _, looks, goes, same⟩
    · exact absurd last (textOf_course fails _ _ _ _)
    rcases bind_iff.mp goes with ⟨_, fails, -⟩ | ⟨second, _, _, _, _, looks', creates, rfl⟩
    · rw [same] at last
      rcases List.mem_append.mp last with member | member
      · exact absurd member (textOf_course looks _ _ _ _)
      · exact absurd member (textOf_course fails _ _ _ _)
    · obtain ⟨reply, rfl, rfl, -⟩ := call_iff.mp creates
      rw [← List.append_assoc] at same
      cases (List.append_inj' same rfl).2
      rfl
  · have impossible := (compute_iff.mp course).1
    simp at impossible

/-! ### Slips -/

/-- `Slips scope instruction m passed`: along `passed` the instruction stores something other than a reference
in a variable of a reference type. The value is popped first, then the variable below it. -/
inductive Slips (scope : Scope) : Instruction → Machine → List (Exchange Bool) → Prop where
  /-- The answer of an invocation without a result is assigned. -/
  | void {m u : Machine} {v : Bool} {passed : List (Exchange Bool)} {name : String}
      {held : InternalVariable} :
      Course (operands scope) m true passed (.ok (.void, .internal name)) u v →
      m.internals.get? name = some held → held.kind = .object → Slips scope .assign m passed
  /-- The reference is compared with another, and the result of the comparison takes its place. -/
  | compared {op : BinaryOp} {m u : Machine} {v : Bool} {passed : List (Exchange Bool)} {name : String}
      {held : InternalVariable} {operand : Value} : op = .equal ∨ op = .notEqual →
      Course (operands scope) m true passed (.ok (operand, .internal name)) u v →
      m.internals.get? name = some held → held.kind = .object → held.value.kind.isReference = true →
      operand.kind.isReference = true → Slips scope (.compoundAssign op) m passed
  /-- The target answers the creation of the joined text with something that is no reference. -/
  | joined {m u : Machine} {v before after : Bool} {prior texts : List (Exchange Bool)}
      {name text : String} {held : InternalVariable} {operand answer : Value} :
      Course (operands scope) m true prior (.ok (operand, .internal name)) u v →
      m.internals.get? name = some held → held.kind = .object → held.value.kind.isReference = true →
      answer.kind.isReference = false → Slips scope (.compoundAssign .add) m
        (prior ++ (texts ++ [.asked (.call (.newString text)) before (.ok answer) after]))

/-- An assignment keeps the references unless it slips. -/
theorem assign_refers {r : Except Fault Unit} (course : Course (assign scope) m true passed r m' t)
    (referring : m.internals.Referring) (holds : ¬ Slips scope .assign m passed) :
    m'.internals.Referring := by
  rw [assign_eq] at course
  rcases writes_course (assigned_spares scope) course with
    spared | ⟨prior, rest, name, value, stored, u, v, _, _, offers, rfl, makes, sets⟩
  · rw [spared]
    exact referring
  refine referring.set sets fun held known object => ?_
  have known' := known
  rw [← operands_spares.spares offers] at known'
  obtain ⟨rfl, same⟩ := assigned_of_reference known' object makes
  split at same
  · cases same
  · cases same
    rw [List.append_nil] at holds
    rcases Value.reference_or_void (Bool.eq_false_iff.mpr ‹_›) with reference | rfl
    · exact reference
    · exact absurd (.void offers known object) holds

/-- A compound assignment keeps the references unless it slips. -/
theorem compoundAssign_refers {op : BinaryOp} {r : Except Fault Unit}
    (course : Course (compoundAssign scope op) m true passed r m' t)
    (referring : m.internals.Referring) (holds : ¬ Slips scope (.compoundAssign op) m passed) :
    m'.internals.Referring := by
  rw [compoundAssign_eq_writes] at course
  rcases writes_course (altered_spares op) course with
    spared | ⟨prior, rest, name, value, stored, u, v, _, _, offers, rfl, makes, sets⟩
  · rw [spared]
    exact referring
  refine referring.set sets fun held known object => ?_
  have reference := referring name held known object
  have known' := known
  rw [← operands_spares.spares offers] at known'
  rcases binary_of_reference reference (altered_of_reference known' reference makes) with
    ⟨compares, reference', rfl, -⟩ | ⟨rfl, texts, text, _, rfl⟩
  · rw [List.append_nil] at holds
    exact absurd (.compared compares offers known object reference reference') holds
  · cases other : stored.kind.isReference with
    | true => rfl
    | false => exact absurd (.joined offers known object reference other) holds

theorem execute_refers {instruction : Instruction} {r : Except Fault Flow}
    (course : Course (execute scope instruction) m true passed r m' t)
    (referring : m.internals.Referring) (holds : ¬ Slips scope instruction m passed) :
    m'.internals.Referring := by
  cases instruction with
  | createInternal name typeName =>
      obtain ⟨_, declares, -⟩ := next_course course
      rcases declare_course declares with ⟨_, -, spared⟩ | ⟨-, declared, held, -, -, starts, created⟩
      · rw [spared]
        exact referring
      · exact referring.create created starts
  | assign =>
      obtain ⟨_, assigns, -⟩ := next_course course
      exact assign_refers assigns referring holds
  | compoundAssign op =>
      obtain ⟨_, assigns, -⟩ := next_course course
      exact compoundAssign_refers assigns referring holds
  | _ =>
      rw [(execute_spares scope _ rfl).spares course]
      exact referring

/-- What slips leaves a variable of a reference type without a reference. -/
theorem Slips.not_referring {instruction : Instruction} {r : Except Fault Flow}
    (slips : Slips scope instruction m passed)
    (course : Course (execute scope instruction) m true passed r m' t) : ¬ m'.internals.Referring := by
  cases slips with
  | void offers known object =>
      obtain ⟨_, assigns, -⟩ := next_course course
      rw [assign_eq, ← List.append_nil passed] at assigns
      obtain ⟨same, makes⟩ := writes_of_offered (assigned_spares scope) offers known assigns
      have known' := known
      rw [← same] at known'
      obtain ⟨fault, fails⟩ | ⟨stored, _, _, makes, sets⟩ := makes
      · cases (assigned_of_reference known' object fails).2
      · cases (assigned_of_reference known' object makes).2
        exact Internals.not_referring_of_set known object sets rfl
  | compared compares offers known object reference reference' =>
      obtain ⟨_, assigns, -⟩ := next_course course
      rw [compoundAssign_eq_writes, ← List.append_nil passed] at assigns
      obtain ⟨same, makes⟩ := writes_of_offered (altered_spares _) offers known assigns
      have known' := known
      rw [← same] at known'
      obtain ⟨fault, fails⟩ | ⟨stored, _, _, makes, sets⟩ := makes
      · obtain ⟨b, impossible⟩ :=
          binary_of_compared compares reference reference' (altered_of_reference known' reference fails)
        cases impossible
      · obtain ⟨b, same⟩ :=
          binary_of_compared compares reference reference' (altered_of_reference known' reference makes)
        cases same
        exact Internals.not_referring_of_set known object sets rfl
  | joined offers known object reference other =>
      obtain ⟨_, assigns, -⟩ := next_course course
      rw [compoundAssign_eq_writes] at assigns
      obtain ⟨same, makes⟩ := writes_of_offered (altered_spares _) offers known assigns
      have known' := known
      rw [← same] at known'
      obtain ⟨fault, fails⟩ | ⟨stored, _, _, makes, sets⟩ := makes
      · cases binary_of_created (altered_of_reference known' reference fails)
      · cases binary_of_created (altered_of_reference known' reference makes)
        exact Internals.not_referring_of_set known object sets other

end Evaluation

/-! ### Steps and runs -/

section Steps

variable {scope : Scope} {program : Program}

/-- The step stores something other than a reference in a variable of a reference type. -/
def Step.Slips (step : Step scope program) : Prop :=
  Evaluation.Slips scope step.instruction step.before step.passed

/-- What one step preserves. -/
theorem Step.refers {step : Step scope program} (referring : step.before.internals.Referring)
    (holds : ¬ step.Slips) : step.after.internals.Referring :=
  Evaluation.execute_refers step.course referring holds

/-- What a walk preserves up to a step before which nothing slips. -/
theorem Walk.referring {between : Bool → Bool → Prop} {fuel position : Nat} {machine machine' : Machine}
    {running running' : Bool} {steps : List (Step scope program)} {passed : List (Exchange Bool)}
    {r : Except Fault Outcome}
    (walk : Walk scope program between fuel position machine running steps passed r machine' running')
    (referring : machine.internals.Referring) {earlier later : List (Step scope program)}
    {step : Step scope program} (split : steps = earlier ++ step :: later)
    (hold : ∀ former ∈ earlier, ¬ former.Slips) : step.before.internals.Referring := by
  induction walk generalizing earlier with
  | exhausted => simp at split
  | ended found course => simp at split
  | cancelled found => simp at split
  | failed only leads =>
      obtain ⟨rfl, same⟩ := List.append_eq_singleton_iff.mp split.symm |>.resolve_right (by simp)
      cases same
      exact referring
  | returned only leads course =>
      obtain ⟨rfl, same⟩ := List.append_eq_singleton_iff.mp split.symm |>.resolve_right (by simp)
      cases same
      exact referring
  | onward head leads flag walk ih =>
      rcases earlier with _ | ⟨_, earlier⟩
      · cases split
        exact referring
      · obtain ⟨rfl, rest⟩ := List.cons.inj split
        have holds := hold head List.mem_cons_self
        exact ih (head.refers referring holds) rest fun former member =>
          hold former (List.mem_cons_of_mem _ member)

/-- A step starts with the machine that the step before it leaves. -/
theorem Walk.before_eq {between : Bool → Bool → Prop} {fuel position : Nat} {machine machine' : Machine}
    {running running' : Bool} {steps : List (Step scope program)} {passed : List (Exchange Bool)}
    {r : Except Fault Outcome}
    (walk : Walk scope program between fuel position machine running steps passed r machine' running')
    {earlier later : List (Step scope program)} {former step : Step scope program}
    (split : steps = earlier ++ former :: step :: later) : step.before = former.after := by
  induction walk generalizing earlier with
  | exhausted => simp at split
  | ended found course => simp at split
  | cancelled found => simp at split
  | failed only leads => rcases earlier with _ | ⟨_, _⟩ <;> simp at split
  | returned only leads course => rcases earlier with _ | ⟨_, _⟩ <;> simp at split
  | onward head leads flag walk ih =>
      rcases earlier with _ | ⟨_, earlier⟩
      · obtain ⟨rfl, rfl⟩ := List.cons.inj split
        generalize head.after = machine at walk
        cases walk with
        | failed _ _ => rfl
        | returned _ _ _ => rfl
        | onward _ _ _ _ => rfl
      · exact ih (List.cons.inj split).2

end Steps

namespace Interpreter

variable {interpreter : Interpreter} {fuel : Nat} {frame : Frame}

/-- What is known of the variables of reference types before a step that some others precede. -/
structure RefersUntilSlip {scope : Scope} {program : Program} (earlier : List (Step scope program))
    (step : Step scope program) : Prop where
  /-- A variable that was declared with the name of no primitive type is there, with the kind of
  references. -/
  declared : ∀ former ∈ earlier, ∀ name typeName flow, former.instruction = .createInternal name typeName →
    former.result = .ok flow → Kind.ofPrimitiveName? typeName = none →
    ∃ held type, step.before.internals.get? name = some held ∧ held.kind = .object ∧
      held.type = some type
  /-- There are no others of this kind. -/
  known : ∀ name held, step.before.internals.get? name = some held → held.kind = .object →
    ∃ former ∈ earlier, ∃ typeName, former.instruction = .createInternal name typeName ∧
      Kind.ofPrimitiveName? typeName = none
  /-- They hold handles or `null` as long as no step slips. -/
  holds : (∀ former ∈ earlier, ¬ former.Slips) → step.before.internals.Referring
  /-- When a step has just slipped, one of them does not. -/
  slipped : ∀ former ∈ earlier.getLast?, former.Slips → ¬ step.before.internals.Referring

theorem Ran.refersUntilSlip {between : Bool → Bool → Prop} {passed : List (Exchange Bool)}
    {outcome : Outcome} {left : Interpreter}
    {earlier later : List (Step ⟨frame, interpreter.settings⟩ interpreter.program)}
    {step : Step ⟨frame, interpreter.settings⟩ interpreter.program}
    (ran : interpreter.Ran between fuel frame (earlier ++ step :: later) passed outcome left) :
    RefersUntilSlip earlier step := by
  have declaredBy := ran.asDeclared.declaredBy
  obtain ⟨walk⟩ := ran
  constructor
  · intro former member name typeName flow declaring succeeds reference
    obtain ⟨declared, held, declares, found, suits⟩ :=
      declaredBy.stays former member name typeName flow declaring succeeds
    have named := Resolution.declared_course declares.resolves
    rw [reference] at named
    obtain ⟨type, rfl⟩ := named
    exact ⟨held, type, found, suits.1, suits.2⟩
  · intro name held found object
    obtain ⟨former, member, typeName, declared, declares, suits⟩ := declaredBy.known name held found
    refine ⟨former, member, typeName, declares.instruction, ?_⟩
    cases named : Kind.ofPrimitiveName? typeName with
    | none => rfl
    | some kind =>
        rw [declares.of_primitive named] at suits
        exact absurd object (Evaluation.kind_ne_object suits)
  · exact walk.referring Internals.referring_empty rfl
  · intro former last slips
    obtain ⟨front, rfl⟩ := List.getLast?_eq_some_iff.mp last
    rw [walk.before_eq (by rw [List.append_assoc]; rfl)]
    exact slips.not_referring former.course

/-- Before every instruction of a run the variables of reference types hold handles or `null`, whatever the
target answers and whatever has been stored in them, unless a step has slipped; and a step that slips takes
the reference away. -/
theorem references_until_slip (interpreter : Interpreter) (fuel : Nat) (target : Target) (frame : Frame) :
    (target.isTerminated = false → ∀ passed outcome left,
      (interpreter.run fuel target frame).Course passed (outcome, left) →
      ∃ steps, interpreter.Ran Eq fuel frame steps passed outcome left ∧
        ∀ earlier step later, steps = earlier ++ step :: later → RefersUntilSlip earlier step) ∧
    ∀ between passed outcome left earlier step later,
      interpreter.Ran between fuel frame (earlier ++ step :: later) passed outcome left →
      RefersUntilSlip earlier step := by
  constructor
  · intro alive passed outcome left course
    obtain ⟨steps, ran⟩ := run_course alive course
    refine ⟨steps, ran, ?_⟩
    rintro earlier step later rfl
    exact ran.refersUntilSlip
  · intro between passed outcome left earlier step later ran
    exact ran.refersUntilSlip

end Interpreter

namespace Reference.Sample

/-- A program that compares a variable of a reference type with `null`, in a compound assignment. -/
def comparing : Interpreter where
  program := [.createInternal "r" "app.T", .pushInternal "r", .pushNull, .compoundAssign .equal, .noOp]

/-- A target in which every type is found at the first try. -/
def finding : (c : Call) → Except RemoteFailure c.Answer
  | .allTypes _ => .ok [⟨7⟩]
  | .newString _ => .ok (.string ⟨2⟩)
  | .invokeStatic .. => .ok (.object ⟨70⟩)
  | _ => .error .disconnected

/-- A step of a program in this target. -/
def step (interpreter : Interpreter) (position : Nat) (instruction : Instruction) (before : Machine)
    (found : interpreter.program[position]? = some instruction) :
    Step ⟨⟨⟨1⟩, 0⟩, interpreter.settings⟩ interpreter.program :=
  let course := ((Evaluation.execute ⟨⟨⟨1⟩, 0⟩, interpreter.settings⟩ instruction).run.run before
    true).follow (answering finding)
  ⟨position, instruction, before, course.1, course.2.1.1, course.2.1.2, course.2.2, found,
    Dialogue.course_follow _ _⟩

def declaring := step comparing 0 (.createInternal "r" "app.T") {} rfl

def pushing := step comparing 1 (.pushInternal "r") declaring.after rfl

def offering := step comparing 2 .pushNull pushing.after rfl

def storing := step comparing 3 (.compoundAssign .equal) offering.after rfl

def resting := step comparing 4 .noOp storing.after rfl

theorem ran : ∃ passed outcome left,
    (comparing.run 30 { name := "sample" } ⟨⟨1⟩, 0⟩).Course passed (outcome, left) ∧
      comparing.Ran Eq 30 ⟨⟨1⟩, 0⟩ ([declaring, pushing, offering, storing] ++ resting :: []) passed
        outcome left := by
  refine ⟨_, _, _, ?_, .intro (.onward declaring rfl rfl (.onward pushing rfl rfl
    (.onward offering rfl rfl (.onward storing rfl rfl (.onward resting rfl rfl (.ended rfl
      (Dialogue.course_follow (answering finding) _)))))))⟩
  exact Dialogue.course_follow (answering finding) (comparing.run 30 { name := "sample" } ⟨⟨1⟩, 0⟩)

/-- A program that assigns a string to the variable first. -/
def refilling : Interpreter where
  program := [.createInternal "r" "app.T", .pushInternal "r", .pushLiteral (.string "a"), .assign,
    .pushInternal "r", .pushNull, .compoundAssign .equal, .noOp]

def redeclaring := step refilling 0 (.createInternal "r" "app.T") {} rfl

def repushing := step refilling 1 (.pushInternal "r") redeclaring.after rfl

def filling := step refilling 2 (.pushLiteral (.string "a")) repushing.after rfl

def assigning := step refilling 3 .assign filling.after rfl

def reading := step refilling 4 (.pushInternal "r") assigning.after rfl

def nulling := step refilling 5 .pushNull reading.after rfl

def restoring := step refilling 6 (.compoundAssign .equal) nulling.after rfl

def ending := step refilling 7 .noOp restoring.after rfl

theorem refills : ∃ passed outcome left,
    refilling.Ran Eq 30 ⟨⟨1⟩, 0⟩ ([redeclaring, repushing, filling, assigning, reading, nulling, restoring] ++
      ending :: []) passed outcome left :=
  ⟨_, _, _, .intro (.onward redeclaring rfl rfl (.onward repushing rfl rfl (.onward filling rfl rfl
    (.onward assigning rfl rfl (.onward reading rfl rfl (.onward nulling rfl rfl (.onward restoring rfl rfl
      (.onward ending rfl rfl (.ended rfl (Dialogue.course_follow (answering finding) _))))))))))⟩

/-- Nothing slips up to the comparison: what is assigned is a string. -/
theorem steady : ∀ former ∈ [redeclaring, repushing, filling, assigning, reading, nulling],
    ¬ former.Slips := by
  have assigns : ¬ Evaluation.Slips ⟨⟨⟨1⟩, 0⟩, {}⟩ .assign assigning.before assigning.passed := by
    intro slips
    cases slips with
    | void offers _ _ => cases (Dialogue.Course.done_iff.mp offers).2
  have creates (m passed) : ¬ Evaluation.Slips ⟨⟨⟨1⟩, 0⟩, {}⟩ (.createInternal "r" "app.T") m passed := nofun
  have reads (m passed) : ¬ Evaluation.Slips ⟨⟨⟨1⟩, 0⟩, {}⟩ (.pushInternal "r") m passed := nofun
  have fills (m passed) : ¬ Evaluation.Slips ⟨⟨⟨1⟩, 0⟩, {}⟩ (.pushLiteral (.string "a")) m passed := nofun
  have offers (m passed) : ¬ Evaluation.Slips ⟨⟨⟨1⟩, 0⟩, {}⟩ .pushNull m passed := nofun
  simp only [List.forall_mem_cons, List.not_mem_nil, false_implies, implies_true, and_true]
  exact ⟨creates _ _, reads _ _, fills _ _, assigns, reads _ _, offers _ _⟩

theorem compares : restoring.Slips := by
  have held : nulling.after.internals.get? "r" = some ⟨.object, some ⟨7⟩, .string ⟨2⟩⟩ := rfl
  exact .compared (.inl rfl)
    (Dialogue.course_follow (answering finding)
      ((Evaluation.operands ⟨⟨⟨1⟩, 0⟩, {}⟩).run.run nulling.after true)) held rfl rfl rfl

end Reference.Sample

open Reference.Sample in
theorem Interpreter.references_until_slip_comparing :
    (∃ held type, reading.before.internals.get? "r" = some held ∧ held.kind = .object ∧
      held.type = some type) ∧ reading.before.internals.Referring ∧ restoring.before.internals.Referring ∧
      (restoring.before.internals.get? "r").map InternalVariable.value = some (.string ⟨2⟩) ∧
      ¬ ending.before.internals.Referring := by
  obtain ⟨passed, outcome, left, ran⟩ := refills
  have known (earlier step later) (split : [redeclaring, repushing, filling, assigning, reading, nulling,
      restoring] ++ ending :: [] = earlier ++ step :: later) : RefersUntilSlip earlier step := by
    rw [split] at ran
    exact (references_until_slip refilling 30 { name := "sample" } ⟨⟨1⟩, 0⟩).2 _ _ _ _ _ _ _ ran
  have assigned := known [redeclaring, repushing, filling, assigning] reading [nulling, restoring, ending] rfl
  have compared := known [redeclaring, repushing, filling, assigning, reading, nulling] restoring [ending] rfl
  refine ⟨assigned.declared redeclaring List.mem_cons_self "r" "app.T" .next rfl rfl rfl,
    assigned.holds fun former member => steady former (List.mem_append_left [reading, nulling] member),
    compared.holds steady, rfl, ?_⟩
  exact (known _ ending [] rfl).slipped restoring rfl compares

open Reference.Sample in
/-- A comparison with `null` puts a boolean in a variable of a reference type. -/
theorem Interpreter.reference_lost :
    ¬ ∀ (interpreter : Interpreter) fuel (target : Target) frame passed outcome left earlier
      (step : Step ⟨frame, interpreter.settings⟩ interpreter.program) later,
      target.isTerminated = false → (interpreter.run fuel target frame).Course passed (outcome, left) →
      interpreter.Ran Eq fuel frame (earlier ++ step :: later) passed outcome left →
      ∀ name held type, step.before.internals.get? name = some held → held.kind = .object →
        held.type = some type → held.value.isPrimitive = false ∧ held.value ≠ .void := by
  intro kept
  obtain ⟨passed, outcome, left, course, ran⟩ := ran
  have found : resting.before.internals.get? "r" = some ⟨.object, some ⟨7⟩, .boolean true⟩ := rfl
  cases (kept _ _ _ _ _ _ _ _ _ _ rfl course ran "r" _ _ found rfl rfl).1

end RemoteDebug
