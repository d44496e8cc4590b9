import RemoteDebug.Proofs.Composition
import RemoteDebug.Proofs.Primitive
import RemoteDebug.Proofs.Walk

/-!
Declarations of internal variables.

A variable keeps the kind and the type of its declaration, and the value of a declared primitive keeps its
kind. There are two ways to write a variable. An assignment converts to the declared kind, a compound
assignment to the kind of the value that it combines, and where there is no conversion both fail.

* `InternalVariable.Suits` is what a declaration promises, `Step.Declares` says what a step declares.
* `Evaluation.declare_course`, `assign_course` and `compoundAssign_course` tell what becomes of the internal
  variables; all other instructions spare them.
* `DeclaredBy` is the invariant of a run, `Interpreter.variables_as_declared` the statement about runs.
-/

namespace RemoteDebug

/-- The variable is as declared. -/
def InternalVariable.Suits (held : InternalVariable) : DeclaredType → Prop
  | .primitive kind => held.kind = kind ∧ held.type = none ∧ held.value.kind = kind ∧
    held.value.isPrimitive = true
  | .reference type => held.kind = .object ∧ held.type = some type

theorem InternalVariable.Suits.store {held : InternalVariable} {declared : DeclaredType} {value : Value}
    (suits : held.Suits declared)
    (fits : ∀ kind, held.Suits (.primitive kind) → value.kind = kind) :
    InternalVariable.Suits { held with value } declared := by
  cases declared with
  | reference type => exact suits
  | primitive kind =>
      have same : value.kind = kind := fits kind suits
      obtain ⟨rfl, untyped, same', primitive⟩ := suits
      refine ⟨rfl, untyped, same, ?_⟩
      rw [Value.isPrimitive, same'] at primitive
      rw [Value.isPrimitive, same]
      exact primitive

namespace Internals

variable {internals internals' : Internals} {name : String}

theorem get?_of_create {declared : InternalVariable}
    (created : internals.create name declared = .ok internals') (other : String) :
    internals'.get? other = if other = name then some declared else internals.get? other := by
  unfold create at created
  split at created
  · cases created
  · rename_i absent
    cases created
    have unknown : internals.entries.lookup name = none := by
      rw [contains, Bool.not_eq_true, Option.isSome_eq_false_iff, Option.isNone_iff_eq_none] at absent
      exact absent
    unfold get?
    dsimp only
    rw [List.lookup_append]
    by_cases same : other = name
    · subst same
      rw [if_pos rfl, unknown]
      simp
    · rw [if_neg same, List.lookup_cons, beq_eq_false_iff_ne.mpr same]
      simp

theorem get?_of_set {value : Value} (stored : internals.set name value = .ok internals')
    (other : String) : internals'.get? other =
      (internals.get? other).map fun declared =>
        if other = name then { declared with value } else declared := by
  unfold set at stored
  split at stored
  · cases stored
    unfold get?
    dsimp only
    induction internals.entries with
    | nil => rfl
    | cons entry entries ih =>
        obtain ⟨n, declared⟩ := entry
        rw [List.map_cons, List.lookup_cons, List.lookup_cons]
        cases same : other == n with
        | true =>
            cases eq_of_beq same
            rfl
        | false => exact ih
  · cases stored

theorem get_of_get? {held : InternalVariable} (found : internals.get? name = some held) :
    internals.get name = .ok held := by
  rw [get, found]

end Internals

/-! ### Declarations -/

/-- The names of primitive types stand for primitive kinds, and for `void`. -/
theorem Kind.default?_of_primitiveName {name : String} {kind : Kind} {value : Value}
    (named : ofPrimitiveName? name = some kind) (zero : Value.default? kind = some value) :
    value.kind = kind ∧ value.isPrimitive = true := by
  unfold ofPrimitiveName? at named
  split at named <;> cases named <;> cases zero <;> exact ⟨rfl, rfl⟩

/-- A primitive type is known by its name, any other type is looked for in the target. -/
theorem Resolution.declared_course {resolution : Resolution} {name : String} {s t : Bool}
    {passed : List (Exchange Bool)} {declared : DeclaredType}
    (course : (resolution.declared name).run.Course s passed (.ok declared) t) :
    match Kind.ofPrimitiveName? name with
    | some kind => declared = .primitive kind
    | none => ∃ type, declared = .reference type := by
  unfold Resolution.declared at course
  split at course
  · cases (Operation.Course.run_throw_iff.mp course).2.1
  · rename_i kind _ named
    rw [named]
    cases (Operation.Course.run_pure_iff.mp course).2.1
    rfl
  · rename_i named
    rw [named]
    rcases Operation.Course.run_bind_iff.mp course with ⟨_, -, impossible⟩ | ⟨type, _, _, _, -, ends, -⟩
    · cases impossible
    · cases (Operation.Course.run_pure_iff.mp ends).2.1
      exact ⟨type, rfl⟩

/-- A variable of a primitive type starts with a value of its kind. -/
theorem Resolution.default_suits {resolution : Resolution} {name : String} {s t : Bool}
    {passed : List (Exchange Bool)} {kind : Kind} {value : Value}
    (course : (resolution.declared name).run.Course s passed (.ok (.primitive kind)) t)
    (zero : Value.default? kind = some value) :
    InternalVariable.Suits ⟨kind, none, value⟩ (.primitive kind) := by
  have named := declared_course course
  cases known : Kind.ofPrimitiveName? name with
  | none =>
      rw [known] at named
      obtain ⟨type, impossible⟩ := named
      cases impossible
  | some kind' =>
      rw [known] at named
      cases named
      obtain ⟨same, primitive⟩ := Kind.default?_of_primitiveName known zero
      exact ⟨rfl, rfl, same, primitive⟩

namespace Evaluation

variable {scope : Scope} {m m' : Machine} {s t : Bool} {passed : List (Exchange Bool)}

/-- When internal variables are replaced, the rest of the machine stays as it is. -/
theorem replace_machine {x : Internals → Except Fault Internals} {r : Except Fault Unit}
    (course : Course (do
      let internals ← compute (x (← get).internals)
      modify fun m => { m with internals }) m s passed r m' t) :
    passed = [] ∧ t = s ∧ ((∃ fault, x m.internals = .error fault ∧ r = .error fault ∧ m' = m) ∨
      ∃ internals, x m.internals = .ok internals ∧ r = .ok () ∧ m' = { m with internals }) := by
  have computes := get_bind_iff.mp course
  rcases bind_iff.mp computes with ⟨fault, fails, rfl⟩ | ⟨internals, _, _, _, _, goes, changes, rfl⟩
  · obtain ⟨rfl, same, rfl, rfl⟩ := compute_iff.mp fails
    exact ⟨rfl, rfl, .inl ⟨fault, same.symm, rfl, rfl⟩⟩
  · obtain ⟨rfl, same, rfl, rfl⟩ := compute_iff.mp goes
    obtain ⟨rfl, rfl, rfl, rfl⟩ := modify_iff.mp changes
    exact ⟨rfl, rfl, .inr ⟨internals, same.symm, rfl, rfl⟩⟩

/-- Some internal variables take the place of the former ones, or nothing changes. -/
theorem replace_course {x : Internals → Except Fault Internals} {r : Except Fault Unit}
    (course : Course (do
      let internals ← compute (x (← get).internals)
      modify fun m => { m with internals }) m s passed r m' t) :
    passed = [] ∧ t = s ∧ ((∃ fault, x m.internals = .error fault ∧ r = .error fault ∧ m' = m) ∨
      x m.internals = .ok m'.internals ∧ r = .ok ()) := by
  obtain ⟨rfl, rfl, fails | ⟨internals, made, rfl, rfl⟩⟩ := replace_machine course
  · exact ⟨rfl, rfl, .inl fails⟩
  · exact ⟨rfl, rfl, .inr ⟨made, rfl⟩⟩

/-- The kind of a declared primitive is not that of objects. -/
theorem kind_ne_object {held : InternalVariable} {kind : Kind} (suits : held.Suits (.primitive kind)) :
    held.kind ≠ .object := by
  obtain ⟨rfl, -, same, primitive⟩ := suits
  intro impossible
  rw [Value.isPrimitive, same, impossible] at primitive
  cases primitive

/-- What becomes of the internal variables when one is declared. -/
theorem declare_course {name typeName : String} {r : Except Fault Unit}
    (course : Course (declare scope name typeName) m s passed r m' t) :
    (∃ fault, r = .error fault ∧ m'.internals = m.internals) ∨
      r = .ok () ∧ ∃ declared held,
        (scope.resolution.declared typeName).run.Course s passed (.ok declared) t ∧
        held.Suits declared ∧ (held.kind = .object → held.value = .null) ∧
        m.internals.create name held = .ok m'.internals := by
  unfold declare at course
  rcases bind_iff.mp course with ⟨fault, fails, rfl⟩ | ⟨declared, _, u, first, second, looks, goes, rfl⟩
  · exact .inl ⟨fault, rfl, by rw [(attempt_iff.mp fails).2]⟩
  obtain ⟨looks, same⟩ := attempt_iff.mp looks
  rw [same] at goes
  have creates (held : InternalVariable) (suits : held.Suits declared)
      (starts : held.kind = .object → held.value = .null) (course : Course (do
        let internals ← compute ((← get).internals.create name held)
        modify fun m => { m with internals }) m u second r m' t) :
      (∃ fault, r = .error fault ∧ m'.internals = m.internals) ∨
        r = .ok () ∧ ∃ declared held,
          (scope.resolution.declared typeName).run.Course s (first ++ second) (.ok declared) t ∧
          held.Suits declared ∧ (held.kind = .object → held.value = .null) ∧
          m.internals.create name held = .ok m'.internals := by
    obtain ⟨rfl, rfl, ⟨fault, -, rfl, rfl⟩ | ⟨created, rfl⟩⟩ :=
      replace_course (x := (·.create name held)) course
    · exact .inl ⟨fault, rfl, rfl⟩
    · rw [List.append_nil]
      exact .inr ⟨rfl, declared, held, looks, suits, starts, created⟩
  cases declared with
  | reference type => exact creates _ ⟨rfl, rfl⟩ (fun _ => rfl) goes
  | primitive kind =>
      dsimp only at goes
      cases zero : Value.default? kind with
      | none =>
          rw [zero] at goes
          rcases bind_iff.mp goes with ⟨fault, fails, rfl⟩ | ⟨_, _, _, _, _, fails, -, -⟩
          · exact .inl ⟨fault, rfl, by rw [(throw_iff.mp fails).2.2.1]⟩
          · cases (throw_iff.mp fails).2.1
      | some value =>
          rw [zero] at goes
          have suits := Resolution.default_suits looks zero
          exact creates ⟨kind, none, value⟩ suits (fun object => absurd object (kind_ne_object suits)) goes

/-! ### Assignments -/

/-- What an assignment starts with: the value to store and the variable below it. -/
def operands (scope : Scope) : Evaluation (Value × Variable) := do
  let value ← popValue scope
  let place ← popVariable
  return (value, place)

/-- What a compound assignment starts with: the combined value, the variable and its former value. -/
def combined (scope : Scope) (op : BinaryOp) : Evaluation (Value × Variable × Value) := do
  let (operand, place) ← operands scope
  let current ← readVariable scope place
  let result ← binary scope op current operand
  return (result, place, current)

/-- The value that an assignment or a compound assignment is about to store, and the variable. -/
def offered (scope : Scope) : Instruction → Evaluation (Value × Variable)
  | .compoundAssign op => do
    let (value, place, _) ← combined scope op
    return (value, place)
  | _ => operands scope

/-- A combined value in the kind of the primitive that it replaces. -/
def adapted (current value : Value) : Evaluation Value :=
  if current.isPrimitive then compute (convertTo value current.kind) else pure value

/-- The end of both: the value goes into the variable and onto the stack. -/
def store (scope : Scope) (place : Variable) (value : Value) : Evaluation Unit := do
  writeVariable scope place value
  pushValue value

theorem assign_eq : assign scope = (do
    let (value, place) ← operands scope
    store scope place (← assigned scope place value)) := by
  simp only [assign, operands, store, bind_assoc, pure_bind]

theorem compoundAssign_eq (op : BinaryOp) : compoundAssign scope op = (do
    let (result, place, current) ← combined scope op
    store scope place (← adapted current result)) := by
  simp only [compoundAssign, combined, operands, bind_assoc, pure_bind]
  refine bind_congr fun operand => bind_congr fun place => bind_congr fun current =>
    bind_congr fun result => ?_
  unfold adapted
  split <;> rfl

theorem operands_spares : Composed scope Machine.Spares (operands scope) :=
  (popValue_spares scope).bind fun _ => (popVariable_spares scope).bind fun _ => .pure _

theorem combined_spares (op : BinaryOp) : Composed scope Machine.Spares (combined scope op) :=
  operands_spares.bind fun (_, place) => (readVariable_spares scope place).bind fun _ =>
    (binary_spares scope op _ _).bind fun _ => .pure _

theorem readVariable_of_internal {name : String} {held : InternalVariable} {r : Except Fault Value}
    (found : m.internals.get? name = some held)
    (course : Course (readVariable scope (.internal name)) m s passed r m' t) :
    passed = [] ∧ r = .ok held.value ∧ m' = m ∧ t = s := by
  have reads := get_bind_iff.mp course
  rw [Internals.get_of_get? found, compute, pure_bind] at reads
  exact pure_iff.mp reads

/-- The former value of an internal variable is the one that the variable holds. -/
theorem combined_current {op : BinaryOp} {name : String} {value current : Value} {held : InternalVariable}
    (found : m.internals.get? name = some held)
    (course : Course (combined scope op) m s passed (.ok (value, .internal name, current)) m' t) :
    current = held.value := by
  rcases bind_iff.mp course with ⟨_, -, impossible⟩ | ⟨⟨operand, place⟩, u, _, _, _, begins, goes, -⟩
  · cases impossible
  rcases bind_iff.mp goes with ⟨_, -, impossible⟩ | ⟨former, _, _, _, _, reads, goes, -⟩
  · cases impossible
  rcases bind_iff.mp goes with ⟨_, -, impossible⟩ | ⟨result, _, _, _, _, -, ends, -⟩
  · cases impossible
  cases (pure_iff.mp ends).2.1
  rw [← operands_spares.spares begins] at found
  cases (readVariable_of_internal found reads).2.1
  rfl

/-- A value is stored in an internal variable, or the internal variables stay as they are. -/
theorem store_course {place : Variable} {value : Value} {r : Except Fault Unit}
    (course : Course (store scope place value) m s passed r m' t) :
    m'.internals = m.internals ∨
      ∃ name, place = .internal name ∧ m.internals.set name value = .ok m'.internals := by
  have pushes : Composed scope Machine.Spares (pushValue value) := push_spares scope _
  cases place with
  | internal name =>
      rcases bind_iff.mp course with ⟨fault, fails, rfl⟩ | ⟨_, u, _, _, _, writes, goes, rfl⟩
      · obtain ⟨-, -, ⟨_, -, -, rfl⟩ | ⟨-, impossible⟩⟩ := replace_course (x := (·.set name value)) fails
        · exact .inl rfl
        · cases impossible
      · obtain ⟨-, -, ⟨_, -, impossible, -⟩ | ⟨stored, -⟩⟩ :=
          replace_course (x := (·.set name value)) writes
        · cases impossible
        · rw [pushes.spares goes]
          exact .inr ⟨name, rfl, stored⟩
  | frameLocal name => exact .inl (Composed.spares (.bind (.call _) fun _ => pushes) course)
  | field object name => exact .inl (Composed.spares (.bind (.call _) fun _ => pushes) course)
  | staticField type name => exact .inl (Composed.spares (.bind (.call _) fun _ => pushes) course)
  | element array index => exact .inl (Composed.spares (.bind (.call _) fun _ => pushes) course)

/-- A declared primitive takes a value of its kind: an assignment converts to the declared kind. -/
theorem assigned_of_primitive {name : String} {value : Value} {kind : Kind} {held : InternalVariable}
    {r : Except Fault Value} (found : m.internals.get? name = some held)
    (suits : held.Suits (.primitive kind))
    (course : Course (assigned scope (.internal name) value) m s passed r m' t) :
    passed = [] ∧ r = convertTo value kind ∧ m' = m ∧ t = s := by
  have goes := get_bind_iff.mp course
  rw [Internals.get_of_get? found, compute, pure_bind] at goes
  dsimp only at goes
  rw [if_neg (kind_ne_object suits), suits.1] at goes
  exact compute_iff.mp goes

/-- A compound assignment converts to the kind of the former value, which is the declared one. -/
theorem adapted_of_primitive {value : Value} {kind : Kind} {held : InternalVariable}
    {r : Except Fault Value} (suits : held.Suits (.primitive kind))
    (course : Course (adapted held.value value) m s passed r m' t) :
    passed = [] ∧ r = convertTo value kind ∧ m' = m ∧ t = s := by
  rw [adapted, if_pos suits.2.2.2, suits.2.2.1] at course
  exact compute_iff.mp course

/-- The internal variables stay as they are, or one takes a value, and a primitive one of its kind. -/
def Stores (m m' : Machine) : Prop :=
  m'.internals = m.internals ∨ ∃ name value, m.internals.set name value = .ok m'.internals ∧
    ∀ held kind, m.internals.get? name = some held → held.Suits (.primitive kind) → value.kind = kind

theorem Stores.of_spared {u : Machine} (spared : u.internals = m.internals) (stores : Stores u m') :
    Stores m m' := by
  unfold Stores at stores ⊢
  rw [spared] at stores
  exact stores

/-- What is stored has been converted before, and that spares the internal variables. -/
theorem stores_of_converted {x : Evaluation Value} (value : Value) {place : Variable}
    {r : Except Fault Unit} (spares : Composed scope Machine.Spares x)
    (fits : ∀ name held kind passed r m' t, place = .internal name →
      m.internals.get? name = some held → held.Suits (.primitive kind) →
      Course x m s passed r m' t → r = convertTo value kind)
    (course : Course (do store scope place (← x)) m s passed r m' t) : Stores m m' := by
  rcases bind_iff.mp course with ⟨fault, converts, rfl⟩ | ⟨stored, u, _, _, _, converts, ends, rfl⟩
  · exact .inl (spares.spares converts)
  have same := spares.spares converts
  rcases store_course ends with unchanged | ⟨name, rfl, sets⟩
  · exact .inl (unchanged.trans same)
  · rw [same] at sets
    refine .inr ⟨name, stored, sets, fun held kind found suits => ?_⟩
    exact Value.kind_of_convert (eq_some_of_elim_ok (fits _ _ _ _ _ _ _ rfl found suits converts).symm)

theorem assign_course {r : Except Fault Unit} (course : Course (assign scope) m s passed r m' t) :
    Stores m m' := by
  rw [assign_eq] at course
  rcases bind_iff.mp course with ⟨fault, begins, rfl⟩ | ⟨⟨value, place⟩, u, _, _, _, begins, goes, rfl⟩
  · exact .inl (operands_spares.spares begins)
  have same := operands_spares.spares begins
  refine .of_spared same (stores_of_converted value (assigned_spares scope place value) ?_ goes)
  rintro name held kind _ _ _ _ rfl found suits converts
  exact (assigned_of_primitive found suits converts).2.1

theorem adapted_spares (current value : Value) :
    Composed scope Machine.Spares (adapted current value) := by
  unfold adapted
  split
  · exact .elim rfl
  · exact .pure _

theorem compoundAssign_course {op : BinaryOp} {r : Except Fault Unit}
    (course : Course (compoundAssign scope op) m s passed r m' t) : Stores m m' := by
  rw [compoundAssign_eq] at course
  rcases bind_iff.mp course with
    ⟨fault, begins, rfl⟩ | ⟨⟨value, place, current⟩, u, _, _, _, begins, goes, rfl⟩
  · exact .inl ((combined_spares op).spares begins)
  have same := (combined_spares op).spares begins
  refine .of_spared same (stores_of_converted value (adapted_spares current value) ?_ goes)
  rintro name held kind _ _ _ _ rfl found suits converts
  rw [same] at found
  rw [combined_current found begins] at converts
  exact (adapted_of_primitive suits converts).2.1

/-! ### Values that cannot be converted -/

/-- A value that cannot be converted is not stored. -/
theorem refused_of_converted {x : Evaluation Value} {value : Value} {place : Variable} {kind : Kind}
    {r : Except Fault Unit}
    (converts : ∀ passed r m' t, Course x m s passed r m' t →
      passed = [] ∧ r = convertTo value kind ∧ m' = m ∧ t = s)
    (inconvertible : value.convert kind = none)
    (course : Course (do store scope place (← x)) m s passed r m' t) :
    passed = [] ∧ r = .error (.invalidCast value.kind kind.name) ∧ m' = m := by
  have refuses : convertTo value kind = .error (.invalidCast value.kind kind.name) := by
    rw [convertTo, inconvertible]
    rfl
  rcases bind_iff.mp course with ⟨fault, fails, rfl⟩ | ⟨stored, _, _, _, _, goes, -, -⟩
  · obtain ⟨rfl, same, rfl, -⟩ := converts _ _ _ _ fails
    rw [refuses] at same
    cases same
    exact ⟨rfl, rfl, rfl⟩
  · have same := (converts _ _ _ _ goes).2.1
    rw [refuses] at same
    cases same

theorem next_course {x : Evaluation Unit} {r : Except Fault Flow}
    (course : Course (do x; return Flow.next) m s passed r m' t) :
    ∃ found, Course x m s passed found m' t ∧ r = found.map fun _ => .next := by
  rcases bind_iff.mp course with ⟨fault, fails, rfl⟩ | ⟨_, _, _, first, _, goes, ends, rfl⟩
  · exact ⟨_, fails, rfl⟩
  · obtain ⟨rfl, rfl, rfl, rfl⟩ := pure_iff.mp ends
    rw [List.append_nil]
    exact ⟨_, goes, rfl⟩

/-- Where there is no conversion to the kind of the variable, the instruction fails, and the variable keeps
its value. -/
theorem refused_of_offered {instruction : Instruction} {name : String} {value : Value} {kind : Kind}
    {held : InternalVariable} {r : Except Fault Flow} {prior rest : List (Exchange Bool)} {u : Machine}
    {v : Bool} (stores : instruction = .assign ∨ ∃ op, instruction = .compoundAssign op)
    (offers : Course (offered scope instruction) m s prior (.ok (value, .internal name)) u v)
    (found : m.internals.get? name = some held) (suits : held.Suits (.primitive kind))
    (inconvertible : value.convert kind = none)
    (course : Course (execute scope instruction) m s (prior ++ rest) r m' t) :
    r = .error (.invalidCast value.kind kind.name) ∧ m'.internals = m.internals := by
  rcases stores with rfl | ⟨op, rfl⟩
  · obtain ⟨ended, assigns, rfl⟩ := next_course course
    rw [assign_eq] at assigns
    have same := operands_spares.spares offers
    have foundThen := found
    rw [← same] at foundThen
    obtain ⟨-, rfl, rfl⟩ := refused_of_converted
      (fun _ _ _ _ => assigned_of_primitive foundThen suits) inconvertible (offers.tail assigns)
    exact ⟨rfl, same⟩
  · obtain ⟨ended, assigns, rfl⟩ := next_course course
    rw [compoundAssign_eq] at assigns
    rcases bind_iff.mp offers with ⟨_, -, impossible⟩ | ⟨⟨_, _, current⟩, _, _, _, _, begins, ends, rfl⟩
    · cases impossible
    · obtain ⟨rfl, same, rfl, rfl⟩ := pure_iff.mp ends
      cases same
      rw [List.append_nil] at assigns
      have goes := begins.tail assigns
      rw [combined_current found begins] at goes
      obtain ⟨-, rfl, rfl⟩ := refused_of_converted
        (fun _ _ _ _ => adapted_of_primitive suits) inconvertible goes
      exact ⟨rfl, (combined_spares op).spares begins⟩

end Evaluation

/-! ### Steps -/

section Steps

variable {scope : Scope} {program : Program}

/-- The step declares a variable, and the name of its type stands for `declared`. -/
structure Step.Declares (step : Step scope program) (name typeName : String) (declared : DeclaredType) :
    Prop where
  instruction : step.instruction = .createInternal name typeName
  succeeds : step.result = .ok .next
  resolves : (scope.resolution.declared typeName).run.Course true step.passed (.ok declared) step.running

theorem Step.Declares.of_primitive {step : Step scope program} {name typeName : String}
    {declared : DeclaredType} {kind : Kind} (declares : step.Declares name typeName declared)
    (primitive : Kind.ofPrimitiveName? typeName = some kind) : declared = .primitive kind := by
  have named := Resolution.declared_course declares.resolves
  rw [primitive] at named
  exact named

/-- What a step does to the internal variables. -/
inductive Step.Touches (step : Step scope program) : Prop where
  | spared : step.after.internals = step.before.internals →
      (∀ name typeName flow, step.instruction = .createInternal name typeName →
        step.result ≠ .ok flow) → Touches step
  | declared {name typeName : String} {declared : DeclaredType} {held : InternalVariable} :
      step.Declares name typeName declared → held.Suits declared →
      step.before.internals.create name held = .ok step.after.internals → Touches step
  | stored {name : String} {value : Value} :
      (∀ name typeName, step.instruction ≠ .createInternal name typeName) →
      step.before.internals.set name value = .ok step.after.internals →
      (∀ held kind, step.before.internals.get? name = some held → held.Suits (.primitive kind) →
        value.kind = kind) → Touches step

theorem Step.touches (step : Step scope program) : step.Touches := by
  obtain ⟨position, instruction, before, passed, result, after, running, found, course⟩ := step
  have of_stores (other : ∀ name typeName, instruction ≠ .createInternal name typeName)
      (stores : Evaluation.Stores before after) :
      Touches (⟨position, instruction, before, passed, result, after, running, found, course⟩ :
        Step scope program) := by
    rcases stores with spared | ⟨name, value, stored, fits⟩
    · exact .spared spared fun name typeName _ same => absurd same (other name typeName)
    · exact .stored other stored fits
  cases instruction with
  | createInternal name typeName =>
      obtain ⟨declaring, declares, rfl⟩ := Evaluation.next_course course
      rcases Evaluation.declare_course declares with
        ⟨fault, rfl, spared⟩ | ⟨rfl, declared, held, resolves, suits, -, created⟩
      · exact .spared spared nofun
      · exact .declared ⟨rfl, rfl, resolves⟩ suits created
  | assign =>
      obtain ⟨_, assigns, -⟩ := Evaluation.next_course course
      exact of_stores nofun (Evaluation.assign_course assigns)
  | compoundAssign op =>
      obtain ⟨_, assigns, -⟩ := Evaluation.next_course course
      exact of_stores nofun (Evaluation.compoundAssign_course assigns)
  | _ => exact of_stores nofun (.inl ((Evaluation.execute_spares scope _ rfl).spares course))

/-- The internal variables are those that some steps declared, and each is as it was declared. -/
structure DeclaredBy (earlier : List (Step scope program)) (internals : Internals) : Prop where
  /-- Every variable was declared. -/
  known : ∀ name held, internals.get? name = some held → ∃ step ∈ earlier, ∃ typeName declared,
    step.Declares name typeName declared ∧ held.Suits declared
  /-- Whatever was declared is still there. -/
  stays : ∀ step ∈ earlier, ∀ name typeName flow, step.instruction = .createInternal name typeName →
    step.result = .ok flow → ∃ declared held, step.Declares name typeName declared ∧
      internals.get? name = some held ∧ held.Suits declared

namespace DeclaredBy

variable {earlier : List (Step scope program)} {internals internals' : Internals}

theorem nil : DeclaredBy ([] : List (Step scope program)) {} where
  known _ _ found := nomatch found
  stays _ member := nomatch member

/-- Storing a value keeps a variable as it was declared. -/
theorem set (declaredBy : DeclaredBy earlier internals) {name : String} {value : Value}
    (stored : internals.set name value = .ok internals')
    (fits : ∀ held kind, internals.get? name = some held → held.Suits (.primitive kind) →
      value.kind = kind) : DeclaredBy earlier internals' := by
  have suits {other : String} {held : InternalVariable} {declared : DeclaredType}
      (found : internals.get? other = some held) (suits : held.Suits declared) :
      InternalVariable.Suits (if other = name then { held with value } else held) declared := by
    split
    · rename_i same
      rw [same] at found
      exact suits.store fun kind => fits held kind found
    · exact suits
  constructor
  · intro other held found
    rw [Internals.get?_of_set stored] at found
    obtain ⟨former, known, rfl⟩ := Option.map_eq_some_iff.mp found
    obtain ⟨step, member, typeName, declared, declares, suited⟩ := declaredBy.known other former known
    exact ⟨step, member, typeName, declared, declares, suits known suited⟩
  · intro step member other typeName flow declaring succeeds
    obtain ⟨declared, held, declares, known, suited⟩ :=
      declaredBy.stays step member other typeName flow declaring succeeds
    refine ⟨declared, _, declares, ?_, suits known suited⟩
    rw [Internals.get?_of_set stored, known]
    rfl

/-- A step that is no declaration adds nothing to the declarations. -/
theorem other {step : Step scope program} (declaredBy : DeclaredBy earlier internals)
    (other : ∀ name typeName flow, step.instruction = .createInternal name typeName →
      step.result ≠ .ok flow) : DeclaredBy (earlier ++ [step]) internals := by
  constructor
  · intro name held found
    obtain ⟨former, member, declares⟩ := declaredBy.known name held found
    exact ⟨former, List.mem_append_left _ member, declares⟩
  · intro former member name typeName flow declaring succeeds
    rcases List.mem_append.mp member with member | member
    · exact declaredBy.stays former member name typeName flow declaring succeeds
    · cases List.mem_singleton.mp member
      exact absurd succeeds (other name typeName flow declaring)

/-- A declaration adds a variable, and the others stay as they are. -/
theorem create {step : Step scope program} (declaredBy : DeclaredBy earlier internals)
    {name typeName : String} {declared : DeclaredType} {held : InternalVariable}
    (declares : step.Declares name typeName declared) (suits : held.Suits declared)
    (created : internals.create name held = .ok internals') :
    DeclaredBy (earlier ++ [step]) internals' := by
  constructor
  · intro other former found
    rw [Internals.get?_of_create created] at found
    split at found
    · rename_i same
      cases found
      rw [same]
      exact ⟨step, List.mem_append_right _ List.mem_cons_self, typeName, declared, declares, suits⟩
    · obtain ⟨earlierStep, member, declared⟩ := declaredBy.known other former found
      exact ⟨earlierStep, List.mem_append_left _ member, declared⟩
  · intro former member other typeName' flow declaring succeeds
    rcases List.mem_append.mp member with member | member
    · obtain ⟨declared', held', declares', known, suits'⟩ :=
        declaredBy.stays former member other typeName' flow declaring succeeds
      refine ⟨declared', held', declares', ?_, suits'⟩
      have distinct : other ≠ name := by
        rintro rfl
        rw [Internals.create, Internals.contains, known] at created
        cases created
      rw [Internals.get?_of_create created, if_neg distinct]
      exact known
    · cases List.mem_singleton.mp member
      cases declares.instruction.symm.trans declaring
      refine ⟨declared, held, declares, ?_, suits⟩
      rw [Internals.get?_of_create created, if_pos rfl]

/-- What one step preserves. -/
theorem step {step : Step scope program} (declaredBy : DeclaredBy earlier step.before.internals) :
    DeclaredBy (earlier ++ [step]) step.after.internals := by
  cases step.touches with
  | spared same other =>
      rw [same]
      exact declaredBy.other other
  | declared declares suits created => exact declaredBy.create declares suits created
  | stored other stored fits =>
      exact (declaredBy.set stored fits).other fun name typeName _ same =>
        absurd same (other name typeName)

end DeclaredBy

/-- What a whole walk preserves. -/
theorem Walk.declaredBy {between : Bool → Bool → Prop} {fuel position : Nat}
    {machine machine' : Machine} {running running' : Bool} {steps former : List (Step scope program)}
    {passed : List (Exchange Bool)} {r : Except Fault Outcome}
    (walk : Walk scope program between fuel position machine running steps passed r machine' running')
    (declaredBy : DeclaredBy former machine.internals) :
    ∀ earlier step later, steps = earlier ++ step :: later →
      DeclaredBy (former ++ earlier) step.before.internals := by
  induction walk generalizing former with
  | exhausted => simp
  | ended found course => simp
  | cancelled found => simp
  | failed only leads =>
      intro earlier step later split
      obtain ⟨rfl, same⟩ := List.append_eq_singleton_iff.mp split.symm |>.resolve_right (by simp)
      cases same
      rwa [List.append_nil]
  | returned only leads course =>
      intro earlier step later split
      obtain ⟨rfl, same⟩ := List.append_eq_singleton_iff.mp split.symm |>.resolve_right (by simp)
      cases same
      rwa [List.append_nil]
  | onward head leads flag walk ih =>
      intro earlier step later split
      rcases earlier with _ | ⟨_, earlier⟩
      · cases split
        rwa [List.append_nil]
      · obtain ⟨rfl, rest⟩ := List.cons.inj split
        have declared := ih declaredBy.step earlier step later rest
        rw [List.append_assoc] at declared
        exact declared

end Steps

/-! ### Runs -/

namespace Interpreter

variable {interpreter : Interpreter} {fuel : Nat} {frame : Frame}

/-- What is known of the internal variables before an instruction that some steps precede. -/
structure AsDeclared {scope : Scope} {program : Program} (earlier : List (Step scope program))
    (step : Step scope program) : Prop where
  /-- Each variable was declared by a step, and has the kind and the type that it was declared with. -/
  declaredBy : DeclaredBy earlier step.before.internals
  /-- A variable that was declared with the name of a primitive type holds a value of this kind. -/
  primitive : ∀ former ∈ earlier, ∀ name typeName flow kind,
    former.instruction = .createInternal name typeName → former.result = .ok flow →
    Kind.ofPrimitiveName? typeName = some kind →
    ∃ held, step.before.internals.get? name = some held ∧ held.kind = kind ∧ held.type = none ∧
      held.value.kind = kind
  /-- An assignment or a compound assignment of a value that cannot be converted fails. -/
  refused : step.instruction = .assign ∨ (∃ op, step.instruction = .compoundAssign op) →
    ∀ prior rest value name machine running held kind,
      (Evaluation.offered scope step.instruction).Course step.before true prior
        (.ok (value, .internal name)) machine running → step.passed = prior ++ rest →
      step.before.internals.get? name = some held → held.Suits (.primitive kind) →
      value.convert kind = none →
      step.result = .error (.invalidCast value.kind kind.name) ∧
        step.after.internals = step.before.internals

theorem Ran.asDeclared {between : Bool → Bool → Prop} {passed : List (Exchange Bool)}
    {outcome : Outcome} {left : Interpreter}
    {earlier later : List (Step ⟨frame, interpreter.settings⟩ interpreter.program)}
    {step : Step ⟨frame, interpreter.settings⟩ interpreter.program}
    (ran : interpreter.Ran between fuel frame (earlier ++ step :: later) passed outcome left) :
    AsDeclared earlier step := by
  obtain ⟨walk⟩ := ran
  have declaredBy : DeclaredBy earlier step.before.internals :=
    walk.declaredBy .nil earlier step later rfl
  refine ⟨declaredBy, ?_, ?_⟩
  · intro former member name typeName flow kind declaring succeeds primitive
    obtain ⟨declared, held, declares, found, suits⟩ :=
      declaredBy.stays former member name typeName flow declaring succeeds
    rw [declares.of_primitive primitive] at suits
    obtain ⟨same, untyped, same', -⟩ := suits
    exact ⟨held, found, same, untyped, same'⟩
  · intro stores prior rest value name machine running held kind offers passes found suits inconvertible
    have course := step.course
    rw [passes] at course
    exact Evaluation.refused_of_offered stores offers found suits inconvertible course

/-- Before every instruction of a run the internal variables are as they were declared, whatever the target
answers and whatever has been stored in them. -/
theorem variables_as_declared (interpreter : Interpreter) (fuel : Nat) (target : Target) (frame : Frame) :
    (target.isTerminated = false → ∀ passed outcome left,
      (interpreter.run fuel target frame).Course passed (outcome, left) →
      ∃ steps, interpreter.Ran Eq fuel frame steps passed outcome left ∧
        ∀ earlier step later, steps = earlier ++ step :: later → AsDeclared earlier step) ∧
    ∀ between passed outcome left earlier step later,
      interpreter.Ran between fuel frame (earlier ++ step :: later) passed outcome left →
      AsDeclared earlier step := by
  constructor
  · intro alive passed outcome left course
    obtain ⟨steps, ran⟩ := run_course alive course
    refine ⟨steps, ran, ?_⟩
    rintro earlier step later rfl
    exact ran.asDeclared
  · intro between passed outcome left earlier step later ran
    exact ran.asDeclared

end Interpreter

namespace Declaration.Sample

/-- A program that tries to store a boolean in a variable of another type. -/
def storing : Interpreter where
  program := [.createInternal "i" "byte", .pushInternal "i", .pushLiteral (.boolean true), .assign]

/-- A step of the program; no instruction of it makes a call. -/
def step (position : Nat) (instruction : Instruction) (before : Machine)
    (found : storing.program[position]? = some instruction) : Step ⟨⟨⟨1⟩, 0⟩, {}⟩ storing.program :=
  let course := ((Evaluation.execute ⟨⟨⟨1⟩, 0⟩, {}⟩ instruction).run.run before true).follow
    (answering fun _ => .error .disconnected)
  ⟨position, instruction, before, course.1, course.2.1.1, course.2.1.2, course.2.2, found,
    Dialogue.course_follow _ _⟩

def declaring := step 0 (.createInternal "i" "byte") {} rfl

def pushing := step 1 (.pushInternal "i") declaring.after rfl

def offering := step 2 (.pushLiteral (.boolean true)) pushing.after rfl

def assigning := step 3 .assign offering.after rfl

theorem fails : assigning.leads = .error (.invalidCast .boolean "byte") := rfl

theorem ran : ∃ passed outcome left, storing.Ran Eq 30 ⟨⟨1⟩, 0⟩
    ([declaring, pushing, offering] ++ assigning :: []) passed outcome left :=
  ⟨_, _, _, .intro (.onward declaring rfl rfl (.onward pushing rfl rfl (.onward offering rfl rfl
    (.failed assigning fails))))⟩

end Declaration.Sample

open Declaration.Sample in
theorem Interpreter.variables_as_declared_storing :
    ∃ held, assigning.before.internals.get? "i" = some held ∧ held.value.kind = .byte ∧
      assigning.result = .error (.invalidCast .boolean "byte") ∧
      assigning.after.internals.get? "i" = some held := by
  obtain ⟨passed, outcome, left, ran⟩ := ran
  have known := (variables_as_declared storing 30 { name := "sample" } ⟨⟨1⟩, 0⟩).2 _ _ _ _ _ _ _ ran
  obtain ⟨held, found, same, untyped, same'⟩ :=
    known.primitive declaring List.mem_cons_self "i" "byte" .next .byte rfl rfl rfl
  have offers : (Evaluation.offered ⟨⟨⟨1⟩, 0⟩, {}⟩ assigning.instruction).Course assigning.before true []
      (.ok (.boolean true, .internal "i")) _ true :=
    Dialogue.course_follow (answering fun _ => .error .disconnected) _
  have suits : held.Suits (.primitive .byte) := by
    refine ⟨same, untyped, same', ?_⟩
    rw [Value.isPrimitive, same']
    rfl
  obtain ⟨refused, kept⟩ :=
    known.refused (.inl rfl) [] [] _ _ _ _ held .byte offers rfl found suits rfl
  have after := found
  rw [← kept] at after
  exact ⟨held, found, same', refused, after⟩

end RemoteDebug
