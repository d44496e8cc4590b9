import RemoteDebug.Proofs.Cause
import RemoteDebug.Proofs.Evaluation

/-!
What evaluations are put together from.

Whatever an instruction does, it is put together from a few parts: it looks at the machine and changes it,
it calls the target, it asks the target for the types of a name, and it gives up. It never looks at the
flag, and it never makes up the failure of a call.

* `Evaluation.Composed` says so, in the order of the text of an evaluation. A law about all instructions
  then needs one lemma a part. The machine changes only as a given relation permits.
* `Evaluation.execute_spares`: all instructions but declarations and assignments leave the internal
  variables alone.
* `Evaluation.execute_composed` speaks of all instructions, `Evaluation.result_spares` of the result.
-/

namespace RemoteDebug

/-! ### Attempts at work -/

theorem Dialogue.bind_assoc {σ α β γ : Type} (d : Dialogue σ α) (f : α → Dialogue σ β)
    (g : β → Dialogue σ γ) : (d.bind f).bind g = d.bind fun a => (f a).bind g := by
  induction d with
  | done a => rfl
  | note n rest ih => exact congrArg (Dialogue.note n) (funext fun u => ih u)
  | ask q s next ih =>
      exact congrArg (Dialogue.ask q s) (funext fun reply => funext fun t => ih reply t)

theorem Dialogue.bind_done {σ α : Type} (d : Dialogue σ α) : d.bind .done = d := by
  induction d with
  | done a => rfl
  | note n rest ih => exact congrArg (Dialogue.note n) (funext fun u => ih u)
  | ask q s next ih =>
      exact congrArg (Dialogue.ask q s) (funext fun reply => funext fun t => ih reply t)

instance {σ : Type} : LawfulMonad (Operation σ) :=
  LawfulMonad.mk' _ (fun _ => funext fun _ => Dialogue.bind_done _) (fun _ _ => rfl)
    (fun _ _ _ => funext fun _ => Dialogue.bind_assoc _ _ _)

/-- The internal variables are left alone. -/
def Machine.Spares (before after : Machine) : Prop := after.internals = before.internals

/-- Instructions that may change the internal variables. -/
def Instruction.isStore : Instruction → Bool
  | .createInternal .. | .assign | .compoundAssign _ => true
  | _ => false

namespace Evaluation

variable {α β : Type}

theorem run_attempt (x : Attempt Bool α) (m : Machine) :
    (attempt x).run.run m = (x.run >>= fun r => pure (r, m) : Operation Bool _) :=
  rfl

theorem attempt_bind (x : Attempt Bool α) (f : α → Attempt Bool β) :
    attempt (x >>= f) = attempt x >>= fun a => attempt (f a) := by
  apply ExceptT.ext
  apply StateT.ext
  intro m
  rw [run_bind, run_attempt, run_attempt, ExceptT.run_bind, bind_assoc, bind_assoc]
  congr 1
  funext r
  cases r with
  | ok a => rfl
  | error fault => rfl

/-! ### Parts -/

/-- `Composed scope changes x`: the evaluation `x` is put together from parts that neither look at the flag
nor make up the failure of a call, and it changes the machine only as `changes` permits. A forced load is
a part together with the listing that follows it. -/
inductive Composed (scope : Scope) (changes : Machine → Machine → Prop) :
    {α : Type} → Evaluation α → Prop where
  | pure {α : Type} (a : α) : Composed scope changes (Pure.pure a : Evaluation α)
  | throw {α : Type} {fault : Fault} : fault.failure? = none →
      Composed scope changes (MonadExcept.throw fault : Evaluation α)
  | bind {α β : Type} {x : Evaluation α} {f : α → Evaluation β} : Composed scope changes x →
      (∀ a, Composed scope changes (f a)) → Composed scope changes (x >>= f)
  | get : Composed scope changes (MonadState.get : Evaluation Machine)
  | modify {g : Machine → Machine} : (∀ m, changes m (g m)) → Composed scope changes (modify g)
  | call (c : Call) : Composed scope changes (call c)
  | log (entry : LogEntry) : Composed scope changes (log entry)
  | survey {α : Type} (name : String) {f : Option ObjectRef → List TypeRef → Evaluation α} :
      (∀ loaded types, Composed scope changes (f loaded types)) →
      Composed scope changes (do
        let loaded ← attempt (scope.resolution.load name)
        let types ← Evaluation.call (.allTypes name)
        f loaded types)

namespace Composed

variable {scope : Scope} {changes changes' : Machine → Machine → Prop}

theorem weaken {x : Evaluation α} (composed : Composed scope changes x)
    (permits : ∀ m m', changes m m' → changes' m m') : Composed scope changes' x := by
  induction composed with
  | pure a => exact .pure a
  | throw own => exact .throw own
  | bind _ _ ihx ihf => exact .bind ihx ihf
  | get => exact .get
  | modify change => exact .modify fun m => permits _ _ (change m)
  | call c => exact .call c
  | log entry => exact .log entry
  | survey name _ ih => exact .survey name ih

/-- Composed without regard to the machine. -/
theorem free {x : Evaluation α} (composed : Composed scope changes x) :
    Composed scope (fun _ _ => True) x :=
  composed.weaken fun _ _ _ => trivial

theorem compute {x : Except Fault α} (own : ∀ {fault}, x = .error fault → fault.failure? = none) :
    Composed scope changes (Evaluation.compute x) := by
  cases x with
  | ok a => exact .pure a
  | error fault => exact .throw (own rfl)

theorem elim {found : Option α} {other : Fault} (own : other.failure? = none) :
    Composed scope changes (Evaluation.compute (found.elim (.error other) .ok)) := by
  refine compute fun failed => ?_
  rw [eq_of_elim_error failed]
  exact own

/-- What would follow a failure does not matter. -/
theorem throw_bind {fault : Fault} {f : α → Evaluation β} (own : fault.failure? = none) :
    Composed scope changes (MonadExcept.throw fault >>= f) :=
  Composed.throw own

/-- What holds of the machine before a composed evaluation holds after it, if the permitted changes keep
it. -/
theorem keeps {I : Machine → Prop} (kept : ∀ m m', changes m m' → I m → I m') {x : Evaluation α}
    (composed : Composed scope changes x) {m m' : Machine} {s t : Bool}
    {passed : List (Exchange Bool)} {r : Except Fault α} (course : Course x m s passed r m' t)
    (holds : I m) : I m' := by
  induction composed generalizing m s passed m' t with
  | pure a =>
      rw [(pure_iff.mp course).2.2.1]
      exact holds
  | throw own =>
      rw [(throw_iff.mp course).2.2.1]
      exact holds
  | bind _ _ ihx ihf =>
      rcases bind_iff.mp course with ⟨fault, head, rfl⟩ | ⟨a, u, _, _, _, head, tail, -⟩
      · exact ihx head holds
      · exact ihf a tail (ihx head holds)
  | get =>
      rw [(get_iff.mp course).2.2.1]
      exact holds
  | modify change =>
      rw [(modify_iff.mp course).2.2.1]
      exact kept _ _ (change m) holds
  | call c =>
      obtain ⟨answer, -, -, rfl⟩ := call_iff.mp course
      exact holds
  | log entry =>
      rw [(log_iff.mp course).2.2.1]
      exact holds
  | survey name _ ih =>
      rcases bind_iff.mp course with ⟨fault, loads, rfl⟩ | ⟨a, _, _, _, _, loads, rest, -⟩
      · rw [(attempt_iff.mp loads).2]
        exact holds
      · obtain ⟨-, rfl⟩ := attempt_iff.mp loads
        rcases call_bind_iff.mp rest with ⟨failure, -, -, rfl⟩ | ⟨types, _, _, goes, -⟩
        · exact holds
        · exact ih a types goes holds

/-- An evaluation whose changes all spare the internal variables spares them. -/
theorem spares {x : Evaluation α} (composed : Composed scope Machine.Spares x) {m m' : Machine}
    {s t : Bool} {passed : List (Exchange Bool)} {r : Except Fault α}
    (course : Course x m s passed r m' t) : m'.internals = m.internals := by
  refine composed.keeps (I := fun u => u.internals = m.internals) ?_ course rfl
  intro u u' spared same
  exact Eq.trans spared same

end Composed

/-! ### The parts of instructions -/

section Parts

variable (scope : Scope)

theorem resolve_spares (name : String) :
    Composed scope Machine.Spares (attempt (scope.resolution.resolve name)) := by
  have picks (classObject : ObjectRef) (candidates : List TypeRef) :
      Composed scope Machine.Spares (attempt (Resolution.pick classObject candidates)) := by
    induction candidates with
    | nil => exact .pure none
    | cons candidate rest ih =>
        rw [Resolution.pick, attempt_bind]
        refine .bind (.call _) fun found => ?_
        split
        · exact .pure _
        · exact ih
  simp only [Resolution.resolve, attempt_bind]
  refine .survey name fun loaded types => ?_
  split
  · exact .throw rfl
  · exact .pure _
  · split
    · exact .throw rfl
    · rw [attempt_bind]
      refine (picks _ _).bind fun picked => ?_
      split
      · exact .pure _
      · rw [attempt_bind]
        exact (Composed.log _).bind fun _ => .throw rfl

theorem declared_spares (name : String) :
    Composed scope Machine.Spares (attempt (scope.resolution.declared name)) := by
  unfold Resolution.declared
  split
  · exact .throw rfl
  · exact .pure _
  · rw [attempt_bind]
    exact (resolve_spares scope name).bind fun _ => .pure _

theorem classObject_spares (name : String) :
    Composed scope Machine.Spares (attempt (scope.resolution.classObject name)) := by
  simp only [Resolution.classObject, attempt_bind]
  refine (resolve_spares scope name).bind fun type => (Composed.call _).bind fun found => ?_
  split
  · exact .pure _
  · exact .throw rfl

theorem push_spares (entry : StackEntry) : Composed scope Machine.Spares (push entry) :=
  .modify fun _ => rfl

theorem pop_spares : Composed scope Machine.Spares pop := by
  refine .bind .get fun m => ?_
  split
  · exact .throw rfl
  · exact .bind (.modify fun _ => rfl) fun _ => .pure _

theorem readVariable_spares (place : Variable) :
    Composed scope Machine.Spares (readVariable scope place) := by
  cases place with
  | internal name =>
      refine .bind .get fun m => (Composed.compute fun failed => ?_).bind fun _ => .pure _
      rw [Internals.cause_of_get failed]
      rfl
  | frameLocal name => exact .call _
  | field object name => exact .call _
  | staticField type name => exact .call _
  | element array index => exact .call _

theorem valueOf_spares (entry : StackEntry) : Composed scope Machine.Spares (valueOf scope entry) := by
  cases entry with
  | value value => exact .pure _
  | place place => exact readVariable_spares scope place

theorem popValue_spares : Composed scope Machine.Spares (popValue scope) :=
  (pop_spares scope).bind fun entry => valueOf_spares scope entry

theorem popVariable_spares : Composed scope Machine.Spares popVariable := by
  refine (pop_spares scope).bind fun entry => ?_
  cases entry with
  | place place => exact .pure _
  | value value => exact .throw rfl

theorem popObject_spares : Composed scope Machine.Spares (popObject scope) := by
  refine (popValue_spares scope).bind fun value => ?_
  cases value <;> first | exact .pure _ | exact .throw rfl

theorem popArguments_spares (count : Nat) :
    Composed scope Machine.Spares (popArguments scope count) := by
  induction count with
  | zero => exact .pure _
  | succ count ih => exact (popValue_spares scope).bind fun last => ih.bind fun _ => .pure _

theorem textOf_spares (value : Value) : Composed scope Machine.Spares (textOf scope value) := by
  unfold textOf
  split
  · exact .pure _
  · exact .call _
  · refine (Composed.call _).bind fun answer => ?_
    split
    · exact .call _
    · exact .pure _
    · exact .throw rfl
  · split
    · exact .pure _
    · exact .throw rfl

theorem binary_spares (op : BinaryOp) (left right : Value) :
    Composed scope Machine.Spares (binary scope op left right) := by
  unfold binary
  split
  · refine (textOf_spares scope left).bind fun first => ?_
    exact (textOf_spares scope right).bind fun second => .call _
  · refine .compute fun failed => ?_
    rcases BinaryOp.cause_of_apply failed with rfl | rfl
    · rfl
    · rfl

theorem isInstance_spares (handle : ObjectRef) (type : TypeRef) :
    Composed scope Machine.Spares (isInstance handle type) :=
  (Composed.call _).bind fun _ => .call _

theorem cast_spares (value : Value) (typeName : String) :
    Composed scope Machine.Spares (cast scope value typeName) := by
  have checks (handle : ObjectRef) (type : TypeRef) (found : Value) (fault : Fault)
      (own : fault.failure? = none) : Composed scope Machine.Spares
        (do if ← isInstance handle type then return found else throw fault) := by
    refine (isInstance_spares scope handle type).bind fun fits => ?_
    split
    · exact .pure _
    · exact .throw own
  refine (declared_spares scope typeName).bind fun declared => ?_
  split
  · exact .elim rfl
  · split
    · exact .pure _
    · exact checks _ _ _ _ rfl
    · exact checks _ _ _ _ rfl
    · exact .throw rfl

theorem instanceOf_spares (value : Value) (typeName : String) :
    Composed scope Machine.Spares (instanceOf scope value typeName) := by
  unfold instanceOf
  split
  · exact .pure _
  · exact (resolve_spares scope typeName).bind fun _ => isInstance_spares scope _ _
  · exact (resolve_spares scope typeName).bind fun _ => isInstance_spares scope _ _
  · exact .throw rfl

theorem assigned_spares (place : Variable) (value : Value) :
    Composed scope Machine.Spares (assigned scope place value) := by
  unfold assigned
  split
  · refine .bind .get fun m => (Composed.compute fun failed => ?_).bind fun declared => ?_
    · rw [Internals.cause_of_get failed]
      rfl
    · dsimp only
      split
      · split
        · exact .throw rfl
        · exact .pure _
      · exact .elim rfl
  · split
    · exact .pure _
    · refine (readVariable_spares scope place).bind fun current => ?_
      split
      · exact .pure _
      · exact .elim rfl

theorem allocate_spares (arrayType : String) (length : Int32) :
    Composed scope Machine.Spares (allocate scope arrayType length) := by
  unfold allocate
  split
  · exact .throw_bind rfl
  · refine (resolve_spares scope arrayType).bind fun type => (Composed.call _).bind fun category => ?_
    dsimp only
    split
    · exact .throw_bind rfl
    · exact .call _

/-- The end of most instructions: an entry goes onto the stack, and the next instruction follows. -/
theorem push_next_spares (entry : StackEntry) :
    Composed scope Machine.Spares (do push entry; return Flow.next) :=
  (push_spares scope entry).bind fun _ => .pure _

/-- The internal variables change by declarations and assignments only. -/
theorem execute_spares (instruction : Instruction) (other : instruction.isStore = false) :
    Composed scope Machine.Spares (execute scope instruction) := by
  cases instruction with
  | pushLiteral literal =>
      cases literal with
      | string text => exact (Composed.call _).bind fun value => push_next_spares scope _
      | _ => exact push_next_spares scope _
  | pushNull => exact push_next_spares scope _
  | pushThis => exact (Composed.call _).bind fun value => push_next_spares scope _
  | pushClassObject typeName =>
      exact (classObject_spares scope typeName).bind fun value => push_next_spares scope _
  | pushLocal name => exact push_next_spares scope _
  | pushField name => exact (popObject_spares scope).bind fun object => push_next_spares scope _
  | pushStatic typeName name =>
      exact (resolve_spares scope typeName).bind fun type => push_next_spares scope _
  | pushInternal name =>
      refine .bind .get fun m => ?_
      dsimp only
      split
      · exact .throw_bind rfl
      · exact push_next_spares scope _
  | createInternal name typeName => cases other
  | arrayAccess =>
      refine (popValue_spares scope).bind fun value => ?_
      refine (Composed.compute fun failed => ?_).bind fun index => ?_
      · rw [Value.cause_of_index failed]
        rfl
      · exact (popObject_spares scope).bind fun array => push_next_spares scope _
  | arrayLength =>
      refine (popObject_spares scope).bind fun array => ?_
      exact (Composed.call _).bind fun length => push_next_spares scope _
  | newArray arrayType =>
      refine (popValue_spares scope).bind fun value => ?_
      refine (Composed.compute fun failed => ?_).bind fun length => ?_
      · rw [Value.cause_of_index failed]
        rfl
      · exact (allocate_spares scope arrayType length).bind fun array => push_next_spares scope _
  | send selector signature argCount nonVirtual =>
      refine (popArguments_spares scope argCount).bind fun arguments => ?_
      refine (popObject_spares scope).bind fun receiver => ?_
      exact (Composed.call _).bind fun value => push_next_spares scope _
  | sendStatic typeName selector signature argCount =>
      refine (popArguments_spares scope argCount).bind fun arguments => ?_
      refine (resolve_spares scope typeName).bind fun type => ?_
      exact (Composed.call _).bind fun value => push_next_spares scope _
  | newObject typeName signature argCount =>
      refine (popArguments_spares scope argCount).bind fun arguments => ?_
      refine (resolve_spares scope typeName).bind fun type => ?_
      exact (Composed.call _).bind fun value => push_next_spares scope _
  | binary op =>
      refine (popValue_spares scope).bind fun right => (popValue_spares scope).bind fun left => ?_
      exact (binary_spares scope op left right).bind fun value => push_next_spares scope _
  | unary op =>
      refine (popValue_spares scope).bind fun operand => ?_
      exact (Composed.elim rfl).bind fun value => push_next_spares scope _
  | cast typeName =>
      refine (popValue_spares scope).bind fun value => ?_
      exact (cast_spares scope value typeName).bind fun _ => push_next_spares scope _
  | instanceOf typeName =>
      refine (popValue_spares scope).bind fun value => ?_
      exact (instanceOf_spares scope value typeName).bind fun _ => push_next_spares scope _
  | assign => cases other
  | compoundAssign op => cases other
  | pop =>
      refine (popValue_spares scope).bind fun value => ?_
      exact .bind (.modify fun _ => rfl) fun _ => .pure _
  | dup =>
      refine .bind .get fun m => ?_
      split
      · exact .throw_bind rfl
      · exact push_next_spares scope _
  | jump offset => exact .pure _
  | conditionalJump offset jumpOn =>
      refine (popValue_spares scope).bind fun value => ?_
      refine (Composed.compute fun failed => ?_).bind fun condition => .pure _
      rw [Value.cause_of_truth failed]
      rfl
  | «return» => exact .pure _
  | noOp => exact .pure _

/-- The result of a program is read without a change of the internal variables. -/
theorem result_spares : Composed scope Machine.Spares (result scope) := by
  refine .bind .get fun m => ?_
  split
  · exact (valueOf_spares scope _).bind fun value => .pure _
  · exact .pure _

/-! ### All instructions -/

/-- Some internal variables take the place of the former ones, unless that fails. -/
theorem replace_composed (x : Internals → Except Fault Internals)
    (own : ∀ {internals fault}, x internals = .error fault → fault.failure? = none) :
    Composed scope (fun _ _ => True) (do
      let internals ← compute (x (← get).internals)
      modify fun m => { m with internals }) :=
  .bind .get fun _ => (Composed.compute own).bind fun _ => .modify fun _ => trivial

theorem writeVariable_composed (place : Variable) (value : Value) :
    Composed scope (fun _ _ => True) (writeVariable scope place value) := by
  cases place with
  | internal name =>
      refine replace_composed scope (·.set name value) fun failed => ?_
      rw [Internals.cause_of_set failed]
      rfl
  | frameLocal name => exact .call _
  | field object name => exact .call _
  | staticField type name => exact .call _
  | element array index => exact .call _

theorem declare_composed (name typeName : String) :
    Composed scope (fun _ _ => True) (declare scope name typeName) := by
  have declares (declared : InternalVariable) : Composed scope (fun _ _ => True) (do
      let internals ← compute ((← get).internals.create name declared)
      modify fun m => { m with internals }) := by
    refine replace_composed scope (·.create name declared) fun failed => ?_
    rw [Internals.cause_of_create failed]
    rfl
  unfold declare
  refine (declared_spares scope typeName).free.bind fun declared => ?_
  split
  · split
    · exact declares _
    · exact .throw_bind rfl
  · exact declares _

theorem store_composed (place : Variable) (value : Value) :
    Composed scope (fun _ _ => True) (do writeVariable scope place value; pushValue value) :=
  (writeVariable_composed scope place value).bind fun _ => (push_spares scope _).free

theorem assign_composed : Composed scope (fun _ _ => True) (assign scope) := by
  refine (popValue_spares scope).free.bind fun value => ?_
  refine (popVariable_spares scope).free.bind fun place => ?_
  exact (assigned_spares scope place value).free.bind fun stored => store_composed scope place stored

theorem compoundAssign_composed (op : BinaryOp) :
    Composed scope (fun _ _ => True) (compoundAssign scope op) := by
  refine (popValue_spares scope).free.bind fun operand => ?_
  refine (popVariable_spares scope).free.bind fun place => ?_
  refine (readVariable_spares scope place).free.bind fun current => ?_
  refine (binary_spares scope op current operand).free.bind fun result => ?_
  dsimp only
  split
  · exact (Composed.elim rfl).bind fun kept => store_composed scope place kept
  · exact store_composed scope place result

theorem execute_composed (instruction : Instruction) :
    Composed scope (fun _ _ => True) (execute scope instruction) := by
  cases instruction with
  | createInternal name typeName => exact (declare_composed scope name typeName).bind fun _ => .pure _
  | assign => exact (assign_composed scope).bind fun _ => .pure _
  | compoundAssign op => exact (compoundAssign_composed scope op).bind fun _ => .pure _
  | _ => exact (execute_spares scope _ rfl).free

end Parts

end Evaluation

end RemoteDebug
