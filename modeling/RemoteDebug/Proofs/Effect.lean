import RemoteDebug.Proofs.Cause
import RemoteDebug.Proofs.Evaluation

/-!
What instructions do to the stack.

* `Instruction.consumes` and `Instruction.produces` count the entries of the documented effect,
  `Instruction.flows` lists what can follow an instruction.
* `Evaluation.Trades` says that an evaluation replaces a number of entries on top of the stack by a number
  of others, leaves the rest alone and never finds the stack too short. The text of an evaluation is
  followed by `Trades.bind`; an evaluation that works above entries it leaves alone is `Trades.above` them.
* `Evaluation.execute_trades`: an instruction does what is documented.
-/

namespace RemoteDebug

/-- The faults of a program that is not put together well: the stack is too short, or a jump leads out of
the program. -/
def Fault.derails : Fault → Bool
  | .stackUnderflow | .jumpOutOfRange _ => true
  | _ => false

namespace Instruction

/-- The number of entries that an instruction takes off the stack. -/
def consumes : Instruction → Nat
  | .pushField _ | .arrayLength | .newArray _ | .unary _ | .cast _ | .instanceOf _ | .pop | .dup
  | .conditionalJump .. => 1
  | .arrayAccess | .binary _ | .assign | .compoundAssign _ => 2
  | .send _ _ argCount _ => argCount + 1
  | .sendStatic _ _ _ argCount | .newObject _ _ argCount => argCount
  | .pushLiteral _ | .pushNull | .pushThis | .pushClassObject _ | .pushLocal _ | .pushStatic ..
  | .pushInternal _ | .createInternal .. | .jump _ | .return | .noOp => 0

/-- The number of entries that an instruction puts on the stack. -/
def produces : Instruction → Nat
  | .dup => 2
  | .createInternal .. | .pop | .jump _ | .conditionalJump .. | .return | .noOp => 0
  | _ => 1

/-- What can follow an instruction. -/
def flows : Instruction → List Flow
  | .jump offset => [.jump offset]
  | .conditionalJump offset _ => [.jump offset, .next]
  | .return => [.return]
  | _ => [.next]

end Instruction

/-! ### Attempts -/

/-- Whatever an attempt fails with, it is not that the program is not put together well. -/
def Attempt.Orderly {σ α : Type} (x : Attempt σ α) : Prop :=
  ∀ s passed fault t, x.run.Course s passed (.error fault) t → fault.derails = false

namespace Attempt.Orderly

variable {σ α β : Type}

theorem pure {a : α} : Attempt.Orderly (Pure.pure a : Attempt σ α) := by
  intro s passed fault t course
  cases (Operation.Course.run_pure_iff.mp course).2.1

theorem throw {fault : Fault} (orderly : fault.derails = false) :
    Attempt.Orderly (MonadExcept.throw fault : Attempt σ α) := by
  intro s passed other t course
  cases (Operation.Course.run_throw_iff.mp course).2.1
  exact orderly

theorem bind {x : Attempt σ α} {f : α → Attempt σ β} (first : x.Orderly)
    (rest : ∀ a, Attempt.Orderly (f a)) : Attempt.Orderly (x >>= f) := by
  intro s passed fault t course
  rcases Operation.Course.run_bind_iff.mp course with ⟨_, head, same⟩ | ⟨a, _, _, _, _, tail, _⟩
  · cases same
    exact first _ _ _ _ head
  · exact rest a _ _ _ _ tail

theorem perform {x : Operation σ α} : Attempt.Orderly (RemoteDebug.perform x) := by
  intro s passed fault t course
  obtain ⟨_, _, impossible⟩ := Operation.Course.run_perform_iff.mp course
  cases impossible

theorem call {c : Call} : Attempt.Orderly (Attempt.call c : Attempt σ c.Answer) := by
  intro s passed fault t course
  obtain ⟨answer, -, same⟩ := Attempt.call_iff.mp course
  cases answer with
  | error failure =>
      cases same
      rfl
  | ok answer => cases same

end Attempt.Orderly

namespace Resolution

variable {σ : Type} {resolution : Resolution}

theorem load_orderly (name : String) : (resolution.load name : Attempt σ _).Orderly := by
  unfold load
  refine Attempt.Orderly.call.bind fun types => ?_
  split
  · refine Attempt.Orderly.call.bind fun argument => Attempt.Orderly.perform.bind fun loaded => ?_
    split
    · exact .pure
    · split
      · exact Attempt.Orderly.perform.bind fun _ => .pure
      · exact .throw rfl
  · exact .throw rfl

theorem pick_orderly (classObject : ObjectRef) (candidates : List TypeRef) :
    (pick classObject candidates : Attempt σ _).Orderly := by
  induction candidates with
  | nil => exact .pure
  | cons candidate rest ih =>
      refine Attempt.Orderly.call.bind fun found => ?_
      split
      · exact .pure
      · exact ih

theorem resolve_orderly (name : String) : (resolution.resolve name : Attempt σ _).Orderly := by
  unfold resolve
  refine (load_orderly name).bind fun loaded => Attempt.Orderly.call.bind fun types => ?_
  split
  · exact .throw rfl
  · exact .pure
  · split
    · exact .throw rfl
    · refine (pick_orderly _ _).bind fun picked => ?_
      split
      · exact .pure
      · exact Attempt.Orderly.perform.bind fun _ => .throw rfl

theorem declared_orderly (name : String) : (resolution.declared name : Attempt σ _).Orderly := by
  unfold declared
  split
  · exact .throw rfl
  · exact .pure
  · exact (resolve_orderly name).bind fun _ => .pure

theorem classObject_orderly (name : String) :
    (resolution.classObject name : Attempt σ _).Orderly := by
  unfold classObject
  refine (resolve_orderly name).bind fun type => Attempt.Orderly.call.bind fun found => ?_
  split
  · exact .pure
  · exact .throw rfl

end Resolution

/-! ### Computations -/

section Computations

variable {fault : Fault}

theorem orderly_of_elim {α : Type} {x : Option α} {other : Fault} (orderly : other.derails = false)
    (failed : (x.elim (.error other) .ok : Except Fault α) = .error fault) : fault.derails = false := by
  rw [eq_of_elim_error failed]
  exact orderly

theorem BinaryOp.apply_orderly {op : BinaryOp} {left right : Value}
    (failed : op.apply left right = .error fault) : fault.derails = false := by
  rcases cause_of_apply failed with rfl | rfl
  · rfl
  · rfl

theorem Value.truth_orderly {value : Value} (failed : value.truth = .error fault) :
    fault.derails = false := by
  rw [cause_of_truth failed]
  rfl

theorem Value.index_orderly {value : Value} (failed : value.index = .error fault) :
    fault.derails = false := by
  rw [cause_of_index failed]
  rfl

namespace Internals

variable {internals : Internals} {name : String}

theorem get_orderly (failed : internals.get name = .error fault) : fault.derails = false := by
  rw [cause_of_get failed]
  rfl

theorem set_orderly {value : Value} (failed : internals.set name value = .error fault) :
    fault.derails = false := by
  rw [cause_of_set failed]
  rfl

theorem create_orderly {declared : InternalVariable}
    (failed : internals.create name declared = .error fault) : fault.derails = false := by
  rw [cause_of_create failed]
  rfl

end Internals

end Computations

/-! ### Evaluations -/

namespace Evaluation

/-- On a stack of at least `n` entries the evaluation `x` replaces the topmost `n` by `k` others and gives
what `gives` describes, or it fails, though not for want of an entry. -/
def Trades {α : Type} (x : Evaluation α) (n k : Nat) (gives : α → Prop := fun _ => True) : Prop :=
  ∀ m s passed r m' t, x.Course m s passed r m' t → n ≤ m.depth →
    match r with
    | .ok a => gives a ∧ ∃ pushed, pushed.length = k ∧ m'.stack = pushed ++ m.stack.drop n
    | .error fault => fault.derails = false

namespace Trades

variable {α β : Type} {n k j : Nat} {gives : α → Prop} {offers : β → Prop}

/-- An evaluation that leaves the stack alone. -/
theorem still {x : Evaluation α}
    (kept : ∀ m s passed a m' t, x.Course m s passed (.ok a) m' t → gives a ∧ m'.stack = m.stack)
    (orderly : ∀ m s passed fault m' t, x.Course m s passed (.error fault) m' t →
      fault.derails = false) : Trades x n n gives := by
  intro m s passed r m' t course enough
  cases r with
  | error fault => exact orderly _ _ _ _ _ _ course
  | ok a =>
      obtain ⟨given, stack⟩ := kept _ _ _ _ _ _ course
      refine ⟨given, m.stack.take n, List.length_take_of_le enough, ?_⟩
      rw [stack, List.take_append_drop]

theorem pure {a : α} (given : gives a) : Trades (Pure.pure a) n n gives := by
  apply still
  · intro m s passed b m' t course
    obtain ⟨-, same, rfl, -⟩ := pure_iff.mp course
    cases same
    exact ⟨given, rfl⟩
  · intro m s passed fault m' t course
    cases (pure_iff.mp course).2.1

theorem throw {fault : Fault} (orderly : fault.derails = false) :
    Trades (MonadExcept.throw fault) n k gives := by
  intro m s passed r m' t course enough
  obtain ⟨-, rfl, -, -⟩ := throw_iff.mp course
  exact orderly

/-- What would follow a failure does not matter. -/
theorem throw_bind {fault : Fault} {f : α → Evaluation β} (orderly : fault.derails = false) :
    Trades (MonadExcept.throw fault >>= f) n k offers := by
  intro m s passed r m' t course enough
  rcases bind_iff.mp course with ⟨other, head, rfl⟩ | ⟨a, _, _, _, _, head, _, _⟩
  · cases (throw_iff.mp head).2.1
    exact orderly
  · cases (throw_iff.mp head).2.1

theorem bind {x : Evaluation α} {f : α → Evaluation β} (first : Trades x n k gives)
    (rest : ∀ a, gives a → Trades (f a) k j offers) : Trades (x >>= f) n j offers := by
  intro m s passed r m' t course enough
  rcases bind_iff.mp course with ⟨fault, head, rfl⟩ | ⟨a, u, _, _, _, head, tail, -⟩
  · exact first _ _ _ _ _ _ head enough
  · obtain ⟨given, pushed, length, stack⟩ := first _ _ _ _ _ _ head enough
    have deep : k ≤ u.depth := by
      rw [Machine.depth, stack, List.length_append, length]
      exact Nat.le_add_right _ _
    have done := rest a given _ _ _ _ _ _ tail deep
    cases r with
    | error fault => exact done
    | ok b =>
        obtain ⟨offered, last, length', stack'⟩ := done
        refine ⟨offered, last, length', ?_⟩
        rw [stack', stack, ← length, List.drop_left]

theorem pure_bind {a : α} {f : α → Evaluation β} (rest : Trades (f a) n k offers) :
    Trades (Pure.pure a >>= f) n k offers := by
  have given : Trades (Pure.pure a) n n (· = a) := pure rfl
  apply given.bind
  rintro _ rfl
  exact rest

/-- Entries that an evaluation does not reach are neither taken nor put. -/
theorem above {x : Evaluation α} (trades : Trades x n k gives) (c : Nat) :
    Trades x (c + n) (c + k) gives := by
  intro m s passed r m' t course enough
  have done := trades _ _ _ _ _ _ course (Nat.le_trans (Nat.le_add_left n c) enough)
  cases r with
  | error fault => exact done
  | ok a =>
      obtain ⟨given, pushed, length, stack⟩ := done
      refine ⟨given, pushed ++ (m.stack.drop n).take c, ?_, ?_⟩
      · rw [List.length_append, length, List.length_take_of_le, Nat.add_comm]
        rw [List.length_drop]
        exact Nat.le_sub_of_add_le enough
      · rw [stack, List.append_assoc, Nat.add_comm, ← List.drop_drop, List.take_append_drop]

theorem get {f : Machine → Evaluation β} (rest : ∀ m, Trades (f m) n k offers) :
    Trades (MonadState.get >>= f) n k offers := by
  intro m s passed r m' t course enough
  exact rest m _ _ _ _ _ _ (get_bind_iff.mp course) enough

/-- A change of the machine that spares the stack. -/
theorem change {g : Machine → Machine} (spares : ∀ m, (g m).stack = m.stack) :
    Trades (modify g) n n := by
  apply still
  · intro m s passed u m' t course
    obtain ⟨-, -, rfl, -⟩ := modify_iff.mp course
    exact ⟨trivial, spares m⟩
  · intro m s passed fault m' t course
    cases (modify_iff.mp course).2.1

theorem attempt {x : Attempt Bool α} (orderly : x.Orderly) : Trades (Evaluation.attempt x) n n := by
  apply still
  · intro m s passed a m' t course
    exact ⟨trivial, by rw [(attempt_iff.mp course).2]⟩
  · intro m s passed fault m' t course
    exact orderly _ _ _ _ (attempt_iff.mp course).1

theorem call {c : Call} : Trades (Evaluation.call c) n n :=
  attempt .call

theorem compute {x : Except Fault α} (orderly : ∀ {fault}, x = .error fault → fault.derails = false) :
    Trades (Evaluation.compute x) n n := by
  cases x with
  | ok a => exact pure trivial
  | error fault => exact throw (orderly rfl)

end Trades

/-! ### The parts of instructions -/

theorem push_trades (entry : StackEntry) : Trades (push entry) 0 1 := by
  intro m s passed r m' t course enough
  obtain ⟨-, rfl, rfl, -⟩ := modify_iff.mp course
  exact ⟨trivial, [entry], rfl, rfl⟩

theorem pop_trades : Trades pop 1 0 := by
  intro m s passed r m' t course enough
  have popped := get_bind_iff.mp course
  cases stack : m.stack with
  | nil =>
      rw [Machine.depth, stack] at enough
      cases enough
  | cons entry rest =>
      rw [stack] at popped
      have taken : Course (pure entry) { m with stack := rest } s passed r m' t := popped
      obtain ⟨-, rfl, rfl, -⟩ := pure_iff.mp taken
      exact ⟨trivial, [], rfl, rfl⟩

section Parts

variable (scope : Scope) {n : Nat}

theorem readVariable_trades (place : Variable) : Trades (readVariable scope place) n n := by
  cases place with
  | internal name =>
      exact .get fun m => (Trades.compute Internals.get_orderly).bind fun _ _ => .pure trivial
  | frameLocal name => exact .call
  | field object name => exact .call
  | staticField type name => exact .call
  | element array index => exact .call

theorem writeVariable_trades (place : Variable) (value : Value) :
    Trades (writeVariable scope place value) n n := by
  cases place with
  | internal name =>
      refine .get fun m => (Trades.compute Internals.set_orderly).bind fun internals _ => ?_
      exact .change fun _ => rfl
  | frameLocal name => exact .call
  | field object name => exact .call
  | staticField type name => exact .call
  | element array index => exact .call

theorem valueOf_trades (entry : StackEntry) : Trades (valueOf scope entry) n n := by
  cases entry with
  | value value => exact .pure trivial
  | place place => exact readVariable_trades scope place

theorem popValue_trades : Trades (popValue scope) 1 0 :=
  pop_trades.bind fun entry _ => valueOf_trades scope entry

theorem popVariable_trades : Trades popVariable 1 0 := by
  refine pop_trades.bind fun entry _ => ?_
  cases entry with
  | place place => exact .pure trivial
  | value value => exact .throw rfl

theorem popObject_trades : Trades (popObject scope) 1 0 := by
  refine (popValue_trades scope).bind fun value _ => ?_
  cases value <;> first | exact .pure trivial | exact .throw rfl

theorem popArguments_trades (count : Nat) : Trades (popArguments scope count) count 0 := by
  induction count with
  | zero => exact .pure trivial
  | succ count ih =>
      refine ((popValue_trades scope).above count).bind fun last _ => ?_
      exact ih.bind fun arguments _ => .pure trivial

theorem textOf_trades (value : Value) : Trades (textOf scope value) n n := by
  unfold textOf
  split
  · exact .pure trivial
  · exact .call
  · refine Trades.call.bind fun answer _ => ?_
    split
    · exact .call
    · exact .pure trivial
    · exact .throw rfl
  · split
    · exact .pure trivial
    · exact .throw rfl

theorem binary_trades (op : BinaryOp) (left right : Value) :
    Trades (binary scope op left right) n n := by
  unfold binary
  split
  · refine (textOf_trades scope left).bind fun first _ => ?_
    exact (textOf_trades scope right).bind fun second _ => .call
  · exact .compute BinaryOp.apply_orderly

theorem isInstance_trades (handle : ObjectRef) (type : TypeRef) :
    Trades (isInstance handle type) n n :=
  Trades.call.bind fun _ _ => .call

theorem cast_trades (value : Value) (typeName : String) :
    Trades (cast scope value typeName) n n := by
  refine (Trades.attempt (Resolution.declared_orderly typeName)).bind fun declared _ => ?_
  split
  · exact .compute (orderly_of_elim rfl)
  · split
    · exact .pure trivial
    · refine (isInstance_trades _ _).bind fun fits _ => ?_
      split
      · exact .pure trivial
      · exact .throw rfl
    · refine (isInstance_trades _ _).bind fun fits _ => ?_
      split
      · exact .pure trivial
      · exact .throw rfl
    · exact .throw rfl

theorem instanceOf_trades (value : Value) (typeName : String) :
    Trades (instanceOf scope value typeName) n n := by
  unfold instanceOf
  split
  · exact .pure trivial
  · exact (Trades.attempt (Resolution.resolve_orderly typeName)).bind fun _ _ => isInstance_trades _ _
  · exact (Trades.attempt (Resolution.resolve_orderly typeName)).bind fun _ _ => isInstance_trades _ _
  · exact .throw rfl

theorem assigned_trades (place : Variable) (value : Value) :
    Trades (assigned scope place value) n n := by
  unfold assigned
  split
  · refine .get fun m => (Trades.compute Internals.get_orderly).bind fun declared _ => ?_
    dsimp only
    split
    · split
      · exact .throw rfl
      · exact .pure trivial
    · exact .compute (orderly_of_elim rfl)
  · split
    · exact .pure trivial
    · refine (readVariable_trades scope place).bind fun current _ => ?_
      split
      · exact .pure trivial
      · exact .compute (orderly_of_elim rfl)

theorem declare_trades (name typeName : String) : Trades (declare scope name typeName) n n := by
  unfold declare
  refine (Trades.attempt (Resolution.declared_orderly typeName)).bind fun declared _ => ?_
  have declares (declared : InternalVariable) : Trades (do
      let internals ← compute ((← get).internals.create name declared)
      modify fun m => { m with internals }) n n := by
    refine .get fun m => (Trades.compute Internals.create_orderly).bind fun internals _ => ?_
    exact .change fun _ => rfl
  split
  · split
    · exact Trades.pure_bind (declares _)
    · exact .throw_bind rfl
  · exact Trades.pure_bind (declares _)

theorem allocate_trades (arrayType : String) (length : Int32) :
    Trades (allocate scope arrayType length) n n := by
  unfold allocate
  split
  · exact .throw_bind rfl
  · refine (Trades.attempt (Resolution.resolve_orderly arrayType)).bind fun type _ => ?_
    refine Trades.call.bind fun category _ => ?_
    dsimp only
    split
    · exact .throw_bind rfl
    · exact .call

theorem assign_trades : Trades (assign scope) 2 1 := by
  refine ((popValue_trades scope).above 1).bind fun value _ => ?_
  refine popVariable_trades.bind fun place _ => ?_
  refine (assigned_trades scope place value).bind fun stored _ => ?_
  exact (writeVariable_trades scope place stored).bind fun _ _ => push_trades _

theorem compoundAssign_trades (op : BinaryOp) : Trades (compoundAssign scope op) 2 1 := by
  refine ((popValue_trades scope).above 1).bind fun operand _ => ?_
  refine popVariable_trades.bind fun place _ => ?_
  refine (readVariable_trades scope place).bind fun current _ => ?_
  refine (binary_trades scope op current operand).bind fun result _ => ?_
  have stores (result : Value) : Trades (do writeVariable scope place result; pushValue result) 0 1 :=
    (writeVariable_trades scope place result).bind fun _ _ => push_trades _
  dsimp only
  split
  · exact (Trades.compute (orderly_of_elim rfl)).bind fun kept _ => stores kept
  · exact Trades.pure_bind (stores result)

/-- The end of most instructions: an entry goes onto the stack, and the next instruction follows. -/
theorem push_next_trades (entry : StackEntry) :
    Trades (do push entry; return Flow.next) 0 1 (· ∈ [Flow.next]) :=
  (push_trades entry).bind fun _ _ => .pure List.mem_cons_self

/-- The end of an instruction that puts nothing onto the stack. -/
theorem next_trades : Trades (return Flow.next) n n (· ∈ [Flow.next]) :=
  .pure List.mem_cons_self

/-- The top entry is put onto itself, whatever it is. -/
theorem dup_trades : Trades (execute scope .dup) 1 2 (· ∈ [Flow.next]) := by
  intro m s passed r m' t course enough
  have seen := get_bind_iff.mp course
  cases stack : m.stack with
  | nil =>
      rw [Machine.depth, stack] at enough
      cases enough
  | cons top rest =>
      rw [stack] at seen
      have pushed : Course (pure Flow.next) { m with stack := top :: m.stack } s passed r m' t := seen
      obtain ⟨-, rfl, rfl, -⟩ := pure_iff.mp pushed
      refine ⟨List.mem_cons_self, [top, top], rfl, ?_⟩
      rw [stack]
      rfl

/-- Every instruction has its documented effect on the stack. -/
theorem execute_trades (instruction : Instruction) :
    Trades (execute scope instruction) instruction.consumes instruction.produces
      (· ∈ instruction.flows) := by
  cases instruction with
  | pushLiteral literal =>
      cases literal with
      | string text => exact Trades.call.bind fun value _ => push_next_trades _
      | _ => exact push_next_trades _
  | pushNull => exact push_next_trades _
  | pushThis => exact Trades.call.bind fun value _ => push_next_trades _
  | pushClassObject typeName =>
      exact (Trades.attempt (Resolution.classObject_orderly typeName)).bind fun value _ =>
        push_next_trades _
  | pushLocal name => exact push_next_trades _
  | pushField name => exact (popObject_trades scope).bind fun object _ => push_next_trades _
  | pushStatic typeName name =>
      exact (Trades.attempt (Resolution.resolve_orderly typeName)).bind fun type _ =>
        push_next_trades _
  | pushInternal name =>
      refine .get fun m => ?_
      dsimp only
      split
      · exact .throw_bind rfl
      · exact push_next_trades _
  | createInternal name typeName =>
      exact (declare_trades scope name typeName).bind fun _ _ => next_trades
  | arrayAccess =>
      refine ((popValue_trades scope).above 1).bind fun value _ => ?_
      refine (Trades.compute Value.index_orderly).bind fun index _ => ?_
      exact (popObject_trades scope).bind fun array _ => push_next_trades _
  | arrayLength =>
      refine (popObject_trades scope).bind fun array _ => ?_
      exact Trades.call.bind fun length _ => push_next_trades _
  | newArray arrayType =>
      refine (popValue_trades scope).bind fun value _ => ?_
      refine (Trades.compute Value.index_orderly).bind fun length _ => ?_
      exact (allocate_trades scope arrayType length).bind fun array _ => push_next_trades _
  | send selector signature argCount nonVirtual =>
      have order : argCount + 1 = 1 + argCount := Nat.add_comm _ _
      rw [Instruction.consumes, order]
      refine ((popArguments_trades scope argCount).above 1).bind fun arguments _ => ?_
      refine (popObject_trades scope).bind fun receiver _ => ?_
      exact Trades.call.bind fun value _ => push_next_trades _
  | sendStatic typeName selector signature argCount =>
      refine (popArguments_trades scope argCount).bind fun arguments _ => ?_
      refine (Trades.attempt (Resolution.resolve_orderly typeName)).bind fun type _ => ?_
      exact Trades.call.bind fun value _ => push_next_trades _
  | newObject typeName signature argCount =>
      refine (popArguments_trades scope argCount).bind fun arguments _ => ?_
      refine (Trades.attempt (Resolution.resolve_orderly typeName)).bind fun type _ => ?_
      exact Trades.call.bind fun value _ => push_next_trades _
  | binary op =>
      refine ((popValue_trades scope).above 1).bind fun right _ => ?_
      refine (popValue_trades scope).bind fun left _ => ?_
      exact (binary_trades scope op left right).bind fun value _ => push_next_trades _
  | unary op =>
      refine (popValue_trades scope).bind fun operand _ => ?_
      exact (Trades.compute (orderly_of_elim rfl)).bind fun value _ => push_next_trades _
  | cast typeName =>
      refine (popValue_trades scope).bind fun value _ => ?_
      exact (cast_trades scope value typeName).bind fun _ _ => push_next_trades _
  | instanceOf typeName =>
      refine (popValue_trades scope).bind fun value _ => ?_
      exact (instanceOf_trades scope value typeName).bind fun _ _ => push_next_trades _
  | assign => exact (assign_trades scope).bind fun _ _ => next_trades
  | compoundAssign op => exact (compoundAssign_trades scope op).bind fun _ _ => next_trades
  | pop =>
      refine (popValue_trades scope).bind fun value _ => ?_
      have noted : Trades (modify fun m : Machine => { m with lastValue := some value }) 0 0 :=
        .change fun _ => rfl
      exact noted.bind fun _ _ => next_trades
  | dup => exact dup_trades scope
  | jump offset => exact .pure List.mem_cons_self
  | conditionalJump offset jumpOn =>
      refine (popValue_trades scope).bind fun value _ => ?_
      refine (Trades.compute Value.truth_orderly).bind fun condition _ => .pure ?_
      split
      · exact List.mem_cons_self
      · exact List.mem_cons_of_mem _ List.mem_cons_self
  | «return» => exact .pure List.mem_cons_self
  | noOp => exact next_trades

/-- The result of a program is read off the stack, which stays as it is. -/
theorem result_trades : Trades (result scope) n n := by
  refine .get fun machine => ?_
  split
  · exact (valueOf_trades scope _).bind fun value _ => .pure trivial
  · exact .pure trivial

end Parts

end Evaluation

end RemoteDebug
