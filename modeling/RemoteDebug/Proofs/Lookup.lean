import RemoteDebug.Proofs.Argument
import RemoteDebug.Proofs.Constancy
import RemoteDebug.Proofs.Membership

/-!
Lookups of internal variables.

An internal variable is on the stack as a name, and the name is looked up where the value is needed, which may
be many instructions later. The lookup finds the variable: a name gets onto the stack only while there is a
variable of this name, and no variable goes away.

* `Machine.Anchored` is the invariant: the references on the stack name variables that exist.
* `Evaluation.Finds` says that an evaluation misses no variable, with what holds before and after it. It is
  followed along the text of an evaluation.
* `Evaluation.Accessible` says what becomes of reading, popping, assigning and writing where the variable
  exists.
* `Evaluation.execute_finds`: on an anchored machine every instruction finds its variables and leaves an
  anchored machine, apart from the one that pushes a name.
-/

namespace RemoteDebug

/-- The name of the internal variable that is missing, if the fault is about one. -/
def Fault.missing? : Fault → Option String
  | .internalVariableNotFound name => some name
  | _ => none

/-! ### Anchored machines -/

/-- An entry that refers to an internal variable names one that exists. -/
def StackEntry.Known (internals : Internals) : StackEntry → Prop
  | .place (.internal name) => internals.contains name = true
  | _ => True

/-- All references on the stack name variables that exist. -/
def Machine.Anchored (m : Machine) : Prop := ∀ entry ∈ m.stack, entry.Known m.internals

namespace Internals

variable {internals internals' : Internals} {name : String}

theorem contains_iff : internals.contains name = true ↔ ∃ held, internals.get? name = some held :=
  Option.isSome_iff_exists

theorem contains_of_create {declared : InternalVariable}
    (created : internals.create name declared = .ok internals') {other : String}
    (known : internals.contains other = true) : internals'.contains other = true := by
  rw [contains, get?_of_create created]
  split
  · rfl
  · exact known

theorem contains_of_set {value : Value} (stored : internals.set name value = .ok internals') {other : String}
    (known : internals.contains other = true) : internals'.contains other = true := by
  rw [contains, get?_of_set stored, Option.isSome_map]
  exact known

end Internals

namespace Machine.Anchored

variable {m : Machine} {entry : StackEntry} {rest : List StackEntry}

theorem empty : Anchored {} := List.forall_mem_nil _

/-- The top entry and what lies below it. -/
theorem top (anchored : m.Anchored) (stack : m.stack = entry :: rest) :
    entry.Known m.internals ∧ Anchored { m with stack := rest } := by
  unfold Anchored at anchored
  rw [stack] at anchored
  exact List.forall_mem_cons.mp anchored

theorem push (anchored : m.Anchored) (known : entry.Known m.internals) :
    Anchored { m with stack := entry :: m.stack } :=
  List.forall_mem_cons.mpr ⟨known, anchored⟩

/-- Variables that come along do no harm. -/
theorem grow (anchored : m.Anchored) {internals : Internals}
    (kept : ∀ name, m.internals.contains name = true → internals.contains name = true) :
    Anchored { m with internals } := by
  intro entry member
  have known := anchored entry member
  cases entry with
  | value value => trivial
  | place place =>
      cases place with
      | internal name => exact kept name known
      | frameLocal | field | staticField | element => trivial

end Machine.Anchored

namespace Evaluation

variable {α β : Type}

/-! ### Evaluations that miss no variable -/

/-- Started where `P` holds, the evaluation misses no internal variable, and `Q` holds of what it gives and of
the machine that it leaves. -/
def Finds (P : Machine → Prop) (x : Evaluation α) (Q : α → Machine → Prop) : Prop :=
  ∀ m s passed r m' t, P m → Course x m s passed r m' t →
    match r with
    | .ok a => Q a m'
    | .error fault => fault.missing? = none

namespace Finds

variable {P : Machine → Prop} {Q : α → Machine → Prop} {R : β → Machine → Prop}

theorem pure {a : α} (given : ∀ m, P m → Q a m) : Finds P (Pure.pure a) Q := by
  intro m s passed r m' t holds course
  obtain ⟨-, rfl, rfl, -⟩ := pure_iff.mp course
  exact given _ holds

theorem done {a : α} : Finds P (Pure.pure a) fun _ => P :=
  pure fun _ holds => holds

theorem throw {fault : Fault} (other : fault.missing? = none) : Finds P (MonadExcept.throw fault) Q := by
  intro m s passed r m' t holds course
  obtain ⟨-, rfl, -, -⟩ := throw_iff.mp course
  exact other

/-- What would follow a failure does not matter. -/
theorem throw_bind {fault : Fault} {f : α → Evaluation β} (other : fault.missing? = none) :
    Finds P (MonadExcept.throw fault >>= f) R :=
  throw (α := β) other

theorem bind {x : Evaluation α} {f : α → Evaluation β} (first : Finds P x Q)
    (rest : ∀ a, Finds (Q a) (f a) R) : Finds P (x >>= f) R := by
  intro m s passed r m' t holds course
  rcases bind_iff.mp course with ⟨fault, head, rfl⟩ | ⟨a, u, _, _, _, head, tail, -⟩
  · exact first _ _ _ _ _ _ holds head
  · exact rest a _ _ _ _ _ _ (first _ _ _ _ _ _ holds head) tail

theorem get {f : Machine → Evaluation β} (rest : ∀ m, P m → Finds (· = m) (f m) R) :
    Finds P (MonadState.get >>= f) R := by
  intro m s passed r m' t holds course
  exact rest m holds m s passed r m' t rfl (get_bind_iff.mp course)

theorem modify {g : Machine → Machine} {Q : Unit → Machine → Prop}
    (change : ∀ m, P m → Q () (g m)) : Finds P (modify g) Q := by
  intro m s passed r m' t holds course
  obtain ⟨-, rfl, rfl, -⟩ := modify_iff.mp course
  exact change m holds

theorem weaken {x : Evaluation α} {Q' : α → Machine → Prop} (finds : Finds P x Q)
    (weaker : ∀ a m, Q a m → Q' a m) : Finds P x Q' := by
  intro m s passed r m' t holds course
  have found := finds _ _ _ _ _ _ holds course
  cases r with
  | ok a => exact weaker a m' found
  | error fault => exact found

/-- What leaves the machine alone keeps what holds of it. -/
theorem still {x : Evaluation α}
    (kept : ∀ m s passed r m' t, Course x m s passed r m' t → m' = m)
    (own : ∀ m s passed fault m' t, Course x m s passed (.error fault) m' t → fault.missing? = none) :
    Finds P x fun _ => P := by
  intro m s passed r m' t holds course
  cases r with
  | error fault => exact own _ _ _ _ _ _ course
  | ok a =>
      rw [kept _ _ _ _ _ _ course]
      exact holds

theorem compute {x : Except Fault α} (own : ∀ {fault}, x = .error fault → fault.missing? = none) :
    Finds P (Evaluation.compute x) fun _ => P :=
  still (fun _ _ _ _ _ _ course => (compute_iff.mp course).2.2.1)
    fun _ _ _ _ _ _ course => own (compute_iff.mp course).2.1.symm

theorem elim {found : Option α} {other : Fault} (own : other.missing? = none) :
    Finds P (Evaluation.compute (found.elim (.error other) .ok)) fun _ => P := by
  refine compute fun failed => ?_
  rw [eq_of_elim_error failed]
  exact own

theorem attempt {x : Attempt Bool α}
    (own : ∀ s passed fault t, x.run.Course s passed (.error fault) t → fault.missing? = none) :
    Finds P (Evaluation.attempt x) fun _ => P :=
  still (fun _ _ _ _ _ _ course => (attempt_iff.mp course).2)
    fun _ _ _ _ _ _ course => own _ _ _ _ (attempt_iff.mp course).1

theorem call {c : Call} : Finds P (Evaluation.call c) fun _ => P := by
  refine attempt fun s passed fault t course => ?_
  obtain ⟨answer, -, same⟩ := Attempt.call_iff.mp course
  cases answer with
  | error failure =>
      cases same
      rfl
  | ok answer => cases same

end Finds

/-! ### Parts that do not look at internal variables -/

section Inquiries

variable (scope : Scope) {P : Machine → Prop}

theorem resolve_finds (name : String) : Finds P (attempt (scope.resolution.resolve name)) fun _ => P := by
  refine .attempt fun s passed fault t fails => ?_
  rcases Resolution.cause_of_resolve fails with ⟨_, rfl⟩ | ⟨_, rfl⟩
  · rfl
  · rfl

theorem declared_finds (name : String) : Finds P (attempt (scope.resolution.declared name)) fun _ => P := by
  unfold Resolution.declared
  split
  · exact .throw rfl
  · exact .done
  · rw [attempt_bind]
    exact (resolve_finds scope name).bind fun _ => .done

theorem classObject_finds (name : String) :
    Finds P (attempt (scope.resolution.classObject name)) fun _ => P := by
  simp only [Resolution.classObject, attempt_bind]
  refine (resolve_finds scope name).bind fun type => Finds.call.bind fun found => ?_
  split
  · exact .done
  · exact .throw rfl

theorem textOf_finds (value : Value) : Finds P (textOf scope value) fun _ => P := by
  unfold textOf
  split
  · exact .done
  · exact .call
  · refine Finds.call.bind fun answer => ?_
    split
    · exact .call
    · exact .done
    · exact .throw rfl
  · split
    · exact .done
    · exact .throw rfl

theorem binary_finds (op : BinaryOp) (left right : Value) :
    Finds P (binary scope op left right) fun _ => P := by
  unfold binary
  split
  · refine (textOf_finds scope left).bind fun first => ?_
    exact (textOf_finds scope right).bind fun second => .call
  · refine .compute fun failed => ?_
    rcases BinaryOp.cause_of_apply failed with rfl | rfl
    · rfl
    · rfl

theorem index_finds (value : Value) : Finds P (compute value.index) fun _ => P := by
  refine .compute fun failed => ?_
  rw [Value.cause_of_index failed]
  rfl

theorem isInstance_finds (handle : ObjectRef) (type : TypeRef) :
    Finds P (isInstance handle type) fun _ => P :=
  Finds.call.bind fun _ => .call

theorem cast_finds (value : Value) (typeName : String) : Finds P (cast scope value typeName) fun _ => P := by
  have checks (handle : ObjectRef) (type : TypeRef) (found : Value) (fault : Fault)
      (own : fault.missing? = none) :
      Finds P (do if ← isInstance handle type then return found else throw fault) fun _ => P := by
    refine (isInstance_finds handle type).bind fun fits => ?_
    split
    · exact .done
    · exact .throw own
  refine (declared_finds scope typeName).bind fun declared => ?_
  split
  · exact .elim rfl
  · split
    · exact .done
    · exact checks _ _ _ _ rfl
    · exact checks _ _ _ _ rfl
    · exact .throw rfl

theorem instanceOf_finds (value : Value) (typeName : String) :
    Finds P (instanceOf scope value typeName) fun _ => P := by
  unfold instanceOf
  split
  · exact .done
  · exact (resolve_finds scope typeName).bind fun _ => isInstance_finds _ _
  · exact (resolve_finds scope typeName).bind fun _ => isInstance_finds _ _
  · exact .throw rfl

theorem allocate_finds (arrayType : String) (length : Int32) :
    Finds P (allocate scope arrayType length) fun _ => P := by
  unfold allocate
  split
  · exact .throw_bind rfl
  · refine (resolve_finds scope arrayType).bind fun type => Finds.call.bind fun category => ?_
    dsimp only
    split
    · exact .throw_bind rfl
    · exact .call

end Inquiries

/-! ### Variables that exist -/

section Variables

variable {scope : Scope} {internals : Internals} {name : String} {held : InternalVariable}

theorem popValue_internal_iff {m m' : Machine} {s t : Bool} {passed : List (Exchange Bool)}
    {rest : List StackEntry} (stack : m.stack = .place (.internal name) :: rest)
    (found : m.internals.get? name = some held) {r : Except Fault Value} :
    Course (popValue scope) m s passed r m' t ↔
      passed = [] ∧ r = .ok held.value ∧ m' = { m with stack := rest } ∧ t = s := by
  have read : (m.internals.get name).map (·.value) = .ok held.value := by
    rw [Internals.get_of_get? found]
    rfl
  rw [popValue_iff, stack]
  constructor
  · rintro (⟨impossible, -⟩ | ⟨_, _, same, reads, rfl⟩)
    · cases impossible
    · cases same
      cases reads with
      | internal => exact ⟨rfl, read, rfl, rfl⟩
      | target inside => cases inside
  · rintro ⟨rfl, rfl, rfl, rfl⟩
    have reads : Reads scope m.internals (.place (.internal name)) t [] _ t := .internal
    rw [read] at reads
    exact .inr ⟨_, rest, rfl, reads, rfl⟩

theorem writeVariable_internal_iff {m m' : Machine} {s t : Bool} {passed : List (Exchange Bool)}
    {value : Value} (stored : m.internals.set name value = .ok internals) {r : Except Fault Unit} :
    Course (writeVariable scope (.internal name) value) m s passed r m' t ↔
      passed = [] ∧ r = .ok () ∧ m' = { m with internals } ∧ t = s := by
  refine get_bind_iff.trans ?_
  rw [stored, compute, pure_bind]
  exact modify_iff

/-- What an assignment stores of a value: a declared primitive takes the kind of its declaration, and a
reference takes no primitive. -/
def adopt (held : InternalVariable) (value : Value) : Except Fault Value :=
  if held.kind = .object then
    if value.isPrimitive then .error (.invalidCast value.kind held.kind.name) else .ok value
  else convertTo value held.kind

theorem assigned_internal_iff {m m' : Machine} {s t : Bool} {passed : List (Exchange Bool)}
    {value : Value} (found : m.internals.get? name = some held) {r : Except Fault Value} :
    Course (assigned scope (.internal name) value) m s passed r m' t ↔
      passed = [] ∧ r = adopt held value ∧ m' = m ∧ t = s := by
  refine get_bind_iff.trans ?_
  rw [Internals.get_of_get? found, compute, pure_bind]
  dsimp only
  unfold adopt
  split
  · split
    · exact throw_iff
    · exact pure_iff
  · exact compute_iff

/-- Whoever reads, assigns to or writes a variable that exists succeeds, as far as the variable goes. -/
structure Accessible (scope : Scope) (internals : Internals) (name : String) (held : InternalVariable) :
    Prop where
  found : internals.get? name = some held
  reads : ∀ m s passed r m' t, m.internals = internals →
    (Course (readVariable scope (.internal name)) m s passed r m' t ↔
      passed = [] ∧ r = .ok held.value ∧ m' = m ∧ t = s)
  pops : ∀ m s passed r m' t rest, m.internals = internals → m.stack = .place (.internal name) :: rest →
    (Course (popValue scope) m s passed r m' t ↔
      passed = [] ∧ r = .ok held.value ∧ m' = { m with stack := rest } ∧ t = s)
  /-- The declared kind is looked up. -/
  assigns : ∀ value m s passed r m' t, m.internals = internals →
    (Course (assigned scope (.internal name) value) m s passed r m' t ↔
      passed = [] ∧ r = adopt held value ∧ m' = m ∧ t = s)
  writes : ∀ value, ∃ internals', internals.set name value = .ok internals' ∧
    ∀ m s passed r m' t, m.internals = internals →
      (Course (writeVariable scope (.internal name) value) m s passed r m' t ↔
        passed = [] ∧ r = .ok () ∧ m' = { m with internals := internals' } ∧ t = s)

theorem exists_accessible (scope : Scope) (known : internals.contains name = true) :
    ∃ held, Accessible scope internals name held := by
  obtain ⟨held, found⟩ := Internals.contains_iff.mp known
  refine ⟨held, found, ?_, ?_, ?_, fun value => ?_⟩
  · rintro m s passed r m' t rfl
    rw [readVariable_internal_iff, Internals.get_of_get? found]
    rfl
  · rintro m s passed r m' t rest rfl stack
    exact popValue_internal_iff stack found
  · rintro value m s passed r m' t rfl
    exact assigned_internal_iff found
  · obtain ⟨internals', stored⟩ : ∃ internals', internals.set name value = .ok internals' :=
      ⟨_, if_pos known⟩
    refine ⟨internals', stored, ?_⟩
    rintro m s passed r m' t rfl
    exact writeVariable_internal_iff stored

theorem missing_of_adopt {value : Value} {fault : Fault} (fails : adopt held value = .error fault) :
    fault.missing? = none := by
  unfold adopt at fails
  split at fails
  · split at fails
    · cases fails
      rfl
    · cases fails
  · rw [eq_of_elim_error fails]
    rfl

/-- Reading an entry that is known fails only if it is a variable of the target, and the target refuses. -/
theorem Reads.refused {entry : StackEntry} {s t : Bool} {passed : List (Exchange Bool)} {fault : Fault}
    (reads : Reads scope internals entry s passed (.error fault) t) (known : entry.Known internals) :
    ∃ place failure, entry = .place place ∧ place.inTarget = true ∧ fault = .remote failure := by
  generalize failed : (Except.error fault : Except Fault Value) = r at reads
  cases reads with
  | value => cases failed
  | internal =>
      obtain ⟨held, found⟩ := Internals.contains_iff.mp known
      rw [Internals.get_of_get? found] at failed
      cases failed
  | @target place _ _ reply inside =>
      cases reply with
      | ok value => cases failed
      | error failure =>
          cases failed
          exact ⟨place, failure, rfl, inside, rfl⟩

end Variables

/-! ### Parts that use variables -/

section Parts

variable (scope : Scope) {P : Machine → Prop}

theorem valueOf_finds (entry : StackEntry) (known : ∀ m, P m → entry.Known m.internals) :
    Finds P (valueOf scope entry) fun _ => P := by
  intro m s passed r m' t holds course
  obtain ⟨reads, rfl⟩ := valueOf_iff.mp course
  cases r with
  | ok value => exact holds
  | error fault =>
      obtain ⟨-, failure, -, -, rfl⟩ := reads.refused (known _ holds)
      rfl

theorem readVariable_finds (place : Variable)
    (known : ∀ m, P m → (StackEntry.place place).Known m.internals) :
    Finds P (readVariable scope place) fun _ => P :=
  valueOf_finds scope (.place place) known

theorem adapted_finds (current value : Value) : Finds P (adapted current value) fun _ => P := by
  unfold adapted
  split
  · exact .elim rfl
  · exact .done

theorem assigned_finds (place : Variable) (value : Value)
    (known : ∀ m, P m → (StackEntry.place place).Known m.internals) :
    Finds P (assigned scope place value) fun _ => P := by
  cases inside : place.inTarget with
  | true =>
      rw [assigned_of_inTarget inside]
      split
      · exact (readVariable_finds scope place known).bind fun current => adapted_finds current value
      · exact .done
  | false =>
      cases place with
      | internal name =>
          intro m s passed r m' t holds course
          obtain ⟨held, accessible⟩ := exists_accessible scope (known m holds)
          obtain ⟨-, rfl, rfl, -⟩ := (accessible.assigns _ _ _ _ _ _ _ rfl).mp course
          cases adopted : adopt held value with
          | ok stored => exact holds
          | error fault => exact missing_of_adopt adopted
      | frameLocal | field | staticField | element => cases inside

theorem writeVariable_finds (place : Variable) (value : Value) :
    Finds (fun m => m.Anchored ∧ (StackEntry.place place).Known m.internals)
      (writeVariable scope place value) fun _ => Machine.Anchored := by
  have calls {c : Call} : Finds (fun m => m.Anchored ∧ (StackEntry.place place).Known m.internals) (call c)
      fun _ => Machine.Anchored := Finds.call.weaken fun _ _ holds => holds.1
  cases place with
  | internal name =>
      intro m s passed r m' t ⟨anchored, known⟩ course
      obtain ⟨held, accessible⟩ := exists_accessible scope known
      obtain ⟨internals', stored, writes⟩ := accessible.writes value
      obtain ⟨-, rfl, rfl, -⟩ := (writes _ _ _ _ _ _ rfl).mp course
      exact anchored.grow fun _ => Internals.contains_of_set stored
  | frameLocal | field | staticField | element => exact calls

theorem pop_finds : Finds Machine.Anchored pop fun entry m => m.Anchored ∧ entry.Known m.internals := by
  intro m s passed r m' t anchored course
  obtain ⟨-, -, ⟨-, rfl, -⟩ | ⟨entry, rest, stack, rfl, rfl⟩⟩ := pop_course course
  · rfl
  · exact (anchored.top stack).symm

theorem popValue_finds : Finds Machine.Anchored (popValue scope) fun _ => Machine.Anchored := by
  refine pop_finds.bind fun entry => ?_
  exact (valueOf_finds scope entry fun _ holds => holds.2).weaken fun _ _ holds => holds.1

theorem popVariable_finds : Finds Machine.Anchored popVariable
    fun place m => m.Anchored ∧ (StackEntry.place place).Known m.internals := by
  refine pop_finds.bind fun entry => ?_
  cases entry with
  | place place => exact .pure fun _ holds => holds
  | value value => exact .throw rfl

theorem popObject_finds : Finds Machine.Anchored (popObject scope) fun _ => Machine.Anchored := by
  refine (popValue_finds scope).bind fun value => ?_
  cases value <;> first | exact .done | exact .throw rfl

theorem popArguments_finds (count : Nat) :
    Finds Machine.Anchored (popArguments scope count) fun _ => Machine.Anchored := by
  induction count with
  | zero => exact .done
  | succ count ih =>
      refine (popValue_finds scope).bind fun last => ih.bind fun arguments => ?_
      exact .done

theorem declare_finds (name typeName : String) :
    Finds Machine.Anchored (declare scope name typeName) fun _ => Machine.Anchored := by
  have declares (held : InternalVariable) : Finds Machine.Anchored (do
      let internals ← compute ((← get).internals.create name held)
      modify fun m => { m with internals }) fun _ => Machine.Anchored := by
    intro m s passed r m' t anchored course
    obtain ⟨-, -, ⟨fault, failed, rfl, -⟩ | ⟨internals, created, rfl, rfl⟩⟩ :=
      replace_machine (x := (·.create name held)) course
    · rw [Internals.cause_of_create failed]
      rfl
    · exact anchored.grow fun _ => Internals.contains_of_create created
  unfold declare
  refine (declared_finds scope typeName).bind fun declared => ?_
  split
  · split
    · exact declares _
    · exact .throw_bind rfl
  · exact declares _

/-- What is pushed has to be known. -/
theorem push_finds {entry : StackEntry} (known : ∀ m, P m → m.Anchored ∧ entry.Known m.internals) :
    Finds P (push entry) fun _ => Machine.Anchored :=
  .modify fun m holds => (known m holds).1.push (known m holds).2

/-- The end of most instructions: an entry goes onto the stack, and the next instruction follows. -/
theorem push_next_finds {entry : StackEntry} (known : ∀ internals, entry.Known internals) :
    Finds Machine.Anchored (do push entry; return Flow.next) fun _ => Machine.Anchored :=
  (push_finds fun _ anchored => ⟨anchored, known _⟩).bind fun _ => .done

/-- An assignment of either kind finds its variable. -/
theorem assignment_finds {instruction : Instruction} {make : Variable → Value → Evaluation Value}
    (makes : making? scope instruction = some make) :
    Finds Machine.Anchored (execute scope instruction) fun _ => Machine.Anchored := by
  -- The variable is off the stack by now, so that it is known has to be carried along until it is written.
  have made (place : Variable) (value : Value) :
      Finds (fun m => m.Anchored ∧ (StackEntry.place place).Known m.internals) (make place value)
        fun _ m => m.Anchored ∧ (StackEntry.place place).Known m.internals := by
    cases instruction with
    | assign =>
        cases makes
        exact assigned_finds scope place value fun _ holds => holds.2
    | compoundAssign op =>
        cases makes
        refine (readVariable_finds scope place fun _ holds => holds.2).bind fun current => ?_
        exact (binary_finds scope op current value).bind fun result => adapted_finds current result
    | _ => cases makes
  have offers : Finds Machine.Anchored (operands scope)
      fun offered m => m.Anchored ∧ (StackEntry.place offered.2).Known m.internals :=
    (popValue_finds scope).bind fun _ => popVariable_finds.bind fun _ => .pure fun _ holds => holds
  have stores (place : Variable) (value : Value) :
      Finds (fun m => m.Anchored ∧ (StackEntry.place place).Known m.internals) (store scope place value)
        fun _ => Machine.Anchored :=
    (writeVariable_finds scope place value).bind fun _ => push_finds fun _ anchored => ⟨anchored, trivial⟩
  rw [execute_of_making makes]
  refine .bind ?_ fun _ => .done
  exact offers.bind fun offered => (made offered.2 offered.1).bind fun value => stores offered.2 value

/-- An instruction that pushes no internal variable misses none, and it leaves no dangling reference. -/
theorem execute_finds (instruction : Instruction) (other : ∀ name, instruction ≠ .pushInternal name) :
    Finds Machine.Anchored (execute scope instruction) fun _ => Machine.Anchored := by
  have pushed {entry : StackEntry} (known : ∀ internals, entry.Known internals) := push_next_finds known
  cases instruction with
  | pushLiteral literal =>
      cases literal with
      | string text => exact Finds.call.bind fun value => pushed fun _ => trivial
      | _ => exact pushed fun _ => trivial
  | pushNull => exact pushed fun _ => trivial
  | pushThis => exact Finds.call.bind fun value => pushed fun _ => trivial
  | pushClassObject typeName =>
      exact (classObject_finds scope typeName).bind fun value => pushed fun _ => trivial
  | pushLocal name => exact pushed fun _ => trivial
  | pushField name => exact (popObject_finds scope).bind fun object => pushed fun _ => trivial
  | pushStatic typeName name => exact (resolve_finds scope typeName).bind fun type => pushed fun _ => trivial
  | pushInternal name => exact absurd rfl (other name)
  | createInternal name typeName => exact (declare_finds scope name typeName).bind fun _ => .done
  | arrayAccess =>
      refine (popValue_finds scope).bind fun value => (index_finds value).bind fun index => ?_
      exact (popObject_finds scope).bind fun array => pushed fun _ => trivial
  | arrayLength =>
      refine (popObject_finds scope).bind fun array => ?_
      exact Finds.call.bind fun length => pushed fun _ => trivial
  | newArray arrayType =>
      refine (popValue_finds scope).bind fun value => (index_finds value).bind fun length => ?_
      exact (allocate_finds scope arrayType length).bind fun array => pushed fun _ => trivial
  | send selector signature argCount nonVirtual =>
      refine (popArguments_finds scope argCount).bind fun arguments => ?_
      refine (popObject_finds scope).bind fun receiver => ?_
      exact Finds.call.bind fun value => pushed fun _ => trivial
  | sendStatic typeName selector signature argCount =>
      refine (popArguments_finds scope argCount).bind fun arguments => ?_
      refine (resolve_finds scope typeName).bind fun type => ?_
      exact Finds.call.bind fun value => pushed fun _ => trivial
  | newObject typeName signature argCount =>
      refine (popArguments_finds scope argCount).bind fun arguments => ?_
      refine (resolve_finds scope typeName).bind fun type => ?_
      exact Finds.call.bind fun value => pushed fun _ => trivial
  | binary op =>
      refine (popValue_finds scope).bind fun right => (popValue_finds scope).bind fun left => ?_
      exact (binary_finds scope op left right).bind fun value => pushed fun _ => trivial
  | unary op =>
      refine (popValue_finds scope).bind fun operand => ?_
      exact (Finds.elim rfl).bind fun value => pushed fun _ => trivial
  | cast typeName =>
      refine (popValue_finds scope).bind fun value => ?_
      exact (cast_finds scope value typeName).bind fun _ => pushed fun _ => trivial
  | instanceOf typeName =>
      refine (popValue_finds scope).bind fun value => ?_
      exact (instanceOf_finds scope value typeName).bind fun _ => pushed fun _ => trivial
  | assign => exact assignment_finds scope rfl
  | compoundAssign op => exact assignment_finds scope rfl
  | pop =>
      refine (popValue_finds scope).bind fun value => ?_
      have noted : Finds Machine.Anchored (modify fun m : Machine => { m with lastValue := some value })
          fun _ => Machine.Anchored := .modify fun _ anchored => anchored
      exact noted.bind fun _ => .done
  | dup =>
      refine .get fun m anchored => ?_
      split
      · exact .throw_bind rfl
      · rename_i top rest stack
        have known : top.Known m.internals := (anchored.top stack).1
        refine (push_finds ?_).bind fun _ => .done
        rintro _ rfl
        exact ⟨anchored, known⟩
  | jump offset => exact .done
  | conditionalJump offset jumpOn =>
      refine (popValue_finds scope).bind fun value => ?_
      refine (Finds.compute fun failed => ?_).bind fun condition => .done
      rw [Value.cause_of_truth failed]
      rfl
  | «return» => exact .done
  | noOp => exact .done

end Parts

end Evaluation

end RemoteDebug
