import RemoteDebug.Proofs.Composition

/-!
What evaluations find out without changing anything.

Most parts of an instruction only inquire: they look at internal variables, call the target and compute.
Such a part leaves the machine as it is, and it goes the same way whatever lies on the stack. The variables
of the target are not written by it.

* `Variable.reading` and `Variable.writing` are what passes when a variable is read or written; nothing
  passes for a variable of the interpreter.
* `Evaluation.Inquires` says that an evaluation only inquires. The text of an evaluation is followed by
  `Inquires.bind`, and `Inquires.bind_iff` takes it apart.
-/

namespace RemoteDebug

/-! ### Reading and writing variables of the target -/

/-- Calls that write a variable of the target. -/
def Call.isWrite : Call → Bool
  | .setArrayElement .. | .setFieldValue .. | .setStaticFieldValue .. | .setLocalValue .. => true
  | _ => false

def Exchange.isWrite {σ : Type} : Exchange σ → Bool
  | .asked (.call c) _ _ _ => c.isWrite
  | _ => false

/-- No variable of the target is written. -/
def Writeless {σ : Type} (passed : List (Exchange σ)) : Prop := ∀ e ∈ passed, e.isWrite = false

namespace Writeless

variable {σ : Type} {first second : List (Exchange σ)}

theorem nil : Writeless ([] : List (Exchange σ)) := List.forall_mem_nil _

theorem singleton {e : Exchange σ} (reads : e.isWrite = false) : Writeless [e] :=
  List.forall_mem_singleton.mpr reads

theorem append_iff : Writeless (first ++ second) ↔ Writeless first ∧ Writeless second :=
  List.forall_mem_append

theorem append (head : Writeless first) (tail : Writeless second) : Writeless (first ++ second) :=
  append_iff.mpr ⟨head, tail⟩

end Writeless

namespace Variable

/-- Places in the target; the others belong to the interpreter. -/
def inTarget : Variable → Bool
  | .internal _ => false
  | _ => true

/-- What passes when a variable is read. -/
def reading {σ : Type} (scope : Scope) (s : σ) (reply : Except RemoteFailure Value) (t : σ) :
    Variable → List (Exchange σ)
  | .internal _ => []
  | .frameLocal name =>
    [.asked (.call (.localValue scope.frame.thread scope.frame.depth name)) s reply t]
  | .field object name => [.asked (.call (.fieldValue object name)) s reply t]
  | .staticField type name => [.asked (.call (.staticFieldValue type name)) s reply t]
  | .element array index => [.asked (.call (.arrayElement array index)) s reply t]

/-- What passes when a value is written to a variable. -/
def writing {σ : Type} (scope : Scope) (value : Value) (s : σ) (reply : Except RemoteFailure Unit)
    (t : σ) : Variable → List (Exchange σ)
  | .internal _ => []
  | .frameLocal name =>
    [.asked (.call (.setLocalValue scope.frame.thread scope.frame.depth name value)) s reply t]
  | .field object name => [.asked (.call (.setFieldValue object name value)) s reply t]
  | .staticField type name => [.asked (.call (.setStaticFieldValue type name value)) s reply t]
  | .element array index => [.asked (.call (.setArrayElement array index value)) s reply t]

variable {σ : Type} {scope : Scope} {place : Variable}

theorem reading_writeless {s t : σ} {reply : Except RemoteFailure Value} :
    Writeless (place.reading scope s reply t) := by
  cases place with
  | internal name => exact .nil
  | frameLocal name => exact .singleton rfl
  | field object name => exact .singleton rfl
  | staticField type name => exact .singleton rfl
  | element array index => exact .singleton rfl

/-- Only the write itself is a write, and of a variable in the target it is one exchange. -/
theorem writing_eq_singleton (target : place.inTarget = true) (scope : Scope) (value : Value) (s t : σ)
    (reply : Except RemoteFailure Unit) :
    ∃ e : Exchange σ, place.writing scope value s reply t = [e] ∧ e.isWrite = true := by
  cases place with
  | internal name => cases target
  | frameLocal name => exact ⟨_, rfl, rfl⟩
  | field object name => exact ⟨_, rfl, rfl⟩
  | staticField type name => exact ⟨_, rfl, rfl⟩
  | element array index => exact ⟨_, rfl, rfl⟩

end Variable

namespace Evaluation

variable {α β : Type} {m m' : Machine} {s t : Bool} {passed : List (Exchange Bool)}

/-- The evaluation leaves the machine as it is, looks at nothing of it but the internal variables, and
writes no variable of the target. -/
def Inquires (x : Evaluation α) : Prop :=
  ∀ m s passed r m' t, Course x m s passed r m' t → m' = m ∧ Writeless passed ∧
    ∀ u : Machine, u.internals = m.internals → Course x u s passed r u t

namespace Inquires

theorem pure (a : α) : Inquires (Pure.pure a) := by
  intro m s passed r m' t course
  obtain ⟨rfl, rfl, rfl, rfl⟩ := pure_iff.mp course
  exact ⟨rfl, .nil, fun u _ => pure_iff.mpr ⟨rfl, rfl, rfl, rfl⟩⟩

theorem throw {fault : Fault} : Inquires (MonadExcept.throw fault : Evaluation α) := by
  intro m s passed r m' t course
  obtain ⟨rfl, rfl, rfl, rfl⟩ := throw_iff.mp course
  exact ⟨rfl, .nil, fun u _ => throw_iff.mpr ⟨rfl, rfl, rfl, rfl⟩⟩

theorem compute (x : Except Fault α) : Inquires (Evaluation.compute x) := by
  cases x with
  | ok a => exact pure a
  | error fault => exact throw

theorem bind {x : Evaluation α} {f : α → Evaluation β} (first : Inquires x)
    (rest : ∀ a, Inquires (f a)) : Inquires (x >>= f) := by
  intro m s passed r m' t course
  rcases bind_iff.mp course with ⟨fault, head, rfl⟩ | ⟨a, n, v, _, _, head, tail, rfl⟩
  · obtain ⟨rfl, writeless, moves⟩ := first _ _ _ _ _ _ head
    exact ⟨rfl, writeless, fun u same => bind_iff.mpr (.inl ⟨fault, moves u same, rfl⟩)⟩
  · obtain ⟨rfl, writeless, moves⟩ := first _ _ _ _ _ _ head
    obtain ⟨rfl, writeless', moves'⟩ := rest a _ _ _ _ _ _ tail
    exact ⟨rfl, writeless.append writeless', fun u same =>
      bind_iff.mpr (.inr ⟨a, u, v, _, _, moves u same, moves' u same, rfl⟩)⟩

/-- What would follow a failure does not matter. -/
theorem throw_bind {fault : Fault} {f : α → Evaluation β} : Inquires (MonadExcept.throw fault >>= f) :=
  throw (α := β)

/-- Nothing but the internal variables is looked at. -/
theorem look {f : Machine → Evaluation β} (rest : ∀ m, Inquires (f m))
    (blind : ∀ m u, u.internals = m.internals → f u = f m) : Inquires (MonadState.get >>= f) := by
  intro m s passed r m' t course
  obtain ⟨same, writeless, moves⟩ := rest m _ _ _ _ _ _ (get_bind_iff.mp course)
  refine ⟨same, writeless, fun u alike => get_bind_iff.mpr ?_⟩
  rw [blind m u alike]
  exact moves u alike

theorem attempt {x : Attempt Bool α}
    (writeless : ∀ s passed r t, x.run.Course s passed r t → Writeless passed) :
    Inquires (Evaluation.attempt x) := by
  intro m s passed r m' t course
  obtain ⟨attempts, rfl⟩ := attempt_iff.mp course
  exact ⟨rfl, writeless _ _ _ _ attempts, fun u _ => attempt_iff.mpr ⟨attempts, rfl⟩⟩

theorem call {c : Call} (other : c.isWrite = false) : Inquires (Evaluation.call c) := by
  refine attempt fun s passed r t course => ?_
  obtain ⟨answer, rfl, -⟩ := Attempt.call_iff.mp course
  exact .singleton other

/-- A call whose failure is looked at. -/
theorem ask {c : Call} (other : c.isWrite = false) :
    Inquires (Evaluation.attempt (perform (.call c))) := by
  refine attempt fun s passed r t course => ?_
  obtain ⟨answer, asks, -⟩ := Operation.Course.run_perform_iff.mp course
  rw [Operation.Course.ask_iff.mp asks]
  exact .singleton other

theorem log (entry : LogEntry) : Inquires (Evaluation.attempt (perform (.log entry))) := by
  refine attempt fun s passed r t course => ?_
  obtain ⟨_, tells, -⟩ := Operation.Course.run_perform_iff.mp course
  rw [(Operation.Course.tell_iff.mp tells).1]
  exact .singleton rfl

variable {x : Evaluation α} {f : α → Evaluation β} {r : Except Fault β}

/-- What follows an inquiry goes on with the same machine. -/
theorem bind_iff (inquires : Inquires x) : Course (x >>= f) m s passed r m' t ↔
    (∃ fault, Course x m s passed (.error fault) m t ∧ r = .error fault ∧ m' = m) ∨
      ∃ a u first second, Course x m s first (.ok a) m u ∧ Course (f a) m u second r m' t ∧
        passed = first ++ second := by
  rw [Evaluation.bind_iff]
  constructor
  · rintro (⟨fault, fails, rfl⟩ | ⟨a, n, u, first, second, head, tail, rfl⟩)
    · obtain ⟨rfl, -, -⟩ := inquires _ _ _ _ _ _ fails
      exact .inl ⟨fault, fails, rfl, rfl⟩
    · obtain ⟨rfl, -, -⟩ := inquires _ _ _ _ _ _ head
      exact .inr ⟨a, u, first, second, head, tail, rfl⟩
  · rintro (⟨fault, fails, rfl, rfl⟩ | ⟨a, u, first, second, head, tail, rfl⟩)
    · exact .inl ⟨fault, fails, rfl⟩
    · exact .inr ⟨a, m, u, first, second, head, tail, rfl⟩

end Inquires

/-! ### Parts of instructions that inquire -/

section Parts

variable (scope : Scope)

theorem load_inquires (name : String) : Inquires (attempt (scope.resolution.load name)) := by
  simp only [Resolution.load, attempt_bind]
  refine (Inquires.call rfl).bind fun types => ?_
  split
  · rw [attempt_bind]
    refine (Inquires.call rfl).bind fun argument => ?_
    rw [attempt_bind]
    refine (Inquires.ask rfl).bind fun loaded => ?_
    split
    · exact .pure _
    · split
      · rw [attempt_bind]
        exact (Inquires.log _).bind fun _ => .pure _
      · exact .throw
  · exact .throw

theorem pick_inquires (classObject : ObjectRef) (candidates : List TypeRef) :
    Inquires (attempt (Resolution.pick classObject candidates)) := by
  induction candidates with
  | nil => exact .pure none
  | cons candidate rest ih =>
      rw [Resolution.pick, attempt_bind]
      refine (Inquires.call rfl).bind fun found => ?_
      split
      · exact .pure _
      · exact ih

theorem resolve_inquires (name : String) : Inquires (attempt (scope.resolution.resolve name)) := by
  simp only [Resolution.resolve, attempt_bind]
  refine (load_inquires scope name).bind fun loaded => (Inquires.call rfl).bind fun types => ?_
  split
  · exact .throw
  · exact .pure _
  · split
    · exact .throw
    · rw [attempt_bind]
      refine (pick_inquires _ _).bind fun picked => ?_
      split
      · exact .pure _
      · rw [attempt_bind]
        exact (Inquires.log _).bind fun _ => .throw

theorem declared_inquires (name : String) : Inquires (attempt (scope.resolution.declared name)) := by
  unfold Resolution.declared
  split
  · exact .throw
  · exact .pure _
  · rw [attempt_bind]
    exact (resolve_inquires scope name).bind fun _ => .pure _

theorem readVariable_inquires (place : Variable) : Inquires (readVariable scope place) := by
  cases place with
  | internal name =>
      refine .look (fun m => (Inquires.compute _).bind fun _ => .pure _) fun m u same => ?_
      rw [same]
  | frameLocal name => exact .call rfl
  | field object name => exact .call rfl
  | staticField type name => exact .call rfl
  | element array index => exact .call rfl

theorem valueOf_inquires (entry : StackEntry) : Inquires (valueOf scope entry) := by
  cases entry with
  | value value => exact .pure _
  | place place => exact readVariable_inquires scope place

theorem textOf_inquires (value : Value) : Inquires (textOf scope value) := by
  unfold textOf
  split
  · exact .pure _
  · exact .call rfl
  · refine (Inquires.call rfl).bind fun answer => ?_
    split
    · exact .call rfl
    · exact .pure _
    · exact .throw
  · split
    · exact .pure _
    · exact .throw

theorem binary_inquires (op : BinaryOp) (left right : Value) :
    Inquires (binary scope op left right) := by
  unfold binary
  split
  · refine (textOf_inquires scope left).bind fun first => ?_
    exact (textOf_inquires scope right).bind fun second => .call rfl
  · exact .compute _

theorem isInstance_inquires (handle : ObjectRef) (type : TypeRef) : Inquires (isInstance handle type) :=
  (Inquires.call rfl).bind fun _ => .call rfl

theorem cast_inquires (value : Value) (typeName : String) : Inquires (cast scope value typeName) := by
  have checks (handle : ObjectRef) (type : TypeRef) (found : Value) (fault : Fault) :
      Inquires (do if ← isInstance handle type then return found else throw fault) := by
    refine (isInstance_inquires handle type).bind fun fits => ?_
    split
    · exact .pure _
    · exact .throw
  refine (declared_inquires scope typeName).bind fun declared => ?_
  split
  · exact .compute _
  · split
    · exact .pure _
    · exact checks _ _ _ _
    · exact checks _ _ _ _
    · exact .throw

theorem instanceOf_inquires (value : Value) (typeName : String) :
    Inquires (instanceOf scope value typeName) := by
  unfold instanceOf
  split
  · exact .pure _
  · exact (resolve_inquires scope typeName).bind fun _ => isInstance_inquires _ _
  · exact (resolve_inquires scope typeName).bind fun _ => isInstance_inquires _ _
  · exact .throw

theorem assigned_inquires (place : Variable) (value : Value) :
    Inquires (assigned scope place value) := by
  unfold assigned
  split
  · refine .look (fun m => (Inquires.compute _).bind fun declared => ?_) fun m u same => ?_
    · dsimp only
      split
      · split
        · exact .throw
        · exact .pure _
      · exact .compute _
    · rw [same]
  · split
    · exact .pure _
    · refine (readVariable_inquires scope place).bind fun current => ?_
      split
      · exact .pure _
      · exact .compute _

end Parts

end Evaluation

end RemoteDebug
