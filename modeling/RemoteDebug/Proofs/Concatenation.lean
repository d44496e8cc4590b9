import Mathlib.Data.List.Forall2
import RemoteDebug.Proofs.Shorthand

/-!
Joining texts in the target.

A sum with a string joins texts: that of a primitive value is made here, that of a string is read in the
target, and an object is asked for its own. A chain of sums leaves one string, made of all the texts in the
order of the operands.

* `Scene` is what a target shows: the texts of its strings, and the values in a frame. `Scene.Serves` says that
  the target keeps to it and answers every call.
* `Value.Contributes` tells the text of a value and the invocations that it takes, `ContributeInTurn` those of
  several values.
* `Evaluation.textOf_contributes`, `binary_contributes` and `add_contributes` go up from the text of a value to
  the instruction that joins two, `Walk.concatenates` is the induction along a chain.
* `Interpreter.concatenation` is the statement about runs.
-/

namespace RemoteDebug

/-- What a target shows: the texts of its strings, the receiver and the local variables of a frame. -/
structure Scene where
  text : ObjectRef → String
  receiver : Value
  locals : String → Value

/-- The invocation that asks an object for its text. -/
def Scope.asking (scope : Scope) (object : ObjectRef) : Call :=
  .invokeMethod object scope.settings.toStringMethod scope.settings.toStringSignature []
    scope.frame.thread false

/-- An invocation and what it returned. -/
def Exchange.invocation? : Exchange Bool → Option (Call × Value)
  | .asked (.call (.invokeMethod receiver method signature args thread nonVirtual)) _ (.ok value) _ =>
    some (.invokeMethod receiver method signature args thread nonVirtual, value)
  | _ => none

/-- The text of a string that is to be created. -/
def Exchange.creation? : Exchange Bool → Option String
  | .asked (.call (.newString text)) _ _ _ => some text
  | _ => none

/-- The invocations on the way, in order. -/
def invocations (passed : List (Exchange Bool)) : List (Call × Value) :=
  passed.filterMap Exchange.invocation?

/-- The strings that are created on the way, in order. -/
def creations (passed : List (Exchange Bool)) : List String := passed.filterMap Exchange.creation?

section Passing

variable {first second : List (Exchange Bool)}

@[simp]
theorem invocations_append : invocations (first ++ second) = invocations first ++ invocations second :=
  List.filterMap_append

@[simp]
theorem creations_append : creations (first ++ second) = creations first ++ creations second :=
  List.filterMap_append

end Passing

namespace Scene

variable {scene : Scene}

/-- An answer as the scene has it. A new string has the text that was given, and what an object returns for its
text is a string or `null`. -/
def Suits (scene : Scene) : (c : Call) → c.Answer → Prop
  | .newString text, made => ∃ handle, made = .string handle ∧ scene.text handle = text
  | .stringValue handle, text => text = scene.text handle
  | .invokeMethod .., returned => returned = .null ∨ ∃ handle, returned = .string handle
  | .thisObject .., value => value = scene.receiver
  | .localValue _ _ name, value => value = scene.locals name
  | _, _ => True

/-- Every call succeeds with a suitable answer, and meanwhile nobody stops the evaluation. -/
structure Serves (scene : Scene) (passed : List (Exchange Bool)) : Prop where
  suits : ∀ c s reply t, .asked (.call c) s reply t ∈ passed →
    ∃ answer, reply = .ok answer ∧ scene.Suits c answer
  undisturbed : ∀ q s reply t, .asked q s reply t ∈ passed → t = s

/-- The value that an entry of the stack has. -/
def Shows (scene : Scene) : StackEntry → Value → Prop
  | .value value, shown => shown = value
  | .place (.frameLocal name), shown => shown = scene.locals name
  | .place _, _ => False

theorem Serves.of_subset {first second : List (Exchange Bool)} (serves : scene.Serves second)
    (within : ∀ e ∈ first, e ∈ second) : scene.Serves first where
  suits c s reply t mem := serves.suits c s reply t (within _ mem)
  undisturbed q s reply t mem := serves.undisturbed q s reply t (within _ mem)

theorem Serves.left {first second : List (Exchange Bool)} (serves : scene.Serves (first ++ second)) :
    scene.Serves first :=
  serves.of_subset fun _ mem => List.mem_append_left _ mem

theorem Serves.right {first second : List (Exchange Bool)} (serves : scene.Serves (first ++ second)) :
    scene.Serves second :=
  serves.of_subset fun _ mem => List.mem_append_right _ mem

theorem Serves.tail {e : Exchange Bool} {later : List (Exchange Bool)} (serves : scene.Serves (e :: later)) :
    scene.Serves later :=
  serves.of_subset fun _ mem => List.mem_cons_of_mem _ mem

theorem Serves.nil : scene.Serves [] where
  suits _ _ _ _ mem := absurd mem List.not_mem_nil
  undisturbed _ _ _ _ mem := absurd mem List.not_mem_nil

theorem Serves.told {n : Note} {later : List (Exchange Bool)} (serves : scene.Serves later) :
    scene.Serves (.told n :: later) where
  suits c s reply t mem := serves.suits c s reply t (by simpa using mem)
  undisturbed q s reply t mem := serves.undisturbed q s reply t (by simpa using mem)

theorem Serves.asked {c : Call} {s : Bool} {answer : c.Answer} {later : List (Exchange Bool)}
    (suits : scene.Suits c answer) (serves : scene.Serves later) :
    scene.Serves (.asked (.call c) s (.ok answer) s :: later) where
  suits c' s' reply t mem := by
    rcases List.mem_cons.mp mem with same | mem
    · cases same
      exact ⟨answer, rfl, suits⟩
    · exact serves.suits c' s' reply t mem
  undisturbed q s' reply t mem := by
    rcases List.mem_cons.mp mem with same | mem
    · cases same
      rfl
    · exact serves.undisturbed q s' reply t mem

/-- The first call has a suitable answer. -/
theorem Serves.head {c : Call} {s t : Bool} {reply : Except RemoteFailure c.Answer}
    {later : List (Exchange Bool)} (serves : scene.Serves (.asked (.call c) s reply t :: later)) :
    ∃ answer, reply = .ok answer ∧ scene.Suits c answer :=
  serves.suits c s reply t List.mem_cons_self

end Scene

/-! ### Texts -/

/-- The text that a value contributes, and the invocations that this takes. -/
inductive Value.Contributes (scope : Scope) (scene : Scene) :
    Value → List (Call × Value) → String → Prop where
  | primitive {value : Value} {text : String} : value.primitiveText? = some text →
      Contributes scope scene value [] text
  | null : Contributes scope scene .null [] "null"
  | string {handle : ObjectRef} : Contributes scope scene (.string handle) [] (scene.text handle)
  | object {handle returned : ObjectRef} :
      Contributes scope scene (.object handle) [(scope.asking handle, .string returned)]
        (scene.text returned)
  | silent {handle : ObjectRef} :
      Contributes scope scene (.object handle) [(scope.asking handle, .null)] "null"

theorem Value.Contributes.of_string {scope : Scope} {scene : Scene} {handle : ObjectRef}
    {invoked : List (Call × Value)} {text : String}
    (gives : Value.Contributes scope scene (.string handle) invoked text) :
    invoked = [] ∧ text = scene.text handle := by
  cases gives with
  | primitive known => cases known
  | string => exact ⟨rfl, rfl⟩

/-- The texts that several values contribute, one after the other. -/
inductive ContributeInTurn (scope : Scope) (scene : Scene) :
    List Value → List (Call × Value) → List String → Prop where
  | nil : ContributeInTurn scope scene [] [] []
  | cons {value : Value} {values : List Value} {invoked later : List (Call × Value)} {text : String}
      {texts : List String} : value.Contributes scope scene invoked text →
      ContributeInTurn scope scene values later texts →
      ContributeInTurn scope scene (value :: values) (invoked ++ later) (text :: texts)

/-- An object, if the value is one. -/
def Value.object? : Value → Option ObjectRef
  | .object handle => some handle
  | _ => none

theorem Value.Contributes.invoked {scope : Scope} {scene : Scene} {value : Value}
    {invoked : List (Call × Value)} {text : String} (gives : value.Contributes scope scene invoked text) :
    invoked.map Prod.fst = (value.object?.map scope.asking).toList := by
  cases gives with
  | @primitive value text known => cases value <;> first | rfl | cases known
  | null => rfl
  | string => rfl
  | object => rfl
  | silent => rfl

/-- Each object is asked once for its text, in the order of the values. -/
theorem ContributeInTurn.invoked {scope : Scope} {scene : Scene} {values : List Value}
    {invoked : List (Call × Value)} {texts : List String}
    (inTurn : ContributeInTurn scope scene values invoked texts) :
    invoked.map Prod.fst = (values.filterMap Value.object?).map scope.asking := by
  induction inTurn with
  | nil => rfl
  | @cons value values _ _ _ _ gives _ ih =>
      rw [List.map_append, gives.invoked, ih]
      cases asked : value.object? with
      | none => simp [asked]
      | some handle => simp [asked]

namespace Kind

/-- A sum of two kinds is a text if one of them is and both have a text. -/
theorem promote_eq_string_iff {left right : Kind} : promote left right = .string ↔
    (left = .string ∨ right = .string) ∧ left.hasText = true ∧ right.hasText = true := by
  constructor
  · intro joins
    by_cases either : left = .string ∨ right = .string
    · refine ⟨either, ?_⟩
      simpa [promote, either] using joins
    · rw [not_or] at either
      exact absurd joins (promote_ne_string either.1 either.2)
  · rintro ⟨either, texts⟩
    simp [promote, either, texts]

end Kind

theorem Value.hasText_iff {value : Value} : value.kind.hasText = true ↔ value ≠ .void := by
  cases value <;> simp [kind, Kind.hasText]

/-- Only `void` has no text. -/
theorem Value.text_cases {value : Value} (textual : value ≠ .void) :
    value = .null ∨ (∃ handle, value = .string handle) ∨ (∃ handle, value = .object handle) ∨
      ∃ text, value.primitiveText? = some text := by
  cases value <;> simp [primitiveText?] at textual ⊢

namespace Evaluation

variable {scope : Scope} {scene : Scene} {m m' : Machine} {s t : Bool} {passed : List (Exchange Bool)}

/-- Under a target that serves, a call succeeds. -/
theorem call_of_serves {c : Call} {r : Except Fault c.Answer} (course : Course (call c) m s passed r m' t)
    (serves : scene.Serves passed) :
    ∃ answer, r = .ok answer ∧ scene.Suits c answer ∧ passed = [.asked (.call c) s (.ok answer) t] := by
  obtain ⟨reply, rfl, rfl, -⟩ := call_iff.mp course
  obtain ⟨answer, rfl, suits⟩ := serves.head
  exact ⟨answer, rfl, suits, rfl⟩

/-- What follows a call goes on with a suitable answer. -/
theorem call_bind_of_serves {β : Type} {c : Call} {f : c.Answer → Evaluation β} {r : Except Fault β}
    (course : Course (call c >>= f) m s passed r m' t) (serves : scene.Serves passed) :
    ∃ answer u later, scene.Suits c answer ∧ Course (f answer) m u later r m' t ∧ scene.Serves later ∧
      passed = .asked (.call c) s (.ok answer) u :: later := by
  rcases call_bind_iff.mp course with ⟨failure, rfl, -⟩ | ⟨answer, u, later, goes, rfl⟩
  · obtain ⟨_, impossible, -⟩ := serves.head
    cases impossible
  · obtain ⟨_, same, suits⟩ := serves.head
    cases same
    exact ⟨answer, u, later, suits, goes, serves.tail, rfl⟩

theorem valueOf_shows {entry : StackEntry} {value : Value} {r : Except Fault Value}
    (shows : scene.Shows entry value) (course : Course (valueOf scope entry) m s passed r m' t)
    (serves : scene.Serves passed) :
    r = .ok value ∧ invocations passed = [] ∧ creations passed = [] := by
  cases entry with
  | value held =>
      cases shows
      obtain ⟨rfl, rfl, -⟩ := pure_iff.mp course
      exact ⟨rfl, rfl, rfl⟩
  | place place =>
      cases place with
      | frameLocal name =>
          obtain ⟨answer, rfl, suits, rfl⟩ := call_of_serves course serves
          cases shows
          cases suits
          exact ⟨rfl, rfl, rfl⟩
      | _ => cases shows

theorem textOf_primitive {value : Value} {text : String} (known : value.primitiveText? = some text) :
    textOf scope value = pure text := by
  cases value <;> cases known <;> rfl

theorem textOf_contributes {value : Value} {r : Except Fault String} (textual : value ≠ .void)
    (course : Course (textOf scope value) m s passed r m' t) (serves : scene.Serves passed) :
    ∃ text, r = .ok text ∧ value.Contributes scope scene (invocations passed) text ∧
      creations passed = [] := by
  rcases Value.text_cases textual with rfl | ⟨handle, rfl⟩ | ⟨handle, rfl⟩ | ⟨text, known⟩
  · obtain ⟨rfl, rfl, -⟩ := pure_iff.mp course
    exact ⟨_, rfl, .null, rfl⟩
  · obtain ⟨answer, rfl, suits, rfl⟩ := call_of_serves course serves
    cases suits
    exact ⟨_, rfl, .string, rfl⟩
  · obtain ⟨returned, u, later, suits, goes, serves', rfl⟩ := call_bind_of_serves course serves
    rcases suits with rfl | ⟨answer, rfl⟩
    · obtain ⟨rfl, rfl, -⟩ := pure_iff.mp goes
      exact ⟨_, rfl, .silent, rfl⟩
    · obtain ⟨read, rfl, suits, rfl⟩ := call_of_serves goes serves'
      cases suits
      exact ⟨_, rfl, .object, rfl⟩
  · rw [textOf_primitive known] at course
    obtain ⟨rfl, rfl, -⟩ := pure_iff.mp course
    exact ⟨text, rfl, .primitive known, rfl⟩

/-- A sum with a string on the left creates one string, the joined text. -/
theorem binary_contributes {handle : ObjectRef} {value : Value} {r : Except Fault Value}
    (textual : value ≠ .void)
    (course : Course (binary scope .add (.string handle) value) m s passed r m' t)
    (serves : scene.Serves passed) :
    ∃ joined text, r = .ok (.string joined) ∧ scene.text joined = scene.text handle ++ text ∧
      value.Contributes scope scene (invocations passed) text ∧ (creations passed).length = 1 := by
  have joins : Kind.promote (Value.string handle).kind value.kind = .string :=
    Kind.promote_eq_string_iff.mpr ⟨.inl rfl, rfl, Value.hasText_iff.mpr textual⟩
  rw [binary, if_pos ⟨rfl, joins⟩] at course
  rcases bind_iff.mp course with ⟨fault, fails, -⟩ | ⟨first, _, _, looked, _, reads, goes, rfl⟩
  · obtain ⟨_, impossible, -⟩ := textOf_contributes Value.noConfusion fails serves
    cases impossible
  obtain ⟨_, same, gives, quiet⟩ := textOf_contributes Value.noConfusion reads serves.left
  cases same
  rcases bind_iff.mp goes with ⟨fault, fails, -⟩ | ⟨second, _, _, looked', _, reads', creates, rfl⟩
  · obtain ⟨_, impossible, -⟩ := textOf_contributes textual fails serves.right
    cases impossible
  obtain ⟨_, same, gives', quiet'⟩ := textOf_contributes textual reads' serves.right.left
  cases same
  obtain ⟨_, rfl, ⟨joined, rfl, told⟩, rfl⟩ := call_of_serves creates serves.right.right
  obtain ⟨none, rfl⟩ := gives.of_string
  refine ⟨joined, second, rfl, told, ?_, ?_⟩
  · have last (u v : Bool) : invocations [.asked (.call (.newString (scene.text handle ++ second))) u
        (.ok (.string joined)) v] = [] := rfl
    rw [invocations_append, invocations_append, none, last, List.nil_append, List.append_nil]
    exact gives'
  · rw [creations_append, creations_append, quiet, quiet']
    rfl

/-- Whatever the target answers, a value that takes part in a sum of texts has a text. -/
theorem textOf_ne_noText {value : Value} (textual : value ≠ .void) :
    ¬ Course (textOf scope value) m s passed (.error (.invalidOperand .noText)) m' t := by
  intro course
  rcases Value.text_cases textual with rfl | ⟨handle, rfl⟩ | ⟨handle, rfl⟩ | ⟨text, known⟩
  · cases (pure_iff.mp course).2.1
  · obtain ⟨failure | read, -, same, -⟩ := call_iff.mp course <;> cases same
  · rcases call_bind_iff.mp course with ⟨failure, -, same, -⟩ | ⟨returned, _, _, goes, -⟩
    · cases same
    split at goes
    · obtain ⟨failure | read, -, same, -⟩ := call_iff.mp goes <;> cases same
    · cases (pure_iff.mp goes).2.1
    · cases (throw_iff.mp goes).2.1
  · rw [textOf_primitive known] at course
    cases (pure_iff.mp course).2.1

theorem binary_ne_noText {op : BinaryOp} {left right : Value}
    (joins : Kind.promote left.kind right.kind = .string) :
    ¬ Course (binary scope op left right) m s passed (.error (.invalidOperand .noText)) m' t := by
  intro course
  obtain ⟨-, first, second⟩ := Kind.promote_eq_string_iff.mp joins
  unfold binary at course
  split at course
  · rcases bind_iff.mp course with ⟨fault, fails, same⟩ | ⟨_, _, _, _, _, -, goes, -⟩
    · cases same
      exact textOf_ne_noText (Value.hasText_iff.mp first) fails
    rcases bind_iff.mp goes with ⟨fault, fails, same⟩ | ⟨_, _, _, _, _, -, creates, -⟩
    · cases same
      exact textOf_ne_noText (Value.hasText_iff.mp second) fails
    obtain ⟨failure | answer, -, same, -⟩ := call_iff.mp creates <;> cases same
  · obtain ⟨-, failed, -⟩ := compute_iff.mp course
    rcases BinaryOp.cause_of_apply failed.symm with impossible | impossible <;> cases impossible

/-- The instruction that joins a string and a value leaves the joined string in their place. -/
theorem add_contributes {above below : StackEntry} {rest : List StackEntry} {handle : ObjectRef} {value : Value}
    {r : Except Fault Flow} (stack : m.stack = above :: below :: rest)
    (shows : scene.Shows below (.string handle)) (shows' : scene.Shows above value) (textual : value ≠ .void)
    (course : Course (execute scope (.binary .add)) m s passed r m' t) (serves : scene.Serves passed) :
    ∃ joined text, r = .ok .next ∧ m'.stack = .value (.string joined) :: rest ∧
      scene.text joined = scene.text handle ++ text ∧
      value.Contributes scope scene (invocations passed) text ∧ (creations passed).length = 1 := by
  rcases popValue_bind stack course with ⟨fault, fails, -⟩ | ⟨_, u, first, _, reads, goes, rfl⟩
  · cases (valueOf_shows shows' fails serves).1
  obtain ⟨same, none, quiet⟩ := valueOf_shows shows' reads serves.left
  cases same
  rcases popValue_bind (m := { m with stack := below :: rest }) rfl goes with
    ⟨fault, fails, -⟩ | ⟨_, v, second, _, reads', goes, rfl⟩
  · cases (valueOf_shows shows fails serves.right).1
  obtain ⟨same, none', quiet'⟩ := valueOf_shows shows reads' serves.right.left
  cases same
  rcases (binary_inquires scope .add _ _).bind_iff.mp goes with
    ⟨fault, fails, -⟩ | ⟨result, w, made, ended, joins, pushes, rfl⟩
  · obtain ⟨_, _, impossible, -⟩ := binary_contributes textual fails serves.right.right
    cases impossible
  obtain ⟨joined, text, same, told, gives, created⟩ :=
    binary_contributes textual joins serves.right.right.left
  cases same
  have pushed : Course (pure Flow.next) { m with stack := .value (.string joined) :: rest } w ended r m' t :=
    pushes
  obtain ⟨rfl, rfl, rfl, rfl⟩ := pure_iff.mp pushed
  refine ⟨joined, text, rfl, rfl, told, ?_, ?_⟩
  · simpa [none, none'] using gives
  · simpa [quiet, quiet'] using created

end Evaluation

/-! ### Chains of sums -/

/-- An operand that is pushed by one instruction. A local variable can hold any value. -/
inductive Operand where
  | constant (literal : Literal)
  | null
  | this
  | frameLocal (name : String)

namespace Operand

def instruction : Operand → Instruction
  | .constant literal => .pushLiteral literal
  | .null => .pushNull
  | .this => .pushThis
  | .frameLocal name => .pushLocal name

/-- Whether the operand is a text, which is created in the target when it is pushed. -/
def isText : Operand → Bool
  | .constant (.string _) => true
  | _ => false

/-- The program that pushes operands and joins each to what is on the stack. -/
def chain (operands : List Operand) : Program :=
  operands.flatMap fun operand => [operand.instruction, .binary .add]

end Operand

/-- The value for which an operand stands. -/
def Scene.Stands (scene : Scene) : Operand → Value → Prop
  | .constant (.string text), value => ∃ handle, value = .string handle ∧ scene.text handle = text
  | .constant literal, value => literal.primitive? = some value
  | .null, value => value = .null
  | .this, value => value = scene.receiver
  | .frameLocal name, value => value = scene.locals name

namespace Evaluation

variable {scope : Scope} {scene : Scene} {m m' : Machine} {s t : Bool} {passed : List (Exchange Bool)}

theorem push_stands {operand : Operand} {r : Except Fault Flow}
    (course : Course (execute scope operand.instruction) m s passed r m' t) (serves : scene.Serves passed) :
    r = .ok .next ∧ ∃ entry value, m'.stack = entry :: m.stack ∧ scene.Shows entry value ∧
      scene.Stands operand value ∧ invocations passed = [] ∧
      (creations passed).length = [operand].countP Operand.isText := by
  have pushed {entry : StackEntry} {u : Bool} {later : List (Exchange Bool)}
      (course : Course (do push entry; return Flow.next) m u later r m' t) :
      later = [] ∧ r = .ok .next ∧ m' = { m with stack := entry :: m.stack } ∧ t = u := by
    have pushed : Course (pure Flow.next) { m with stack := entry :: m.stack } u later r m' t := course
    exact pure_iff.mp pushed
  cases operand with
  | constant literal =>
      cases literal with
      | string text =>
          obtain ⟨_, u, later, ⟨handle, rfl, told⟩, goes, -, rfl⟩ := call_bind_of_serves course serves
          obtain ⟨rfl, rfl, rfl, rfl⟩ := pushed goes
          exact ⟨rfl, _, .string handle, rfl, rfl, ⟨handle, rfl, told⟩, rfl, rfl⟩
      | _ =>
          obtain ⟨rfl, rfl, rfl, rfl⟩ := pushed course
          exact ⟨rfl, _, _, rfl, rfl, rfl, rfl, rfl⟩
  | null =>
      obtain ⟨rfl, rfl, rfl, rfl⟩ := pushed course
      exact ⟨rfl, _, _, rfl, rfl, rfl, rfl, rfl⟩
  | this =>
      obtain ⟨answer, u, later, suits, goes, -, rfl⟩ := call_bind_of_serves course serves
      obtain ⟨rfl, rfl, rfl, rfl⟩ := pushed goes
      exact ⟨rfl, _, _, rfl, rfl, suits, rfl, rfl⟩
  | frameLocal name =>
      obtain ⟨rfl, rfl, rfl, rfl⟩ := pushed course
      exact ⟨rfl, _, _, rfl, rfl, rfl, rfl, rfl⟩

/-- Under a target that serves, an instruction leaves the flag as it is. -/
theorem running_of_serves {instruction : Instruction} {r : Except Fault Flow}
    (course : Course (execute scope instruction) m s passed r m' t) (serves : scene.Serves passed) : t = s := by
  have carries : Carries id s passed t := ((execute_composed scope instruction).heedless m _ _ _ _ course).1
  exact ((carries.rel (fun _ => rfl) (fun first second => first.trans second)
    fun q u reply v mem => (serves.undisturbed q u reply v mem).symm).1).symm

end Evaluation

namespace Walk

variable {scope : Scope} {program : Program} {scene : Scene} {fuel position : Nat} {m m' : Machine}
  {running' : Bool} {steps : List (Step scope program)} {passed : List (Exchange Bool)}
  {r : Except Fault Outcome}

/-- Before an instruction that leads to the next one, a walk takes a step and goes on. -/
theorem next_of_serves {instruction : Instruction} {Does : List (Exchange Bool) → Machine → Prop}
    (found : program[position]? = some instruction)
    (does : ∀ {made result after t},
      (Evaluation.execute scope instruction).Course m true made result after t → scene.Serves made →
      result = .ok .next ∧ Does made after)
    (walk : Walk scope program Eq (fuel + 1) position m true steps passed r m' running')
    (serves : scene.Serves passed) :
    ∃ made after rest later, Does made after ∧
      Walk scope program Eq fuel (position + 1) after true rest later r m' running' ∧
      scene.Serves later ∧ invocations passed = invocations made ++ invocations later ∧
      creations passed = creations made ++ creations later := by
  obtain ⟨step, rest, later, -, rfl, rfl, rfl, goes⟩ := of_found found walk
  have same : step.instruction = instruction := Option.some.inj (step.found.symm.trans found)
  have course := step.course
  rw [same] at course
  have made : scene.Serves step.passed := serves.left.tail
  obtain ⟨flows, done⟩ := does course made
  unfold Goes at goes
  rw [Step.leads_of_next flows, Evaluation.running_of_serves course made] at goes
  exact ⟨step.passed, step.after, rest, later, done, goes, serves.right, invocations_append,
    creations_append⟩

/-- One link of a chain: the operand is pushed, and its text is joined to the string on the stack. -/
theorem link {operand : Operand} {rest : Program} {entry : StackEntry} {handle : ObjectRef}
    (chained : program.drop position = operand.instruction :: .binary .add :: rest)
    (stack : m.stack = [entry]) (shows : scene.Shows entry (.string handle))
    (textual : ∀ value, scene.Stands operand value → value ≠ .void)
    (walk : Walk scope program Eq (fuel + 1 + 1) position m true steps passed r m' running')
    (serves : scene.Serves passed) :
    ∃ joined value text invoked after more later, scene.Stands operand value ∧
      value.Contributes scope scene invoked text ∧ scene.text joined = scene.text handle ++ text ∧
      after.stack = [.value (.string joined)] ∧
      Walk scope program Eq fuel (position + 1 + 1) after true more later r m' running' ∧
      scene.Serves later ∧ invocations passed = invoked ++ invocations later ∧
      (creations passed).length = (creations later).length + 1 + [operand].countP Operand.isText := by
  have found : program[position]? = some operand.instruction := by
    rw [← List.head?_drop, chained]
    rfl
  have found' : program[position + 1]? = some (.binary .add) := by
    rw [← List.head?_drop, ← List.tail_drop, chained]
    rfl
  obtain ⟨made, pushed, _, _, pushes, walk, serves, invoked, created⟩ :=
    next_of_serves found Evaluation.push_stands walk serves
  obtain ⟨above, value, stack', shows', stands, none, count⟩ := pushes
  rw [stack] at stack'
  have adds {made : List (Exchange Bool)} {result : Except Fault Flow} {after : Machine} {t : Bool}
      (course : (Evaluation.execute scope (.binary .add)).Course pushed true made result after t)
      (serves : scene.Serves made) : result = .ok .next ∧ ∃ joined text,
        after.stack = [.value (.string joined)] ∧ scene.text joined = scene.text handle ++ text ∧
        value.Contributes scope scene (invocations made) text ∧ (creations made).length = 1 := by
    obtain ⟨joined, text, flows, done⟩ :=
      Evaluation.add_contributes stack' shows shows' (textual value stands) course serves
    exact ⟨flows, joined, text, done⟩
  obtain ⟨made', after, more, later, ⟨joined, text, stack'', told, contributes, one⟩, walk, serves,
    invoked', created'⟩ := next_of_serves found' adds walk serves
  refine ⟨joined, value, text, _, after, more, later, stands, contributes, told, stack'', walk, serves,
    ?_, ?_⟩
  · rw [invoked, invoked', none, List.nil_append]
  · rw [created, created', List.length_append, List.length_append, count, one]
    omega

/-- Along a chain of sums the texts of the operands are joined to the string on the stack. -/
theorem concatenates {operands : List Operand} {entry : StackEntry} {handle : ObjectRef}
    (chained : program.drop position = Operand.chain operands)
    (enough : (Operand.chain operands).length < fuel) (stack : m.stack = [entry])
    (shows : scene.Shows entry (.string handle))
    (textual : ∀ operand ∈ operands, ∀ value, scene.Stands operand value → value ≠ .void)
    (walk : Walk scope program Eq fuel position m true steps passed r m' running')
    (serves : scene.Serves passed) :
    ∃ joined values texts, r = .ok (.completed (some (.string joined))) ∧ m'.stack.length = 1 ∧
      List.Forall₂ scene.Stands operands values ∧
      ContributeInTurn scope scene values (invocations passed) texts ∧
      scene.text joined = scene.text handle ++ String.join texts ∧
      (creations passed).length = operands.length + operands.countP Operand.isText := by
  induction operands generalizing fuel position m entry handle steps passed with
  | nil =>
      obtain ⟨fuel, rfl⟩ := Nat.exists_eq_add_of_lt enough
      have ended : program[position]? = none := by
        rw [← List.head?_drop, chained]
        rfl
      obtain ⟨-, found, course, rfl⟩ := of_none ended walk
      have reads := Evaluation.get_bind_iff.mp course
      rw [stack] at reads
      rcases (Evaluation.valueOf_inquires scope entry).bind_iff.mp reads with
        ⟨fault, fails, -⟩ | ⟨value, u, first, _, looks, ends, rfl⟩
      · cases (Evaluation.valueOf_shows shows fails serves).1
      obtain ⟨same, none, quiet⟩ := Evaluation.valueOf_shows shows looks serves.left
      cases same
      obtain ⟨rfl, rfl, rfl, rfl⟩ := Evaluation.pure_iff.mp ends
      rw [List.append_nil, none, quiet, stack]
      exact ⟨handle, [], [], rfl, rfl, .nil, .nil, by simp, rfl⟩
  | cons operand operands ih =>
      have length :
          (Operand.chain (operand :: operands)).length = (Operand.chain operands).length + 1 + 1 := by
        simp [Operand.chain, Nat.add_comm]
      obtain ⟨fuel, rfl⟩ : ∃ left, fuel = left + 1 + 1 := ⟨fuel - 2, by omega⟩
      have chained' : program.drop (position + 1 + 1) = Operand.chain operands := by
        rw [← List.tail_drop, ← List.tail_drop, chained]
        rfl
      obtain ⟨next, value, text, invoked, after, _, _, stands, contributes, told, stack', walk, serves,
        calls, created⟩ := link chained stack shows (textual operand List.mem_cons_self) walk serves
      obtain ⟨joined, values, texts, rfl, depth, stand, inTurn, told', count⟩ := ih chained' (by omega)
        stack' rfl (fun other mem => textual other (List.mem_cons_of_mem _ mem)) walk serves
      refine ⟨joined, value :: values, text :: texts, rfl, depth, .cons stands stand, ?_, ?_, ?_⟩
      · rw [calls]
        exact .cons contributes inTurn
      · rw [told', told, String.join_cons, String.append_assoc]
      · simp only [created, count, List.countP_cons, List.countP_nil, List.length_cons]
        omega

end Walk

namespace Interpreter

variable {interpreter : Interpreter} {fuel : Nat} {target : Target} {frame : Frame} {scene : Scene}
  {first : Operand} {operands : List Operand} {passed : List (Exchange Bool)} {outcome : Outcome}
  {left : Interpreter}

/-- A run of a chain on a live target that serves. -/
theorem run_concatenates (program : interpreter.program = first.instruction :: Operand.chain operands)
    (running : interpreter.running = true) (alive : target.isTerminated = false)
    (enough : interpreter.program.length < fuel)
    (string : ∀ value, scene.Stands first value → ∃ handle, value = .string handle)
    (textual : ∀ operand ∈ operands, ∀ value, scene.Stands operand value → value ≠ .void)
    (course : (interpreter.run fuel target frame).Course passed (outcome, left))
    (serves : scene.Serves passed) :
    ∃ handle joined values texts, outcome = .completed (some (.string joined)) ∧ left.depth = 1 ∧
      scene.Stands first (.string handle) ∧ List.Forall₂ scene.Stands operands values ∧
      ContributeInTurn ⟨frame, interpreter.settings⟩ scene values (invocations passed) texts ∧
      scene.text joined = scene.text handle ++ String.join texts ∧
      (creations passed).length = operands.length + (first :: operands).countP Operand.isText := by
  obtain ⟨steps, ⟨walk⟩⟩ := run_course alive course
  rw [running] at walk
  obtain ⟨fuel, rfl⟩ := Nat.exists_eq_add_of_lt enough
  have found : interpreter.program[0]? = some first.instruction := by
    rw [program]
    rfl
  have chained : interpreter.program.drop (0 + 1) = Operand.chain operands := by
    rw [program]
    rfl
  have length : interpreter.program.length = (Operand.chain operands).length + 1 := by
    rw [program]
    rfl
  obtain ⟨made, after, _, _, pushes, walk, serves, invoked, created⟩ :=
    Walk.next_of_serves found Evaluation.push_stands walk serves.left
  obtain ⟨entry, value, stack, shows, stands, none, count⟩ := pushes
  obtain ⟨handle, rfl⟩ := string value stands
  obtain ⟨joined, values, texts, rfl, depth, stand, inTurn, told, count'⟩ :=
    Walk.concatenates chained (by omega) stack shows textual walk serves
  rw [none, List.nil_append] at invoked
  simp only [closing, List.map_nil, List.append_nil, invoked]
  refine ⟨handle, joined, values, texts, rfl, depth, stands, stand, inTurn, told, ?_⟩
  simp only [created, List.length_append, count, count', List.countP_cons, List.countP_nil]
  omega

/-- A program that pushes a string and joins further operands to it leaves one string, which has the texts of
all operands in order. Each sum creates one string, the joined text; the others are the operands that are texts
themselves. Each operand that is an object is asked once for its text, in order. And no pair of values that
promotes to a text lacks one. -/
theorem concatenation :
    (∀ (interpreter : Interpreter) (fuel : Nat) (target : Target) (frame : Frame) (scene : Scene)
        (first : Operand) (operands : List Operand),
      interpreter.program = first.instruction :: Operand.chain operands → interpreter.running = true →
      target.isTerminated = false → interpreter.program.length < fuel →
      (∀ value, scene.Stands first value → ∃ handle, value = .string handle) →
      (∀ operand ∈ operands, ∀ value, scene.Stands operand value → value ≠ .void) →
      ∀ passed outcome left, (interpreter.run fuel target frame).Course passed (outcome, left) →
        scene.Serves passed →
        ∃ handle joined values texts, outcome = .completed (some (.string joined)) ∧ left.depth = 1 ∧
          scene.Stands first (.string handle) ∧ List.Forall₂ scene.Stands operands values ∧
          ContributeInTurn ⟨frame, interpreter.settings⟩ scene values (invocations passed) texts ∧
          scene.text joined = scene.text handle ++ String.join texts ∧
          (creations passed).length = operands.length + (first :: operands).countP Operand.isText ∧
          (invocations passed).map Prod.fst =
            (values.filterMap Value.object?).map (Scope.asking ⟨frame, interpreter.settings⟩)) ∧
    ∀ scope op left right, Kind.promote left.kind right.kind = .string → ∀ m s passed m' t,
      ¬ (Evaluation.binary scope op left right).Course m s passed (.error (.invalidOperand .noText)) m'
        t := by
  constructor
  · intro interpreter fuel target frame scene first operands program running alive enough string textual
      passed outcome left course serves
    obtain ⟨handle, joined, values, texts, completes, depth, stands, stand, inTurn, told, count⟩ :=
      run_concatenates program running alive enough string textual course serves
    exact ⟨handle, joined, values, texts, completes, depth, stands, stand, inTurn, told, count,
      inTurn.invoked⟩
  · intro scope op left right joins m s passed m' t
    exact Evaluation.binary_ne_noText joins

end Interpreter

namespace Concatenation.Sample

/-- A frame whose receiver has a text, and the strings that there are in the end. -/
def scene : Scene where
  text
    | ⟨1⟩ => "p = "
    | ⟨2⟩ => "p = Point(1, 2)"
    | ⟨3⟩ => "p = Point(1, 2)-12"
    | ⟨4⟩ => "p = Point(1, 2)-12true"
    | ⟨5⟩ => "p = Point(1, 2)-12truenull"
    | _ => "Point(1, 2)"
  receiver := .object ⟨70⟩
  locals _ := .int (-12)

/-- The string that is made of a text. -/
def handle (text : String) : ObjectRef :=
  (([⟨1⟩, ⟨2⟩, ⟨3⟩, ⟨4⟩, ⟨5⟩] : List ObjectRef).find? (scene.text · = text)).getD ⟨6⟩

/-- A target that shows this scene. -/
def answers : (c : Call) → Except RemoteFailure c.Answer
  | .newString text => .ok (.string (handle text))
  | .stringValue handle => .ok (scene.text handle)
  | .invokeMethod .. => .ok (.string ⟨6⟩)
  | .thisObject .. => .ok scene.receiver
  | .localValue _ _ name => .ok (scene.locals name)
  | _ => .error .disconnected

/-- What is joined to `"p = "`. -/
def operands : List Operand := [.this, .frameLocal "x", .constant (.boolean true), .null]

/-- The program of `"p = " + this + x + true + null`. -/
def joining : Interpreter where
  program := .pushLiteral (.string "p = ") :: Operand.chain operands

/-- The frame of the receiver. -/
def scope : Scope := ⟨⟨⟨1⟩, 0⟩, {}⟩

/-- What passes in the run. -/
def heard : List (Exchange Bool) :=
  [.told (.log (.instruction 0 (.pushLiteral (.string "p = ")))),
    .asked (.call (.newString "p = ")) true (.ok (.string ⟨1⟩)) true,
    .told (.log (.instruction 1 .pushThis)),
    .asked (.call (.thisObject ⟨1⟩ 0)) true (.ok (.object ⟨70⟩)) true,
    .told (.log (.instruction 2 (.binary .add))),
    .asked (.call (.stringValue ⟨1⟩)) true (.ok "p = ") true,
    .asked (.call (scope.asking ⟨70⟩)) true (.ok (.string ⟨6⟩)) true,
    .asked (.call (.stringValue ⟨6⟩)) true (.ok "Point(1, 2)") true,
    .asked (.call (.newString "p = Point(1, 2)")) true (.ok (.string ⟨2⟩)) true,
    .told (.log (.instruction 3 (.pushLocal "x"))),
    .told (.log (.instruction 4 (.binary .add))),
    .asked (.call (.localValue ⟨1⟩ 0 "x")) true (.ok (.int (-12))) true,
    .asked (.call (.stringValue ⟨2⟩)) true (.ok "p = Point(1, 2)") true,
    .asked (.call (.newString "p = Point(1, 2)-12")) true (.ok (.string ⟨3⟩)) true,
    .told (.log (.instruction 5 (.pushLiteral (.boolean true)))),
    .told (.log (.instruction 6 (.binary .add))),
    .asked (.call (.stringValue ⟨3⟩)) true (.ok "p = Point(1, 2)-12") true,
    .asked (.call (.newString "p = Point(1, 2)-12true")) true (.ok (.string ⟨4⟩)) true,
    .told (.log (.instruction 7 .pushNull)),
    .told (.log (.instruction 8 (.binary .add))),
    .asked (.call (.stringValue ⟨4⟩)) true (.ok "p = Point(1, 2)-12true") true,
    .asked (.call (.newString "p = Point(1, 2)-12truenull")) true (.ok (.string ⟨5⟩)) true]

theorem serves : scene.Serves heard :=
  .told (.asked ⟨_, rfl, rfl⟩ (.told (.asked rfl (.told (.asked rfl (.asked (.inr ⟨_, rfl⟩)
    (.asked rfl (.asked ⟨_, rfl, rfl⟩ (.told (.told (.asked rfl (.asked rfl (.asked ⟨_, rfl, rfl⟩
      (.told (.told (.asked rfl (.asked ⟨_, rfl, rfl⟩ (.told (.told (.asked rfl
        (.asked ⟨_, rfl, rfl⟩ .nil)))))))))))))))))))))

theorem textual : ∀ operand ∈ operands, ∀ value, scene.Stands operand value → value ≠ .void := by
  rintro operand member value stands rfl
  rcases member with _ | ⟨_, _ | ⟨_, _ | ⟨_, _ | ⟨_, ⟨⟩⟩⟩⟩⟩ <;> cases stands

/-- The primitive operands have the texts that are written here, whatever the receiver says of itself. -/
theorem texts_eq {calls : List (Call × Value)} {texts : List String}
    (inTurn : ContributeInTurn scope scene [.object ⟨70⟩, .int (-12), .boolean true, .null] calls texts) :
    ∃ point, texts = [point, "-12", "true", "null"] := by
  obtain _ | ⟨point, _ | ⟨⟨⟨⟩⟩, _ | ⟨⟨⟨⟩⟩, _ | ⟨none, ⟨⟩⟩⟩⟩⟩ := inTurn
  cases none with
  | primitive known => cases known
  | null => exact ⟨_, rfl⟩

end Concatenation.Sample

open Concatenation.Sample in
theorem Interpreter.concatenation_point :
    ∃ left, (joining.run 10 { name := "sample" } scope.frame).Course heard
        (.completed (some (.string ⟨5⟩)), left) ∧ left.depth = 1 ∧
      (∃ point, scene.text ⟨5⟩ = "p = " ++ String.join [point, "-12", "true", "null"]) ∧
      (creations heard).length = 5 ∧ (invocations heard).map Prod.fst = [scope.asking ⟨70⟩] := by
  have course : (joining.run 10 { name := "sample" } scope.frame).Course heard
      (.completed (some (.string ⟨5⟩)),
        { joining with machine := { stack := [.value (.string ⟨5⟩)] } }) :=
    Dialogue.course_follow (answering answers) (joining.run 10 { name := "sample" } scope.frame)
  obtain ⟨handle, joined, values, texts, same, depth, ⟨_, stands, told⟩, stand, inTurn, joins, count,
    asked⟩ := concatenation.1 joining 10 { name := "sample" } scope.frame scene
      (.constant (.string "p = ")) operands rfl rfl rfl (by decide)
      (fun value ⟨handle, same, _⟩ => ⟨handle, same⟩) textual _ _ _ course serves
  cases same
  cases stands
  obtain _ | ⟨⟨⟩, _ | ⟨⟨⟩, _ | ⟨⟨⟩, _ | ⟨⟨⟩, ⟨⟩⟩⟩⟩⟩ := stand
  obtain ⟨point, rfl⟩ := texts_eq inTurn
  exact ⟨_, course, depth, ⟨point, by rw [joins, told]⟩, count, asked⟩

end RemoteDebug
