import RemoteDebug.Proofs.Assignment

/-!
Arguments of invocations.

The arguments of an invocation are put onto the stack in the order of the source, so the last of them is on
top and is the first one to be popped and read. What was read goes in front of what had been read before, and
the target gets the arguments in the order of the source.

* `Evaluation.Reads` says how one entry is read, `Evaluation.ReadsAll` how entries are read one after another.
* `Evaluation.Collects` lists the courses of popping arguments, `popArguments_iff` says that they are all.
* `Evaluation.Addresses` and `Evaluation.Invokes` do the same for whole invocations, of which there are three
  kinds. They part ways only in whom they address.
* `Evaluation.arguments_in_order` puts them together.
-/

namespace RemoteDebug

/-- The number of arguments of an invocation. -/
def Instruction.arity? : Instruction → Option Nat
  | .send _ _ count _ | .sendStatic _ _ _ count | .newObject _ _ count => some count
  | _ => none

/-- Who is to answer an invocation. -/
inductive Addressee where
  /-- A method of an object. -/
  | object (receiver : ObjectRef) (selector signature : String) (nonVirtual : Bool)
  /-- A static method of a type. -/
  | static (type : TypeRef) (selector signature : String)
  /-- A constructor of a type. -/
  | creation (type : TypeRef) (signature : String)

/-- What passes when the target is called with some arguments. -/
def Addressee.asking (scope : Scope) (arguments : List Value) (s : Bool)
    (reply : Except RemoteFailure Value) (t : Bool) : Addressee → Exchange Bool
  | .object receiver selector signature nonVirtual =>
    .asked (.call (.invokeMethod receiver selector signature arguments scope.frame.thread nonVirtual)) s
      reply t
  | .static type selector signature =>
    .asked (.call (.invokeStatic type selector signature arguments scope.frame.thread)) s reply t
  | .creation type signature =>
    .asked (.call (.newInstance type signature arguments scope.frame.thread)) s reply t

namespace Evaluation

variable {scope : Scope} {m m' : Machine} {s t u : Bool} {passed : List (Exchange Bool)}

/-! ### Entries -/

/-- How an entry is read. A value is there, a variable of the interpreter is looked up, and for any other
variable the target is asked. -/
inductive Reads (scope : Scope) (internals : Internals) :
    StackEntry → Bool → List (Exchange Bool) → Except Fault Value → Bool → Prop where
  | value {value : Value} {s : Bool} : Reads scope internals (.value value) s [] (.ok value) s
  | internal {name : String} {s : Bool} :
      Reads scope internals (.place (.internal name)) s [] ((internals.get name).map (·.value)) s
  | target {place : Variable} {s t : Bool} {reply : Except RemoteFailure Value} :
      place.inTarget = true →
      Reads scope internals (.place place) s (place.reading scope s reply t) (reply.mapError .remote) t

/-- Entries are read one after another, the first of the list first, and all of them have a value. -/
inductive ReadsAll (scope : Scope) (internals : Internals) :
    List StackEntry → Bool → List (Exchange Bool) → List Value → Bool → Prop where
  | nil {s : Bool} : ReadsAll scope internals [] s [] [] s
  | cons {entry : StackEntry} {entries : List StackEntry} {s u t : Bool} {first later : List (Exchange Bool)}
      {value : Value} {values : List Value} : Reads scope internals entry s first (.ok value) u →
      ReadsAll scope internals entries u later values t →
      ReadsAll scope internals (entry :: entries) s (first ++ later) (value :: values) t

/-- No read finds the stack too short. -/
theorem Reads.ne_stackUnderflow {internals : Internals} {entry : StackEntry} {r : Except Fault Value}
    (reads : Reads scope internals entry s passed r t) : r ≠ .error .stackUnderflow := by
  cases reads with
  | value => exact nofun
  | internal =>
      cases found : internals.get _ with
      | ok held => exact nofun
      | error fault =>
          rw [Internals.cause_of_get found]
          exact nofun
  | @target _ _ _ reply _ => cases reply <;> exact nofun

theorem readVariable_internal_iff (scope : Scope) {name : String} {r : Except Fault Value} :
    Course (readVariable scope (.internal name)) m s passed r m' t ↔
      passed = [] ∧ r = (m.internals.get name).map (·.value) ∧ m' = m ∧ t = s := by
  refine get_bind_iff.trans ?_
  cases m.internals.get name with
  | ok held => exact pure_iff
  | error fault => exact throw_iff

theorem valueOf_iff {entry : StackEntry} {r : Except Fault Value} :
    Course (valueOf scope entry) m s passed r m' t ↔
      Reads scope m.internals entry s passed r t ∧ m' = m := by
  constructor
  · intro course
    cases entry with
    | value value =>
        obtain ⟨rfl, rfl, rfl, rfl⟩ := pure_iff.mp course
        exact ⟨.value, rfl⟩
    | place place =>
        cases inside : place.inTarget with
        | true =>
            obtain ⟨reply, rfl, rfl, rfl⟩ := (readVariable_iff inside).mp course
            exact ⟨.target inside, rfl⟩
        | false =>
            cases place with
            | internal name =>
                obtain ⟨rfl, rfl, rfl, rfl⟩ := (readVariable_internal_iff scope).mp course
                exact ⟨.internal, rfl⟩
            | frameLocal | field | staticField | element => cases inside
  · rintro ⟨reads, rfl⟩
    cases reads with
    | value => exact pure_iff.mpr ⟨rfl, rfl, rfl, rfl⟩
    | internal => exact (readVariable_internal_iff scope).mpr ⟨rfl, rfl, rfl, rfl⟩
    | target inside => exact (readVariable_iff inside).mpr ⟨_, rfl, rfl, rfl⟩

/-- The topmost entry is taken off the stack and read, if there is one. -/
theorem popValue_iff {r : Except Fault Value} :
    Course (popValue scope) m s passed r m' t ↔
      (m.stack = [] ∧ passed = [] ∧ r = .error .stackUnderflow ∧ m' = m ∧ t = s) ∨
      ∃ entry rest, m.stack = entry :: rest ∧ Reads scope m.internals entry s passed r t ∧
        m' = { m with stack := rest } := by
  obtain ⟨stack, internals, lastValue⟩ := m
  cases stack with
  | nil =>
      refine (throw_iff (m := ⟨[], internals, lastValue⟩)).trans ?_
      simp
  | cons entry rest =>
      refine (valueOf_iff (m := ⟨rest, internals, lastValue⟩)).trans ?_
      constructor
      · rintro ⟨reads, same⟩
        exact .inr ⟨entry, rest, rfl, reads, same⟩
      · rintro (⟨empty, -⟩ | ⟨_, _, stack, reads, same⟩)
        · cases empty
        · cases stack
          exact ⟨reads, same⟩

/-! ### Arguments -/

/-- What is computed of a result. -/
theorem compute_after_iff {α β : Type} {x : Evaluation α} {f : α → Except Fault β} {r : Except Fault β} :
    Course (x >>= fun a => compute (f a)) m s passed r m' t ↔
      ∃ found, Course x m s passed found m' t ∧ r = found >>= f := by
  rw [bind_iff]
  constructor
  · rintro (⟨fault, fails, rfl⟩ | ⟨a, n, v, first, second, goes, computes, rfl⟩)
    · exact ⟨_, fails, rfl⟩
    · obtain ⟨rfl, rfl, rfl, rfl⟩ := compute_iff.mp computes
      rw [List.append_nil]
      exact ⟨_, goes, rfl⟩
  · rintro ⟨fault | a, goes, rfl⟩
    · exact .inl ⟨fault, goes, rfl⟩
    · exact .inr ⟨a, m', t, passed, [], goes, compute_iff.mpr ⟨rfl, rfl, rfl, rfl⟩,
        (List.append_nil passed).symm⟩

theorem map_iff {α β : Type} {x : Evaluation α} {f : α → β} {r : Except Fault β} :
    Course (x >>= fun a => pure (f a)) m s passed r m' t ↔
      ∃ found, Course x m s passed found m' t ∧ r = found.map f := by
  refine (compute_after_iff (f := fun a => .ok (f a))).trans ?_
  refine exists_congr fun found => and_congr_right fun _ => ?_
  cases found <;> rfl

/-- The courses of popping `count` arguments. The lists of arguments and values are in the order of the source,
and the stack has its top first, which is the last argument. -/
inductive Collects (scope : Scope) (count : Nat) (m : Machine) (s : Bool) :
    List (Exchange Bool) → Except Fault (List Value) → Machine → Bool → Prop where
  | all (arguments : List StackEntry) (values : List Value) {below : List StackEntry}
      {passed : List (Exchange Bool)} {t : Bool} :
      m.stack = arguments.reverse ++ below → arguments.length = count →
      ReadsAll scope m.internals arguments.reverse s passed values.reverse t →
      Collects scope count m s passed (.ok values) { m with stack := below } t
  /-- The first read that fails is the last one. -/
  | unread (above : List StackEntry) {below : List StackEntry} {entry : StackEntry} {values : List Value}
      {prior last : List (Exchange Bool)} {fault : Fault} {u t : Bool} :
      m.stack = above ++ entry :: below → above.length < count →
      ReadsAll scope m.internals above s prior values u →
      Reads scope m.internals entry u last (.error fault) t →
      Collects scope count m s (prior ++ last) (.error fault) { m with stack := below } t
  | short {values : List Value} {passed : List (Exchange Bool)} {t : Bool} : m.stack.length < count →
      ReadsAll scope m.internals m.stack s passed values t →
      Collects scope count m s passed (.error .stackUnderflow) { m with stack := [] } t

/-- The last argument is the first one to be read. -/
theorem Collects.cons {count : Nat} {entry : StackEntry} {rest : List StackEntry} {value : Value}
    {first later : List (Exchange Bool)} {found : Except Fault (List Value)} (stack : m.stack = entry :: rest)
    (reads : Reads scope m.internals entry s first (.ok value) u)
    (collects : Collects scope count { m with stack := rest } u later found m' t) :
    Collects scope (count + 1) m s (first ++ later) (found.map (· ++ [value])) m' t := by
  cases collects with
  | all arguments values below length others =>
      have order : (arguments ++ [entry]).reverse = entry :: arguments.reverse := List.reverse_concat ..
      have order' : (values ++ [value]).reverse = value :: values.reverse := List.reverse_concat ..
      refine .all (arguments ++ [entry]) (values ++ [value]) ?_ ?_ ?_
      · rw [stack, order, List.cons_append, ← below]
      · rw [List.length_append, length, List.length_singleton]
      · rw [order, order']
        exact .cons reads others
  | unread above below less others fails =>
      rw [← List.append_assoc]
      refine .unread (entry :: above) ?_ (Nat.succ_lt_succ less) (.cons reads others) fails
      rw [stack, List.cons_append, ← below]
  | short less others =>
      have reads := ReadsAll.cons reads others
      rw [← stack] at reads
      refine .short ?_ reads
      rw [stack]
      exact Nat.succ_lt_succ less

theorem popArguments_collects {count : Nat} {r : Except Fault (List Value)}
    (course : Course (popArguments scope count) m s passed r m' t) :
    Collects scope count m s passed r m' t := by
  induction count generalizing m s passed r with
  | zero =>
      obtain ⟨rfl, rfl, rfl, rfl⟩ := pure_iff.mp course
      exact .all [] [] rfl rfl .nil
  | succ count ih =>
      rcases bind_iff.mp course with ⟨fault, pops, rfl⟩ | ⟨last, n, u, first, later, pops, goes, rfl⟩
      · rcases popValue_iff.mp pops with ⟨empty, rfl, same, rfl, rfl⟩ | ⟨entry, rest, stack, reads, rfl⟩
        · cases same
          obtain ⟨_, internals, lastValue⟩ := m'
          cases empty
          exact .short (Nat.succ_pos count) .nil
        · exact .unread [] stack (Nat.succ_pos count) .nil reads
      · rcases popValue_iff.mp pops with ⟨-, -, impossible, -⟩ | ⟨entry, rest, stack, reads, rfl⟩
        · cases impossible
        obtain ⟨found, pops, rfl⟩ := map_iff.mp goes
        exact .cons stack reads (ih pops)

/-- Entries that can be read are popped, and then the remaining arguments below them. -/
theorem popArguments_above {count : Nat} {above below : List StackEntry} {values : List Value}
    {first later : List (Exchange Bool)} {r : Except Fault (List Value)}
    (reads : ReadsAll scope m.internals above s first values u)
    (rest : Course (popArguments scope count) { m with stack := below } u later r m' t) :
    Course (popArguments scope (above.length + count)) { m with stack := above ++ below } s (first ++ later)
      (r.map (· ++ values.reverse)) m' t := by
  -- The induction is on the entries that are read; what lies below them is popped in the same way each time.
  induction reads with
  | nil =>
      have same : r.map (· ++ [].reverse) = r := by cases r <;> simp [Except.map]
      rw [same, List.length_nil, Nat.zero_add]
      exact rest
  | @cons entry entries s v t first second value values reads _ ih =>
      have length : (entry :: entries).length + count = entries.length + count + 1 := Nat.succ_add ..
      have order : r.map (· ++ (value :: values).reverse) =
          (r.map (· ++ values.reverse)).map (· ++ [value]) := by
        cases r <;> simp [Except.map]
      rw [length, order, List.append_assoc]
      have pops : Course (popValue scope) { m with stack := entry :: (entries ++ below) } s first (.ok value)
          { m with stack := entries ++ below } v := popValue_iff.mpr (.inr ⟨_, _, rfl, reads, rfl⟩)
      exact bind_iff.mpr (.inr ⟨value, _, v, first, _, pops, map_iff.mpr ⟨_, ih rest, rfl⟩, rfl⟩)

/-- A read that fails ends it all. -/
theorem popArguments_of_unread (count : Nat) {fault : Fault}
    (pops : Course (popValue scope) m s passed (.error fault) m' t) :
    Course (popArguments scope (count + 1)) m s passed (.error fault) m' t :=
  bind_iff.mpr (.inl ⟨fault, pops, rfl⟩)

theorem Collects.course {count : Nat} {r : Except Fault (List Value)}
    (collects : Collects scope count m s passed r m' t) :
    Course (popArguments scope count) m s passed r m' t := by
  have whole {stack : List StackEntry} (same : m.stack = stack) : { m with stack := stack } = m := by
    rw [← same]
  cases collects with
  | @all arguments values below _ _ stack length reads =>
      have none : Course (popArguments scope 0) { m with stack := below } t [] (.ok [])
          { m with stack := below } t := pure_iff.mpr ⟨rfl, rfl, rfl, rfl⟩
      have goes := popArguments_above reads none
      rw [List.append_nil, List.length_reverse, length, whole stack] at goes
      simpa [Except.map] using goes
  | @unread above below entry _ _ _ _ _ _ stack less reads fails =>
      obtain ⟨more, rfl⟩ := Nat.exists_eq_add_of_lt less
      have pops : Course (popValue scope) { m with stack := entry :: below } _ _ _
          { m with stack := below } _ := popValue_iff.mpr (.inr ⟨entry, below, rfl, fails, rfl⟩)
      have goes := popArguments_above reads (popArguments_of_unread more pops)
      rw [whole stack] at goes
      exact goes
  | short less reads =>
      obtain ⟨more, rfl⟩ := Nat.exists_eq_add_of_lt less
      have pops : Course (popValue scope) { m with stack := [] } t [] (.error .stackUnderflow)
          { m with stack := [] } t := popValue_iff.mpr (.inl ⟨rfl, rfl, rfl, rfl, rfl⟩)
      have goes := popArguments_above reads (popArguments_of_unread more pops)
      rw [List.append_nil, List.append_nil] at goes
      exact goes

theorem popArguments_iff {count : Nat} {r : Except Fault (List Value)} :
    Course (popArguments scope count) m s passed r m' t ↔ Collects scope count m s passed r m' t :=
  ⟨popArguments_collects, Collects.course⟩

/-- The stack is too short exactly if there are too few entries and all of them can be read. -/
theorem Collects.underflow_iff {count : Nat} {r : Except Fault (List Value)}
    (collects : Collects scope count m s passed r m' t) :
    r = .error .stackUnderflow ↔
      m.stack.length < count ∧ ∃ values, ReadsAll scope m.internals m.stack s passed values t := by
  constructor
  · intro same
    cases collects with
    | all => cases same
    | unread above stack less reads fails =>
        cases same
        exact absurd rfl (Reads.ne_stackUnderflow fails)
    | short less reads => exact ⟨less, _, reads⟩
  · rintro ⟨less, values, reads⟩
    -- Along the same exchanges there is one course only, and this one finds the stack too short.
    have short : Collects scope count m s passed (.error .stackUnderflow) { m with stack := [] } t :=
      .short less reads
    have alike : passed ++ [] = passed ++ [] := rfl
    exact (collects.course.unique short.course alike).2.1

/-- Whatever the target replies, there is one way in which the arguments are popped. -/
theorem Collects.exists_unique (scope : Scope) (count : Nat) (m : Machine) (s : Bool) (facade : Facade)
    (clears : Nat → Bool) (prior : List (Exchange Unit)) :
    ∃ passed r m' t, Collects scope count m s passed r m' t ∧ Meets facade clears prior passed ∧
      ∀ passed' r' m'' t', Collects scope count m s passed' r' m'' t' → Meets facade clears prior passed' →
        passed' = passed ∧ r' = r ∧ m'' = m' ∧ t' = t := by
  obtain ⟨passed, ⟨⟨r, m'⟩, t⟩, course, meets⟩ : ∃ passed result,
      Dialogue.Course ((popArguments scope count).run.run m s) passed result ∧
        Meets facade clears prior passed := Dialogue.exists_meets _ prior
  refine ⟨passed, r, m', t, popArguments_collects course, meets, ?_⟩
  intro passed' r' m'' t' collects meets'
  obtain ⟨rfl, same⟩ := Dialogue.Course.settled collects.course course meets' meets
  cases same
  exact ⟨rfl, rfl, rfl, rfl⟩

/-! ### Invocations -/

/-- The handle to which a message is sent. -/
def receiverOf : Value → Except Fault ObjectRef
  | .object handle | .string handle => .ok handle
  | .null => .error .nullReceiver
  | _ => .error (.invalidOperand .notAnObject)

/-- How the addressee of an invocation is found when the arguments are off the stack. -/
inductive Addresses (scope : Scope) (m : Machine) (s : Bool) :
    Instruction → List (Exchange Bool) → Except Fault Addressee → Machine → Bool → Prop where
  /-- The receiver of a message is the entry below the arguments. -/
  | receiver {selector signature : String} {count : Nat} {nonVirtual : Bool} {entry : StackEntry}
      {rest : List StackEntry} {passed : List (Exchange Bool)} {found : Except Fault Value} {t : Bool} :
      m.stack = entry :: rest → Reads scope m.internals entry s passed found t →
      Addresses scope m s (.send selector signature count nonVirtual) passed
        ((found >>= receiverOf).map (.object · selector signature nonVirtual)) { m with stack := rest } t
  | nobody {selector signature : String} {count : Nat} {nonVirtual : Bool} : m.stack = [] →
      Addresses scope m s (.send selector signature count nonVirtual) [] (.error .stackUnderflow) m s
  | static {typeName selector signature : String} {count : Nat} {passed : List (Exchange Bool)}
      {found : Except Fault TypeRef} {t : Bool} :
      (scope.resolution.resolve typeName).run.Course s passed found t →
      Addresses scope m s (.sendStatic typeName selector signature count) passed
        (found.map (.static · selector signature)) m t
  | creation {typeName signature : String} {count : Nat} {passed : List (Exchange Bool)}
      {found : Except Fault TypeRef} {t : Bool} :
      (scope.resolution.resolve typeName).run.Course s passed found t →
      Addresses scope m s (.newObject typeName signature count) passed (found.map (.creation · signature)) m t

/-- The courses of an invocation with `count` arguments. The addressee is called with the arguments that were
popped, in the order of the source. -/
inductive Invokes (scope : Scope) (instruction : Instruction) (count : Nat) (m : Machine) (s : Bool) :
    List (Exchange Bool) → Except Fault Flow → Machine → Bool → Prop where
  | unready {passed : List (Exchange Bool)} {fault : Fault} {m' : Machine} {t : Bool} :
      Collects scope count m s passed (.error fault) m' t →
      Invokes scope instruction count m s passed (.error fault) m' t
  | unaddressed {arguments : List Value} {prior later : List (Exchange Bool)} {fault : Fault}
      {n m' : Machine} {u t : Bool} : Collects scope count m s prior (.ok arguments) n u →
      Addresses scope n u instruction later (.error fault) m' t →
      Invokes scope instruction count m s (prior ++ later) (.error fault) m' t
  | refused {arguments : List Value} {addressee : Addressee} {prior later : List (Exchange Bool)}
      {failure : RemoteFailure} {n m' : Machine} {u v t : Bool} :
      Collects scope count m s prior (.ok arguments) n u →
      Addresses scope n u instruction later (.ok addressee) m' v →
      Invokes scope instruction count m s
        (prior ++ (later ++ [addressee.asking scope arguments v (.error failure) t]))
        (.error (.remote failure)) m' t
  | answered {arguments : List Value} {addressee : Addressee} {prior later : List (Exchange Bool)}
      {answer : Value} {n m' : Machine} {u v t : Bool} :
      Collects scope count m s prior (.ok arguments) n u →
      Addresses scope n u instruction later (.ok addressee) m' v →
      Invokes scope instruction count m s
        (prior ++ (later ++ [addressee.asking scope arguments v (.ok answer) t])) (.ok .next)
        { m' with stack := .value answer :: m'.stack } t

/-- The call of an addressee. -/
def ask (scope : Scope) (arguments : List Value) : Addressee → Evaluation Value
  | .object receiver selector signature nonVirtual =>
    call (.invokeMethod receiver selector signature arguments scope.frame.thread nonVirtual)
  | .static type selector signature =>
    call (.invokeStatic type selector signature arguments scope.frame.thread)
  | .creation type signature => call (.newInstance type signature arguments scope.frame.thread)

theorem push_next_iff {value : Value} {r : Except Fault Flow} :
    Course (do pushValue value; return Flow.next) m s passed r m' t ↔
      passed = [] ∧ r = .ok .next ∧ m' = { m with stack := .value value :: m.stack } ∧ t = s :=
  pure_iff (m := { m with stack := .value value :: m.stack })

theorem popObject_iff {r : Except Fault ObjectRef} :
    Course (popObject scope) m s passed r m' t ↔
      (m.stack = [] ∧ passed = [] ∧ r = .error .stackUnderflow ∧ m' = m ∧ t = s) ∨
      ∃ entry rest found, m.stack = entry :: rest ∧ Reads scope m.internals entry s passed found t ∧
        r = found >>= receiverOf ∧ m' = { m with stack := rest } := by
  have computes : popObject scope = popValue scope >>= fun value => compute (receiverOf value) := by
    unfold popObject
    refine bind_congr fun value => ?_
    cases value <;> rfl
  rw [computes, compute_after_iff]
  constructor
  · rintro ⟨found, pops, rfl⟩
    rcases popValue_iff.mp pops with ⟨empty, rfl, rfl, rfl, rfl⟩ | ⟨entry, rest, stack, reads, rfl⟩
    · exact .inl ⟨empty, rfl, rfl, rfl, rfl⟩
    · exact .inr ⟨entry, rest, found, stack, reads, rfl, rfl⟩
  · rintro (⟨empty, rfl, rfl, rfl, rfl⟩ | ⟨entry, rest, found, stack, reads, rfl, rfl⟩)
    · exact ⟨_, popValue_iff.mpr (.inl ⟨empty, rfl, rfl, rfl, rfl⟩), rfl⟩
    · exact ⟨found, popValue_iff.mpr (.inr ⟨entry, rest, stack, reads, rfl⟩), rfl⟩

theorem ask_iff {arguments : List Value} {addressee : Addressee} {r : Except Fault Value} :
    Course (ask scope arguments addressee) m s passed r m' t ↔
      ∃ reply, passed = [addressee.asking scope arguments s reply t] ∧ r = reply.mapError .remote ∧
        m' = m := by
  cases addressee with
  | object | static | creation => exact call_iff

/-- The end of an invocation: the answer goes onto the stack. -/
theorem ask_push_iff {arguments : List Value} {addressee : Addressee} {r : Except Fault Flow} :
    Course (do pushValue (← ask scope arguments addressee); return Flow.next) m s passed r m' t ↔
      (∃ failure, passed = [addressee.asking scope arguments s (.error failure) t] ∧
        r = .error (.remote failure) ∧ m' = m) ∨
      ∃ answer, passed = [addressee.asking scope arguments s (.ok answer) t] ∧ r = .ok .next ∧
        m' = { m with stack := .value answer :: m.stack } := by
  rw [bind_iff]
  constructor
  · rintro (⟨fault, asks, rfl⟩ | ⟨answer, n, u, first, second, asks, ends, rfl⟩)
    · obtain ⟨failure | _, rfl, same, rfl⟩ := ask_iff.mp asks
      · cases same
        exact .inl ⟨failure, rfl, rfl, rfl⟩
      · cases same
    · obtain ⟨_ | _, rfl, same, rfl⟩ := ask_iff.mp asks
      · cases same
      · cases same
        obtain ⟨rfl, rfl, rfl, rfl⟩ := push_next_iff.mp ends
        exact .inr ⟨answer, rfl, rfl, rfl⟩
  · rintro (⟨failure, rfl, rfl, rfl⟩ | ⟨answer, rfl, rfl, rfl⟩)
    · exact .inl ⟨_, ask_iff.mpr ⟨_, rfl, rfl, rfl⟩, rfl⟩
    · have asks : Course (ask scope arguments addressee) m s _ (.ok answer) m t :=
        ask_iff.mpr ⟨.ok answer, rfl, rfl, rfl⟩
      exact .inr ⟨answer, m, t, _, [], asks, push_next_iff.mpr ⟨rfl, rfl, rfl, rfl⟩,
        (List.append_nil _).symm⟩

/-- An invocation: the arguments, the addressee, and the call. -/
def invocation (scope : Scope) (count : Nat) (addressee : Evaluation Addressee) : Evaluation Flow := do
  let arguments ← popArguments scope count
  let addressee ← addressee
  pushValue (← ask scope arguments addressee)
  return .next

theorem invocation_iff {instruction : Instruction} {count : Nat} {x : Evaluation Addressee}
    (addresses : ∀ {m s passed found m' t}, Course x m s passed found m' t ↔
      Addresses scope m s instruction passed found m' t) {r : Except Fault Flow} :
    Course (invocation scope count x) m s passed r m' t ↔
      Invokes scope instruction count m s passed r m' t := by
  constructor
  · intro course
    rcases bind_iff.mp course with ⟨fault, pops, rfl⟩ | ⟨arguments, n, u, prior, _, pops, goes, rfl⟩
    · exact .unready (popArguments_iff.mp pops)
    rcases bind_iff.mp goes with ⟨fault, finds, rfl⟩ | ⟨addressee, n', v, later, _, finds, calls, rfl⟩
    · exact .unaddressed (popArguments_iff.mp pops) (addresses.mp finds)
    rcases ask_push_iff.mp calls with ⟨failure, rfl, rfl, rfl⟩ | ⟨answer, rfl, rfl, rfl⟩
    · exact .refused (popArguments_iff.mp pops) (addresses.mp finds)
    · exact .answered (popArguments_iff.mp pops) (addresses.mp finds)
  · intro invokes
    cases invokes with
    | unready collects => exact bind_iff.mpr (.inl ⟨_, collects.course, rfl⟩)
    | unaddressed collects finds =>
        refine bind_iff.mpr (.inr ⟨_, _, _, _, _, collects.course, ?_, rfl⟩)
        exact bind_iff.mpr (.inl ⟨_, addresses.mpr finds, rfl⟩)
    | refused collects finds =>
        refine bind_iff.mpr (.inr ⟨_, _, _, _, _, collects.course, ?_, rfl⟩)
        refine bind_iff.mpr (.inr ⟨_, _, _, _, _, addresses.mpr finds, ?_, rfl⟩)
        exact ask_push_iff.mpr (.inl ⟨_, rfl, rfl, rfl⟩)
    | answered collects finds =>
        refine bind_iff.mpr (.inr ⟨_, _, _, _, _, collects.course, ?_, rfl⟩)
        refine bind_iff.mpr (.inr ⟨_, _, _, _, _, addresses.mpr finds, ?_, rfl⟩)
        exact ask_push_iff.mpr (.inr ⟨_, rfl, rfl, rfl⟩)

/-- A message goes to the entry below its arguments. -/
theorem receiver_iff {selector signature : String} {count : Nat} {nonVirtual : Bool}
    {found : Except Fault Addressee} :
    Course (popObject scope >>= fun handle => pure (.object handle selector signature nonVirtual)) m s passed
        found m' t ↔
      Addresses scope m s (.send selector signature count nonVirtual) passed found m' t := by
  rw [map_iff]
  constructor
  · rintro ⟨handle, pops, rfl⟩
    rcases popObject_iff.mp pops with
      ⟨empty, rfl, rfl, rfl, rfl⟩ | ⟨entry, rest, value, stack, reads, rfl, rfl⟩
    · exact .nobody empty
    · exact .receiver stack reads
  · intro addresses
    cases addresses with
    | receiver stack reads => exact ⟨_, popObject_iff.mpr (.inr ⟨_, _, _, stack, reads, rfl, rfl⟩), rfl⟩
    | nobody empty => exact ⟨.error _, popObject_iff.mpr (.inl ⟨empty, rfl, rfl, rfl, rfl⟩), rfl⟩

/-- The type of a static method or a constructor is resolved after the arguments. -/
theorem resolved_iff {typeName : String} {f : TypeRef → Addressee} {found : Except Fault Addressee} :
    Course (attempt (scope.resolution.resolve typeName) >>= fun type => pure (f type)) m s passed found m' t ↔
      ∃ resolved, (scope.resolution.resolve typeName).run.Course s passed resolved t ∧
        found = resolved.map f ∧ m' = m := by
  rw [map_iff]
  refine exists_congr fun resolved => ?_
  rw [attempt_iff, and_assoc, and_comm (a := m' = m)]

theorem static_iff {typeName selector signature : String} {count : Nat} {found : Except Fault Addressee} :
    Course (attempt (scope.resolution.resolve typeName) >>= fun type => pure (.static type selector signature))
        m s passed found m' t ↔
      Addresses scope m s (.sendStatic typeName selector signature count) passed found m' t := by
  rw [resolved_iff]
  constructor
  · rintro ⟨type, resolves, rfl, rfl⟩
    exact .static resolves
  · intro addresses
    cases addresses with
    | static resolves => exact ⟨_, resolves, rfl, rfl⟩

theorem creation_iff {typeName signature : String} {count : Nat} {found : Except Fault Addressee} :
    Course (attempt (scope.resolution.resolve typeName) >>= fun type => pure (.creation type signature))
        m s passed found m' t ↔
      Addresses scope m s (.newObject typeName signature count) passed found m' t := by
  rw [resolved_iff]
  constructor
  · rintro ⟨type, resolves, rfl, rfl⟩
    exact .creation resolves
  · intro addresses
    cases addresses with
    | creation resolves => exact ⟨_, resolves, rfl, rfl⟩

theorem execute_invokes_iff {instruction : Instruction} {count : Nat} (invokes : instruction.arity? = some count)
    {r : Except Fault Flow} :
    Course (execute scope instruction) m s passed r m' t ↔
      Invokes scope instruction count m s passed r m' t := by
  cases instruction with
  | send selector signature argCount nonVirtual =>
      cases invokes
      rw [← invocation_iff receiver_iff]
      simp only [execute, invocation, ask, bind_assoc, pure_bind]
  | sendStatic typeName selector signature argCount =>
      cases invokes
      rw [← invocation_iff static_iff]
      simp only [execute, invocation, ask, bind_assoc, pure_bind]
  | newObject typeName signature argCount =>
      cases invokes
      rw [← invocation_iff creation_iff]
      simp only [execute, invocation, ask, bind_assoc, pure_bind]
  | _ => cases invokes

/-- Arguments are popped from the last one to the first, and they arrive in the order of the source. That is
so for every number of arguments, every stack and every target: there is one way to pop them, it ends with all
values or with the first read that fails, and the stack is too short only if all of it could be read. An
invocation hands exactly these values to the target, and a message goes to the entry below the arguments. -/
theorem arguments_in_order (scope : Scope) (count : Nat) (m : Machine) (s : Bool) :
    (∀ passed r m' t, Course (popArguments scope count) m s passed r m' t ↔
      Collects scope count m s passed r m' t) ∧
    (∀ facade clears prior, ∃ passed r m' t, Collects scope count m s passed r m' t ∧
      Meets facade clears prior passed ∧ ∀ passed' r' m'' t', Collects scope count m s passed' r' m'' t' →
        Meets facade clears prior passed' → passed' = passed ∧ r' = r ∧ m'' = m' ∧ t' = t) ∧
    (∀ passed r m' t, Collects scope count m s passed r m' t → (r = .error .stackUnderflow ↔
      m.stack.length < count ∧ ∃ values, ReadsAll scope m.internals m.stack s passed values t)) ∧
    ∀ instruction, instruction.arity? = some count → ∀ passed r m' t,
      Course (execute scope instruction) m s passed r m' t ↔
        Invokes scope instruction count m s passed r m' t := by
  refine ⟨fun passed r m' t => popArguments_iff, ?_, fun passed r m' t => Collects.underflow_iff, ?_⟩
  · exact fun facade clears prior => Collects.exists_unique scope count m s facade clears prior
  · exact fun instruction invokes passed r m' t => execute_invokes_iff invokes

end Evaluation

namespace Argument.Sample

def scope : Scope := ⟨⟨⟨1⟩, 0⟩, {}⟩

/-- Two arguments on top of a receiver, all of them variables. -/
def ready : Machine where
  stack := [.place (.internal "i"), .place (.frameLocal "x"), .place (.frameLocal "p"), .value .null]
  internals := ⟨[("i", ⟨.int, none, .int 2⟩)]⟩

/-- The receiver, when the arguments are off the stack. -/
def received : Machine where
  stack := [.place (.frameLocal "p"), .value .null]
  internals := ready.internals

/-- The answer in the place of the receiver and the arguments. -/
def answered : Machine where
  stack := [.value (.int 4), .value .null]
  internals := ready.internals

def sending : Instruction := .send "at" "(II)I" 2 false

/-- What passes when a local variable is read. -/
def reading (name : String) (value : Value) : Exchange Bool :=
  .asked (.call (.localValue ⟨1⟩ 0 name)) true (.ok value) true

theorem reads (name : String) (value : Value) : Evaluation.Reads scope ready.internals
    (.place (.frameLocal name)) true [reading name value] (.ok value) true :=
  .target rfl

end Argument.Sample

open Argument.Sample in
theorem Evaluation.arguments_in_order_asking :
    sending.arity? = some 2 ∧
      Course (execute scope sending) ready true
        [reading "x" (.int 3), reading "p" (.object ⟨5⟩),
          .asked (.call (.invokeMethod ⟨5⟩ "at" "(II)I" [.int 3, .int 2] ⟨1⟩ false)) true (.ok (.int 4))
            true]
        (.ok .next) answered true := by
  obtain ⟨-, -, -, invokes⟩ := arguments_in_order scope 2 ready true
  have last : Reads scope ready.internals (.place (.internal "i")) true [] (.ok (.int 2)) true := .internal
  have both : ReadsAll scope ready.internals [.place (.internal "i"), .place (.frameLocal "x")] true
      [reading "x" (.int 3)] [.int 2, .int 3] true :=
    .cons last (.cons (reads "x" (.int 3)) .nil)
  have collects : Collects scope 2 ready true [reading "x" (.int 3)] (.ok [.int 3, .int 2]) received true :=
    .all [.place (.frameLocal "x"), .place (.internal "i")] [.int 3, .int 2] rfl rfl both
  have addresses : Addresses scope received true sending [reading "p" (.object ⟨5⟩)]
      (.ok (.object ⟨5⟩ "at" "(II)I" false)) { received with stack := [.value .null] } true :=
    .receiver (m := received) rfl (reads "p" (.object ⟨5⟩))
  exact ⟨rfl, (invokes sending rfl _ _ _ _).mpr (.answered collects addresses)⟩

end RemoteDebug
