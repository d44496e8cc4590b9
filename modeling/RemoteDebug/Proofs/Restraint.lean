import RemoteDebug.Proofs.Assignment
import RemoteDebug.Proofs.Effect

/-!
What instructions leave alone.

An instruction that succeeds takes its operands off the stack and puts its results in their place. It does
not look at the entries below, so it would have gone the same way above any others. The value that was
popped last and the internal variables change only where the instruction is there to change them.

* `Evaluation.Swaps` says that entries made way for others and that those below were not looked at.
* `Evaluation.Replaces` and `Evaluation.Takes` are followed along the text of an evaluation.
* `Leaves` lists the documented results by their form, `Changes` the effects on the internal variables.
* `Evaluation.execute_restrained` puts them together.
-/

namespace RemoteDebug

/-! ### Results -/

/-- The target has answered a call, and nothing has passed since. -/
def Answered (passed : List (Exchange Bool)) (c : Call) (answer : c.Answer) : Prop :=
  ∃ before s t, passed = before ++ [.asked (.call c) s (.ok answer) t]

theorem Answered.after {passed : List (Exchange Bool)} {c : Call} {answer : c.Answer}
    (answered : Answered passed c answer) (before : List (Exchange Bool)) :
    Answered (before ++ passed) c answer := by
  obtain ⟨earlier, s, t, rfl⟩ := answered
  exact ⟨before ++ earlier, s, t, (List.append_assoc ..).symm⟩

theorem Answered.still {passed : List (Exchange Bool)} {c : Call} {answer : c.Answer}
    (answered : Answered passed c answer) : Answered (passed ++ []) c answer := by
  rw [List.append_nil]
  exact answered

/-- The documented results of an instruction that has taken entries off the stack, the topmost first. What
the target has made is its answer to the last call.

Of the other results only the documented form is stated: a variable of the name in the instruction, an element
of an array, a value, a truth value. The object of a field, the array and the index of an element, the type
of a static field or a class object, and the array whose length is asked for are not tied to the entries taken
or to the name resolved, nor are the values that `binary`, `unary`, `cast`, `instanceOf`, `assign` and
`compoundAssign` leave. How types are resolved, what operators compute, what casts let through and what is
stored is said where each of them is proved. -/
inductive Leaves (scope : Scope) (taken : List StackEntry) (passed : List (Exchange Bool)) :
    Instruction → List StackEntry → Prop where
  | constant {literal : Literal} {value : Value} : literal.primitive? = some value →
      Leaves scope taken passed (.pushLiteral literal) [.value value]
  | text {text : String} {value : Value} : Answered passed (.newString text) value →
      Leaves scope taken passed (.pushLiteral (.string text)) [.value value]
  | null : Leaves scope taken passed .pushNull [.value .null]
  | receiver {value : Value} :
      Answered passed (.thisObject scope.frame.thread scope.frame.depth) value →
      Leaves scope taken passed .pushThis [.value value]
  | classObject {type : TypeRef} {typeName : String} {handle : ObjectRef} :
      Answered passed (.classObject type) (some handle) →
      Leaves scope taken passed (.pushClassObject typeName) [.value (.object handle)]
  | frameLocal {name : String} :
      Leaves scope taken passed (.pushLocal name) [.place (.frameLocal name)]
  | field {object : ObjectRef} {name : String} :
      Leaves scope taken passed (.pushField name) [.place (.field object name)]
  | staticField {type : TypeRef} {typeName name : String} :
      Leaves scope taken passed (.pushStatic typeName name) [.place (.staticField type name)]
  | internal {name : String} :
      Leaves scope taken passed (.pushInternal name) [.place (.internal name)]
  | created {name typeName : String} : Leaves scope taken passed (.createInternal name typeName) []
  | element {array : ObjectRef} {index : Int32} :
      Leaves scope taken passed .arrayAccess [.place (.element array index)]
  | length {array : ObjectRef} {length : Int32} : Answered passed (.arrayLength array) length →
      Leaves scope taken passed .arrayLength [.value (.int length)]
  | array {type : TypeRef} {arrayType : String} {length : Int32} {value : Value} :
      Answered passed (.newArray type length) value →
      Leaves scope taken passed (.newArray arrayType) [.value value]
  | sent {selector signature : String} {argCount : Nat} {nonVirtual : Bool} {receiver : ObjectRef}
      {arguments : List Value} {value : Value} : arguments.length = argCount →
      Answered passed
        (.invokeMethod receiver selector signature arguments scope.frame.thread nonVirtual) value →
      Leaves scope taken passed (.send selector signature argCount nonVirtual) [.value value]
  | sentStatic {typeName selector signature : String} {argCount : Nat} {type : TypeRef}
      {arguments : List Value} {value : Value} : arguments.length = argCount →
      Answered passed (.invokeStatic type selector signature arguments scope.frame.thread) value →
      Leaves scope taken passed (.sendStatic typeName selector signature argCount) [.value value]
  | object {typeName signature : String} {argCount : Nat} {type : TypeRef} {arguments : List Value}
      {value : Value} : arguments.length = argCount →
      Answered passed (.newInstance type signature arguments scope.frame.thread) value →
      Leaves scope taken passed (.newObject typeName signature argCount) [.value value]
  | binary {op : BinaryOp} {value : Value} : Leaves scope taken passed (.binary op) [.value value]
  | unary {op : UnaryOp} {value : Value} : Leaves scope taken passed (.unary op) [.value value]
  | cast {typeName : String} {value : Value} :
      Leaves scope taken passed (.cast typeName) [.value value]
  | tested {typeName : String} {truth : Bool} :
      Leaves scope taken passed (.instanceOf typeName) [.value (.boolean truth)]
  | assigned {value : Value} : Leaves scope taken passed .assign [.value value]
  | altered {op : BinaryOp} {value : Value} :
      Leaves scope taken passed (.compoundAssign op) [.value value]
  | popped : Leaves scope taken passed .pop []
  /-- A variable stays a variable. -/
  | doubled {top : StackEntry} : taken = [top] → Leaves scope taken passed .dup [top, top]
  | jumped {offset : Int64} : Leaves scope taken passed (.jump offset) []
  | decided {offset : Int64} {jumpOn : Bool} :
      Leaves scope taken passed (.conditionalJump offset jumpOn) []
  | returned : Leaves scope taken passed .return []
  | idle : Leaves scope taken passed .noOp []

/-- As many results are left as documented. -/
theorem Leaves.length_eq {scope : Scope} {taken pushed : List StackEntry} {passed : List (Exchange Bool)}
    {instruction : Instruction} (leaves : Leaves scope taken passed instruction pushed) :
    pushed.length = instruction.produces := by
  cases leaves <;> rfl

namespace Internals

variable {internals internals' : Internals} {name : String}

theorem entries_of_create {declared : InternalVariable}
    (created : internals.create name declared = .ok internals') :
    internals.get? name = none ∧ internals'.entries = internals.entries ++ [(name, declared)] := by
  unfold create at created
  split at created
  · cases created
  · rename_i absent
    cases created
    rw [contains, Bool.not_eq_true, Option.isSome_eq_false_iff, Option.isNone_iff_eq_none] at absent
    exact ⟨absent, rfl⟩

theorem names_of_set {value : Value} (stored : internals.set name value = .ok internals') :
    internals'.names = internals.names := by
  unfold set at stored
  split at stored
  · cases stored
    exact List.map_map
  · cases stored

/-- One variable holds another value, the others are the same. -/
theorem get?_of_stored {value : Value} {held : InternalVariable}
    (stored : internals.set name value = .ok internals') (found : internals.get? name = some held)
    (other : String) : internals'.get? other =
      if other = name then some { held with value } else internals.get? other := by
  rw [get?_of_set stored]
  by_cases same : other = name
  · rw [same, found, Option.map_some, if_pos rfl, if_pos rfl]
  · simp only [if_neg same, Option.map_id_fun', id_eq]

end Internals

/-- What an instruction that succeeds changes of the internal variables. -/
inductive Changes : Instruction → Machine → Machine → Prop where
  /-- A declaration adds a new name. -/
  | declares {name typeName : String} {held : InternalVariable} {m m' : Machine} :
      m.internals.get? name = none → m'.internals.entries = m.internals.entries ++ [(name, held)] →
      Changes (.createInternal name typeName) m m'
  /-- An assignment to an internal variable changes the value of its name and nothing else. -/
  | stores {instruction : Instruction} {m m' : Machine} {entry : StackEntry} {name : String}
      {rest : List StackEntry} {held : InternalVariable} {value : Value} :
      instruction = .assign ∨ (∃ op, instruction = .compoundAssign op) →
      m.stack = entry :: .place (.internal name) :: rest → m.internals.get? name = some held →
      m'.internals.names = m.internals.names →
      (∀ other, m'.internals.get? other =
        if other = name then some { held with value } else m.internals.get? other) →
      Changes instruction m m'
  | writes {instruction : Instruction} {m m' : Machine} {entry : StackEntry} {place : Variable}
      {rest : List StackEntry} :
      instruction = .assign ∨ (∃ op, instruction = .compoundAssign op) →
      m.stack = entry :: .place place :: rest → place.inTarget = true → m'.internals = m.internals →
      Changes instruction m m'
  | spares {instruction : Instruction} {m m' : Machine} : instruction.isStore = false →
      m'.internals = m.internals → Changes instruction m m'

namespace Evaluation

variable {α β : Type} {scope : Scope}

/-! ### The stack -/

section Swaps

variable {m m' u : Machine} {s t v : Bool} {before later : List (Exchange Bool)}
  {above taken pushed : List StackEntry}

/-- Along a course the entries `taken` have made way for the entries `pushed`. Those below have stayed, and
they do not matter to the course. -/
structure Swaps (x : Evaluation α) (m : Machine) (s : Bool) (passed : List (Exchange Bool)) (a : α)
    (m' : Machine) (t : Bool) (taken pushed : List StackEntry) : Prop where
  stays : ∃ rest, m.stack = taken ++ rest ∧ m'.stack = pushed ++ rest
  blind : ∀ below, Course x { m with stack := taken ++ below } s passed (.ok a)
    { m' with stack := pushed ++ below } t

theorem Swaps.bind {x : Evaluation α} {f : α → Evaluation β} {a : α} {b : β}
    (head : Swaps x m s before a u v above []) (tail : Swaps (f a) u v later b m' t taken pushed) :
    Swaps (x >>= f) m s (before ++ later) b m' t (above ++ taken) pushed where
  stays := by
    obtain ⟨_, stack, left⟩ := head.stays
    obtain ⟨rest, stack', left'⟩ := tail.stays
    rw [List.nil_append] at left
    refine ⟨rest, ?_, left'⟩
    rw [stack, ← left, stack', List.append_assoc]
  blind below := by
    have first := head.blind (taken ++ below)
    rw [← List.append_assoc, List.nil_append] at first
    exact bind_iff.mpr (.inr ⟨a, _, v, before, later, first, tail.blind below, rfl⟩)

end Swaps

/-- An evaluation that succeeds replaces the topmost `n` entries by others, which `gives` describes, and
leaves the last value alone. -/
def Replaces (x : Evaluation α) (n : Nat)
    (gives : List StackEntry → List (Exchange Bool) → α → List StackEntry → Prop) : Prop :=
  ∀ m s passed a m' t, Course x m s passed (.ok a) m' t → ∃ taken pushed, taken.length = n ∧
    gives taken passed a pushed ∧ Swaps x m s passed a m' t taken pushed ∧ m'.lastValue = m.lastValue

/-- An evaluation that succeeds takes the topmost `n` entries and puts none in their place. -/
def Takes (x : Evaluation α) (n : Nat)
    (gives : List (Exchange Bool) → α → Prop := fun _ _ => True) : Prop :=
  Replaces x n fun _ passed a pushed => pushed = [] ∧ gives passed a

namespace Replaces

variable {fault : Fault} {n : Nat}
  {gives : List StackEntry → List (Exchange Bool) → β → List StackEntry → Prop}

theorem throw : Replaces (MonadExcept.throw fault) n gives := by
  intro m s passed a m' t course
  cases (throw_iff.mp course).2.1

/-- What would follow a failure does not matter. -/
theorem throw_bind {f : α → Evaluation β} : Replaces (MonadExcept.throw fault >>= f) n gives :=
  throw

/-- Nothing but the internal variables is looked at. -/
theorem look {f : Machine → Evaluation β} (rest : ∀ m, Replaces (f m) n gives)
    (same : ∀ m u, u.internals = m.internals → f u = f m) : Replaces (get >>= f) n gives := by
  intro m s passed b m' t course
  obtain ⟨taken, pushed, length, given, swaps, last⟩ := rest m _ _ _ _ _ _ (get_bind_iff.mp course)
  refine ⟨taken, pushed, length, given, ⟨swaps.stays, fun below => get_bind_iff.mpr ?_⟩, last⟩
  have alike : f { m with stack := taken ++ below } = f m := same _ _ rfl
  rw [alike]
  exact swaps.blind below

end Replaces

theorem Takes.replaces {x : Evaluation α} {f : α → Evaluation β} {n k l : Nat}
    {offers : List (Exchange Bool) → α → Prop}
    {gives : List StackEntry → List (Exchange Bool) → β → List StackEntry → Prop}
    (first : Takes x n offers) (total : k + n = l) (rest : ∀ a before above, offers before a →
      Replaces (f a) k fun taken passed b pushed => gives (above ++ taken) (before ++ passed) b pushed) :
    Replaces (x >>= f) l gives := by
  intro m s passed b m' t course
  rcases bind_iff.mp course with ⟨_, -, impossible⟩ | ⟨a, u, v, before, later, head, tail, rfl⟩
  · cases impossible
  obtain ⟨above, _, length, ⟨rfl, offered⟩, swaps, last⟩ := first _ _ _ _ _ _ head
  obtain ⟨taken, pushed, length', given, swaps', last'⟩ := rest a before above offered _ _ _ _ _ _ tail
  refine ⟨above ++ taken, pushed, ?_, given, swaps.bind swaps', last'.trans last⟩
  rw [List.length_append, length, length', Nat.add_comm, total]

namespace Takes

variable {n : Nat} {gives : List (Exchange Bool) → α → Prop}

/-- An inquiry takes nothing. -/
theorem of_inquires {x : Evaluation α} (inquires : Inquires x)
    (given : ∀ m s passed a t, Course x m s passed (.ok a) m t → gives passed a) : Takes x 0 gives := by
  intro m s passed a m' t course
  obtain ⟨rfl, -, moves⟩ := inquires _ _ _ _ _ _ course
  exact ⟨[], [], rfl, ⟨rfl, given _ _ _ _ _ course⟩, ⟨⟨_, rfl, rfl⟩, fun _ => moves _ rfl⟩, rfl⟩

theorem inquiry {x : Evaluation α} (inquires : Inquires x) : Takes x 0 :=
  of_inquires inquires fun _ _ _ _ _ _ => trivial

theorem pure {a : α} (given : gives [] a) : Takes (Pure.pure a) 0 gives := by
  refine of_inquires (.pure a) fun m s passed b t course => ?_
  obtain ⟨rfl, same, -, -⟩ := pure_iff.mp course
  cases same
  exact given

theorem call {c : Call} : Takes (Evaluation.call c) 0 fun passed answer => Answered passed c answer := by
  intro m s passed a m' t course
  obtain ⟨answer, rfl, same, rfl⟩ := call_iff.mp course
  refine ⟨[], [], rfl, ⟨rfl, ?_⟩, ⟨⟨_, rfl, rfl⟩, fun _ => call_iff.mpr ⟨answer, rfl, same, rfl⟩⟩, rfl⟩
  cases answer with
  | error failure => cases same
  | ok answer =>
      cases same
      exact ⟨[], s, t, rfl⟩

theorem weaken {x : Evaluation α} {gives' : List (Exchange Bool) → α → Prop} (takes : Takes x n gives)
    (weaker : ∀ passed a, gives passed a → gives' passed a) : Takes x n gives' := by
  intro m s passed a m' t course
  obtain ⟨taken, pushed, length, ⟨none, given⟩, swaps, last⟩ := takes _ _ _ _ _ _ course
  exact ⟨taken, pushed, length, ⟨none, weaker _ _ given⟩, swaps, last⟩

theorem bind {x : Evaluation α} {f : α → Evaluation β} {k l : Nat} {gives' : List (Exchange Bool) → β → Prop}
    (first : Takes x n gives) (total : k + n = l)
    (rest : ∀ a before, gives before a → Takes (f a) k fun passed b => gives' (before ++ passed) b) :
    Takes (x >>= f) l gives' :=
  first.replaces total fun a before _ given => rest a before given

end Takes

theorem pop_takes : Takes pop 1 := by
  intro m s passed entry m' t course
  obtain ⟨rfl, rfl, ⟨-, impossible, -⟩ | ⟨_, rest, stack, same, rfl⟩⟩ := pop_course course
  · cases impossible
  cases same
  refine ⟨[entry], [], rfl, ⟨rfl, trivial⟩, ⟨⟨rest, stack, rfl⟩, fun below => ?_⟩, rfl⟩
  exact (pure_iff (m := { m with stack := below })).mpr ⟨rfl, rfl, rfl, rfl⟩

/-- Most instructions end so: an entry goes onto the stack, and the next instruction follows. -/
theorem push_next_replaces {gives : List StackEntry → List (Exchange Bool) → Flow → List StackEntry → Prop}
    {entry : StackEntry} (given : gives [] [] .next [entry]) :
    Replaces (do push entry; return Flow.next) 0 gives := by
  intro m s passed flow m' t course
  have pushed : Course (pure Flow.next) { m with stack := entry :: m.stack } s passed (.ok flow) m' t :=
    course
  obtain ⟨rfl, same, rfl, rfl⟩ := pure_iff.mp pushed
  cases same
  exact ⟨[], [entry], rfl, given, ⟨⟨m.stack, rfl, rfl⟩, fun _ => pure_iff.mpr ⟨rfl, rfl, rfl, rfl⟩⟩, rfl⟩

/-- An instruction that leaves no results. -/
theorem flow_replaces {gives : List StackEntry → List (Exchange Bool) → Flow → List StackEntry → Prop}
    {flow : Flow} (given : gives [] [] flow []) : Replaces (return flow) 0 gives := by
  intro m s passed flow' m' t course
  obtain ⟨rfl, same, rfl, rfl⟩ := pure_iff.mp course
  cases same
  exact ⟨[], [], rfl, given, ⟨⟨_, rfl, rfl⟩, fun _ => pure_iff.mpr ⟨rfl, rfl, rfl, rfl⟩⟩, rfl⟩

/-- Internal variables are replaced without regard to the stack. -/
theorem replace_takes (x : Internals → Except Fault Internals) : Takes (do
    let internals ← compute (x (← get).internals)
    modify fun m => { m with internals }) 0 := by
  intro m s passed a m' t course
  obtain ⟨rfl, rfl, ⟨_, -, impossible, -⟩ | ⟨internals, made, same, rfl⟩⟩ := replace_machine course
  · cases impossible
  refine ⟨[], [], rfl, ⟨rfl, trivial⟩, ⟨⟨m.stack, rfl, rfl⟩, fun below => get_bind_iff.mpr ?_⟩, rfl⟩
  dsimp only
  rw [made, compute, pure_bind]
  exact modify_iff.mpr ⟨rfl, rfl, rfl, rfl⟩

section Parts

variable (scope)

theorem popValue_takes : Takes (popValue scope) 1 :=
  pop_takes.bind rfl fun entry _ _ => .inquiry (valueOf_inquires scope entry)

theorem popVariable_takes : Takes popVariable 1 := by
  refine pop_takes.bind rfl fun entry _ _ => ?_
  cases entry with
  | place place => exact .pure trivial
  | value value => exact .throw

theorem popObject_takes : Takes (popObject scope) 1 := by
  refine (popValue_takes scope).bind rfl fun value _ _ => ?_
  cases value <;> first | exact .pure trivial | exact .throw

theorem popArguments_takes (count : Nat) :
    Takes (popArguments scope count) count fun _ arguments => arguments.length = count := by
  induction count with
  | zero => exact .pure rfl
  | succ count ih =>
      refine (popValue_takes scope).bind rfl fun last _ _ => ?_
      refine ih.bind (Nat.zero_add count) fun arguments _ length => .pure ?_
      rw [List.length_append, length, List.length_singleton]

theorem writeVariable_takes (place : Variable) (value : Value) :
    Takes (writeVariable scope place value) 0 := by
  cases place with
  | internal name => exact replace_takes (·.set name value)
  | frameLocal | field | staticField | element => exact Takes.call.weaken fun _ _ _ => trivial

theorem classObject_takes (name : String) :
    Takes (attempt (scope.resolution.classObject name)) 0 fun passed value =>
      ∃ type handle, value = .object handle ∧ Answered passed (.classObject type) (some handle) := by
  simp only [Resolution.classObject, attempt_bind]
  refine (Takes.inquiry (resolve_inquires scope name)).bind rfl fun type _ _ => ?_
  refine Takes.call.bind rfl fun found _ answered => ?_
  split
  · rename_i handle
    exact Takes.pure ⟨type, handle, rfl, answered.still.after _⟩
  · exact .throw

theorem declare_takes (name typeName : String) : Takes (declare scope name typeName) 0 := by
  refine (Takes.inquiry (declared_inquires scope typeName)).bind rfl fun declared _ _ => ?_
  have creates (held : InternalVariable) := replace_takes (·.create name held)
  split
  · split
    · exact (Takes.inquiry (.pure _)).bind rfl fun held _ _ => creates held
    · exact .throw_bind
  · exact (Takes.inquiry (.pure _)).bind rfl fun held _ _ => creates held

theorem allocate_takes (arrayType : String) (length : Int32) :
    Takes (allocate scope arrayType length) 0 fun passed value =>
      ∃ type, Answered passed (.newArray type length) value := by
  unfold allocate
  split
  · exact .throw_bind
  · refine (Takes.inquiry (resolve_inquires scope arrayType)).bind rfl fun type _ _ => ?_
    refine Takes.call.bind rfl fun category _ _ => ?_
    dsimp only
    split
    · exact .throw_bind
    · exact Takes.call.weaken fun _ _ answered => ⟨type, (answered.after _).after _⟩

/-- Both kinds of assignment. -/
theorem making_replaces {instruction : Instruction} {make : Variable → Value → Evaluation Value}
    (makes : making? scope instruction = some make)
    (leaves : ∀ taken passed value, Leaves scope taken passed instruction [.value value]) :
    Replaces (execute scope instruction) 2 fun taken passed _ pushed =>
      Leaves scope taken passed instruction pushed := by
  rw [execute_of_making makes]
  simp only [writes, operands, store, bind_assoc, pure_bind]
  refine (popValue_takes scope).replaces rfl fun value _ _ _ => ?_
  refine popVariable_takes.replaces rfl fun place _ _ _ => ?_
  refine (Takes.inquiry (making_inquires makes place value)).replaces rfl fun stored _ _ _ => ?_
  refine (writeVariable_takes scope place stored).replaces rfl fun _ _ _ _ => ?_
  exact push_next_replaces (leaves _ _ _)

/-- The top entry is put onto itself, whatever it is. -/
theorem dup_replaces : Replaces (execute scope .dup) 1 fun taken passed _ pushed =>
    Leaves scope taken passed .dup pushed := by
  intro m s passed flow m' t course
  have seen := get_bind_iff.mp course
  cases stack : m.stack with
  | nil =>
      rw [stack] at seen
      cases (throw_iff.mp seen).2.1
  | cons top rest =>
      rw [stack] at seen
      have pushed :
          Course (pure Flow.next) { m with stack := top :: m.stack } s passed (.ok flow) m' t := seen
      obtain ⟨rfl, same, rfl, rfl⟩ := pure_iff.mp pushed
      cases same
      refine ⟨[top], [top, top], rfl, .doubled rfl, ⟨⟨rest, stack, ?_⟩, fun below => ?_⟩, rfl⟩
      · rw [stack]
        rfl
      · exact (pure_iff (m := { m with stack := top :: top :: below })).mpr ⟨rfl, rfl, rfl, rfl⟩

/-- An instruction that keeps the last value replaces its operands by its results. -/
theorem execute_replaces (instruction : Instruction) (other : instruction ≠ .pop) :
    Replaces (execute scope instruction) instruction.consumes fun taken passed _ pushed =>
      Leaves scope taken passed instruction pushed := by
  cases instruction with
  | pushLiteral literal =>
      cases literal with
      | string text =>
          exact Takes.call.replaces rfl fun value _ _ answered =>
            push_next_replaces (.text answered.still)
      | _ => exact push_next_replaces (.constant rfl)
  | pushNull => exact push_next_replaces .null
  | pushThis =>
      exact Takes.call.replaces rfl fun value _ _ answered =>
        push_next_replaces (.receiver answered.still)
  | pushClassObject typeName =>
      refine (classObject_takes scope typeName).replaces rfl fun value _ _ found => ?_
      obtain ⟨type, handle, rfl, answered⟩ := found
      exact push_next_replaces (.classObject answered.still)
  | pushLocal name => exact push_next_replaces .frameLocal
  | pushField name =>
      exact (popObject_takes scope).replaces rfl fun object _ _ _ => push_next_replaces .field
  | pushStatic typeName name =>
      exact (Takes.inquiry (resolve_inquires scope typeName)).replaces rfl fun type _ _ _ =>
        push_next_replaces .staticField
  | pushInternal name =>
      refine .look (fun m => ?_) fun m u same => by rw [same]
      dsimp only
      split
      · exact .throw_bind
      · exact push_next_replaces .internal
  | createInternal name typeName =>
      exact (declare_takes scope name typeName).replaces rfl fun _ _ _ _ => flow_replaces .created
  | arrayAccess =>
      refine (popValue_takes scope).replaces rfl fun value _ _ _ => ?_
      refine (Takes.inquiry (.compute _)).replaces rfl fun index _ _ _ => ?_
      exact (popObject_takes scope).replaces rfl fun array _ _ _ => push_next_replaces .element
  | arrayLength =>
      refine (popObject_takes scope).replaces rfl fun array _ _ _ => ?_
      exact Takes.call.replaces rfl fun length _ _ answered =>
        push_next_replaces (.length (answered.still.after _))
  | newArray arrayType =>
      refine (popValue_takes scope).replaces rfl fun value _ _ _ => ?_
      refine (Takes.inquiry (.compute _)).replaces rfl fun length _ _ _ => ?_
      refine (allocate_takes scope arrayType length).replaces rfl fun array _ _ found => ?_
      obtain ⟨type, answered⟩ := found
      exact push_next_replaces (.array ((answered.still.after _).after _))
  | send selector signature argCount nonVirtual =>
      refine (popArguments_takes scope argCount).replaces (Nat.add_comm 1 argCount)
        fun arguments _ _ count => ?_
      refine (popObject_takes scope).replaces rfl fun receiver _ _ _ => ?_
      exact Takes.call.replaces rfl fun value _ _ answered =>
        push_next_replaces (.sent count ((answered.still.after _).after _))
  | sendStatic typeName selector signature argCount =>
      refine (popArguments_takes scope argCount).replaces (Nat.zero_add argCount)
        fun arguments _ _ count => ?_
      refine (Takes.inquiry (resolve_inquires scope typeName)).replaces rfl fun type _ _ _ => ?_
      exact Takes.call.replaces rfl fun value _ _ answered =>
        push_next_replaces (.sentStatic count ((answered.still.after _).after _))
  | newObject typeName signature argCount =>
      refine (popArguments_takes scope argCount).replaces (Nat.zero_add argCount)
        fun arguments _ _ count => ?_
      refine (Takes.inquiry (resolve_inquires scope typeName)).replaces rfl fun type _ _ _ => ?_
      exact Takes.call.replaces rfl fun value _ _ answered =>
        push_next_replaces (.object count ((answered.still.after _).after _))
  | binary op =>
      refine (popValue_takes scope).replaces rfl fun right _ _ _ => ?_
      refine (popValue_takes scope).replaces rfl fun left _ _ _ => ?_
      exact (Takes.inquiry (binary_inquires scope op left right)).replaces rfl fun value _ _ _ =>
        push_next_replaces .binary
  | unary op =>
      refine (popValue_takes scope).replaces rfl fun operand _ _ _ => ?_
      exact (Takes.inquiry (.compute _)).replaces rfl fun value _ _ _ => push_next_replaces .unary
  | cast typeName =>
      refine (popValue_takes scope).replaces rfl fun value _ _ _ => ?_
      exact (Takes.inquiry (cast_inquires scope value typeName)).replaces rfl fun _ _ _ _ =>
        push_next_replaces .cast
  | instanceOf typeName =>
      refine (popValue_takes scope).replaces rfl fun value _ _ _ => ?_
      exact (Takes.inquiry (instanceOf_inquires scope value typeName)).replaces rfl fun _ _ _ _ =>
        push_next_replaces .tested
  | assign => exact making_replaces scope rfl fun _ _ _ => .assigned
  | compoundAssign op => exact making_replaces scope rfl fun _ _ _ => .altered
  | pop => exact absurd rfl other
  | dup => exact dup_replaces scope
  | jump offset => exact flow_replaces .jumped
  | conditionalJump offset jumpOn =>
      refine (popValue_takes scope).replaces rfl fun value _ _ _ => ?_
      exact (Takes.inquiry (.compute _)).replaces rfl fun condition _ _ _ => flow_replaces .decided
  | «return» => exact flow_replaces .returned
  | noOp => exact flow_replaces .idle

end Parts

/-! ### The whole machine -/

variable {m m' : Machine} {s t : Bool} {passed : List (Exchange Bool)} {instruction : Instruction}
  {flow : Flow}

theorem pop_swaps (course : Course (execute scope .pop) m s passed (.ok flow) m' t) :
    ∃ entry value, Swaps (execute scope .pop) m s passed flow m' t [entry] [] ∧
      Course (valueOf scope entry) m s passed (.ok value) m t ∧ m'.lastValue = some value := by
  rcases bind_iff.mp course with ⟨_, -, impossible⟩ | ⟨value, u, v, first, second, pops, goes, rfl⟩
  · cases impossible
  have ends : Course (pure Flow.next) { u with lastValue := some value } v second (.ok flow) m' t := goes
  obtain ⟨rfl, same, rfl, flag⟩ := pure_iff.mp ends
  cases same
  subst flag
  obtain ⟨taken, _, length, ⟨rfl, -⟩, swaps, -⟩ := popValue_takes scope _ _ _ _ _ _ pops
  obtain ⟨entry, rfl⟩ := List.length_eq_one_iff.mp length
  obtain ⟨rest, stack, left⟩ := swaps.stays
  have notes : Swaps (do modify fun m : Machine => { m with lastValue := some value }; return Flow.next)
      u t [] .next { u with lastValue := some value } t [] [] :=
    ⟨⟨rest, left, left⟩, fun below =>
      (pure_iff (m := { u with stack := below, lastValue := some value })).mpr ⟨rfl, rfl, rfl, rfl⟩⟩
  refine ⟨entry, value, swaps.bind notes, ?_, rfl⟩
  rcases popValue_course pops with ⟨-, -, impossible⟩ | ⟨_, _, stack', rfl, reads⟩
  · cases impossible
  rw [stack', List.singleton_append] at stack
  cases stack
  obtain ⟨-, -, moves⟩ := valueOf_inquires scope entry _ _ _ _ _ _ reads
  rw [List.append_nil]
  exact moves m rfl

/-- A declaration adds a name. -/
theorem declare_changes {name typeName : String}
    (course : Course (declare scope name typeName) m s passed (.ok ()) m' t) :
    Changes (.createInternal name typeName) m m' := by
  rcases declare_course course with ⟨_, impossible, -⟩ | ⟨-, declared, held, -, -, -, created⟩
  · cases impossible
  obtain ⟨unknown, added⟩ := Internals.entries_of_create created
  exact .declares unknown added

/-- An assignment changes one value, or none if the variable belongs to the target. -/
theorem assigns_changes {make : Variable → Value → Evaluation Value}
    (makes : making? scope instruction = some make)
    (assigns : instruction = .assign ∨ ∃ op, instruction = .compoundAssign op)
    (course : Course (execute scope instruction) m s passed (.ok flow) m' t) :
    Changes instruction m m' := by
  generalize ended : Except.ok (ε := Fault) flow = r at course
  cases execute_assigns makes course with
  | unready fails => cases ended
  | unmade stack offers fails => cases ended
  | made stack offers inquires puts =>
      cases puts with
      | internal same stored =>
          subst same
          obtain ⟨held, found, -⟩ := Internals.get?_self_of_set stored
          exact .stores assigns stack found (Internals.names_of_set stored)
            (Internals.get?_of_stored stored found)
      | unknown same absent => cases ended
      | target target => exact .writes assigns stack target (by rfl)
      | refused target => cases ended

theorem execute_changes (course : Course (execute scope instruction) m s passed (.ok flow) m' t) :
    Changes instruction m m' := by
  cases store : instruction.isStore with
  | false => exact .spares store ((execute_spares scope instruction store).spares course)
  | true =>
      cases instruction with
      | createInternal name typeName =>
          obtain ⟨_ | _, declares, same⟩ := next_course course
          · cases same
          · exact declare_changes declares
      | assign => exact assigns_changes rfl (.inl rfl) course
      | compoundAssign op => exact assigns_changes rfl (.inr ⟨op, rfl⟩) course
      | _ => cases store

/-- What an instruction that succeeds does to the machine, and what it leaves alone. -/
structure Restrained (scope : Scope) (instruction : Instruction) (m : Machine) (s : Bool)
    (passed : List (Exchange Bool)) (flow : Flow) (m' : Machine) (t : Bool) : Prop where
  /-- The documented number of entries makes way for the documented results. -/
  stack : ∃ taken pushed, taken.length = instruction.consumes ∧
    Leaves scope taken passed instruction pushed ∧
    Swaps (execute scope instruction) m s passed flow m' t taken pushed
  lastValue : (instruction ≠ .pop ∧ m'.lastValue = m.lastValue) ∨
    instruction = .pop ∧ ∃ entry rest value, m.stack = entry :: rest ∧
      Course (valueOf scope entry) m s passed (.ok value) m t ∧ m'.lastValue = some value
  internals : Changes instruction m m'

/-- An instruction that succeeds does what is documented and nothing else. -/
theorem execute_restrained (course : Course (execute scope instruction) m s passed (.ok flow) m' t) :
    Restrained scope instruction m s passed flow m' t := by
  have changes := execute_changes course
  by_cases pops : instruction = .pop
  · subst pops
    obtain ⟨entry, value, swaps, reads, last⟩ := pop_swaps course
    obtain ⟨rest, stack, -⟩ := swaps.stays
    exact ⟨⟨[entry], [], rfl, .popped, swaps⟩, .inr ⟨rfl, entry, rest, value, stack, reads, last⟩, changes⟩
  · obtain ⟨taken, pushed, length, leaves, swaps, last⟩ :=
      execute_replaces scope instruction pops _ _ _ _ _ _ course
    exact ⟨⟨taken, pushed, length, leaves, swaps⟩, .inl ⟨pops, last⟩, changes⟩

end Evaluation

namespace Restraint.Sample

def scope : Scope := ⟨⟨⟨1⟩, 0⟩, {}⟩

/-- The two arguments of an invocation, of which one is a variable, and the receiver. -/
def invoked : List StackEntry :=
  [.value (.int 2), .place (.frameLocal "x"), .value (.object ⟨5⟩)]

def sending : Instruction := .send "at" "(II)I" 2 false

/-- Below them lies a variable that the target does not know. -/
def ready : Machine where
  stack := invoked ++ [.place (.frameLocal "unknown")]

def passed : List (Exchange Bool) :=
  [.asked (.call (.localValue ⟨1⟩ 0 "x")) true (.ok (.int 3)) true,
    .asked (.call (.invokeMethod ⟨5⟩ "at" "(II)I" [.int 3, .int 2] ⟨1⟩ false)) true (.ok (.int 4)) true]

/-- The surroundings of the course. -/
def answers : (c : Call) → Except RemoteFailure c.Answer
  | .localValue _ _ "x" => .ok (.int 3)
  | .invokeMethod .. => .ok (.int 4)
  | _ => .error .disconnected

theorem sends : (Evaluation.execute scope sending).Course ready true passed (.ok .next)
    { stack := [.value (.int 4), .place (.frameLocal "unknown")] } true :=
  Dialogue.course_follow (answering answers) ((Evaluation.execute scope sending).run.run ready true)

end Restraint.Sample

open Restraint.Sample in
theorem Evaluation.execute_restrained_sending :
    Course (execute scope sending) { stack := invoked } true passed (.ok .next)
      { stack := [.value (.int 4)] } true := by
  obtain ⟨⟨taken, pushed, length, -, swaps⟩, -, -⟩ := execute_restrained sends
  obtain ⟨rest, stack, left⟩ := swaps.stays
  obtain ⟨rfl, rfl⟩ := List.append_inj stack length.symm
  have answer : [StackEntry.value (.int 4)] = pushed := List.append_cancel_right left
  subst answer
  have above := swaps.blind []
  rwa [List.append_nil] at above

end RemoteDebug
