import RemoteDebug.Proofs.Facade
import RemoteDebug.Proofs.Inquiry
import RemoteDebug.Proofs.Reference

/-!
Assignments, simple and compound, from the first operand to the write.

Both kinds of assignment pop a value and the variable below it, make a value to store, write it and push it.
Making a value is an inquiry, so whatever can go wrong before the write leaves nothing written.

* `Evaluation.Assigns` lists the courses of an assignment, `Evaluation.Puts` those of its end.
* `Facade.report?` is what a target would reply if it were asked for a variable.
* `Evaluation.assignment_atomic`: an assignment that succeeds has written its variable once, and the value
  that it pushes can be read back; an assignment that fails has written nothing.
-/

namespace RemoteDebug

/-! ### What a target reports of its variables -/

/-- What a target would reply after `prior` if it were asked for a variable of its own. -/
def Facade.report? (facade : Facade) (scope : Scope) (prior : List (Exchange Unit)) :
    Variable → Option (Except RemoteFailure Value)
  | .internal _ => none
  | .frameLocal name =>
    some (facade prior (.call (.localValue scope.frame.thread scope.frame.depth name)))
  | .field object name => some (facade prior (.call (.fieldValue object name)))
  | .staticField type name => some (facade prior (.call (.staticFieldValue type name)))
  | .element array index => some (facade prior (.call (.arrayElement array index)))

theorem Facade.report?_of_meets {facade : Facade} {clears : Nat → Bool} {prior : List (Exchange Unit)}
    {scope : Scope} {place : Variable} {s t : Bool} {reply : Except RemoteFailure Value}
    (target : place.inTarget = true) (meets : Meets facade clears prior (place.reading scope s reply t)) :
    facade.report? scope prior place = some reply := by
  cases place with
  | internal name => cases target
  | frameLocal | field | staticField | element => exact congrArg some meets.1.1.symm

/-- A target that has just been written to returns what was written, whatever is noted meanwhile. -/
def Facade.Recalls (facade : Facade) (scope : Scope) : Prop :=
  ∀ prior place value notes, place.inTarget = true →
    (∀ e ∈ notes, ∃ note, e = Exchange.told note) →
    facade.report? scope (prior ++ place.writing scope value () (.ok ()) () ++ notes) place =
      some (.ok value)

/-- A value that has been stored is there. -/
theorem Internals.get?_self_of_set {internals internals' : Internals} {name : String} {value : Value}
    (stored : internals.set name value = .ok internals') :
    ∃ held, internals.get? name = some held ∧ internals'.get? name = some { held with value } := by
  cases found : internals.get? name with
  | none =>
      rw [set, contains, found] at stored
      cases stored
  | some held =>
      refine ⟨held, rfl, ?_⟩
      rw [get?_of_set stored, found, Option.map_some, if_pos rfl]

namespace Evaluation

variable {scope : Scope} {m m' : Machine} {s t : Bool} {passed : List (Exchange Bool)}
  {place : Variable} {value : Value}

/-! ### Parts of an assignment -/

theorem readVariable_iff (target : place.inTarget = true) {r : Except Fault Value} :
    Course (readVariable scope place) m s passed r m' t ↔
      ∃ reply, passed = place.reading scope s reply t ∧ r = reply.mapError .remote ∧ m' = m := by
  cases place with
  | internal name => cases target
  | frameLocal | field | staticField | element => exact call_iff

theorem writeVariable_iff (target : place.inTarget = true) {r : Except Fault Unit} :
    Course (writeVariable scope place value) m s passed r m' t ↔
      ∃ reply, passed = place.writing scope value s reply t ∧ r = reply.mapError .remote ∧ m' = m := by
  cases place with
  | internal name => cases target
  | frameLocal | field | staticField | element => exact call_iff

theorem pop_course {r : Except Fault StackEntry} (course : Course pop m s passed r m' t) :
    passed = [] ∧ t = s ∧ ((m.stack = [] ∧ r = .error .stackUnderflow ∧ m' = m) ∨
      ∃ entry rest, m.stack = entry :: rest ∧ r = .ok entry ∧ m' = { m with stack := rest }) := by
  have popped := get_bind_iff.mp course
  cases stack : m.stack with
  | nil =>
      rw [stack] at popped
      obtain ⟨rfl, rfl, rfl, rfl⟩ := throw_iff.mp popped
      exact ⟨rfl, rfl, .inl ⟨rfl, rfl, rfl⟩⟩
  | cons entry rest =>
      rw [stack] at popped
      have taken : Course (pure entry) { m with stack := rest } s passed r m' t := popped
      obtain ⟨rfl, rfl, rfl, rfl⟩ := pure_iff.mp taken
      exact ⟨rfl, rfl, .inr ⟨entry, rest, rfl, rfl, rfl⟩⟩

theorem popValue_course {r : Except Fault Value} (course : Course (popValue scope) m s passed r m' t) :
    (m.stack = [] ∧ passed = [] ∧ r = .error .stackUnderflow) ∨
      ∃ entry rest, m.stack = entry :: rest ∧ m' = { m with stack := rest } ∧
        Course (valueOf scope entry) m' s passed r m' t := by
  rcases bind_iff.mp course with ⟨fault, pops, rfl⟩ | ⟨entry, n, u, first, second, pops, reads, rfl⟩
  · obtain ⟨rfl, -, ⟨empty, same, -⟩ | ⟨_, _, -, impossible, -⟩⟩ := pop_course pops
    · cases same
      exact .inl ⟨empty, rfl, rfl⟩
    · cases impossible
  · obtain ⟨rfl, rfl, ⟨-, impossible, -⟩ | ⟨_, rest, stack, same, rfl⟩⟩ := pop_course pops
    · cases impossible
    · cases same
      obtain ⟨rfl, -, -⟩ := valueOf_inquires scope entry _ _ _ _ _ _ reads
      exact .inr ⟨entry, rest, stack, rfl, reads⟩

theorem popVariable_course {r : Except Fault Variable} (course : Course popVariable m s passed r m' t) :
    passed = [] ∧ t = s ∧ ∀ place, r = .ok place →
      ∃ rest, m.stack = .place place :: rest ∧ m' = { m with stack := rest } := by
  rcases bind_iff.mp course with ⟨fault, pops, rfl⟩ | ⟨entry, n, u, first, second, pops, goes, rfl⟩
  · obtain ⟨rfl, rfl, -⟩ := pop_course pops
    exact ⟨rfl, rfl, nofun⟩
  · obtain ⟨rfl, rfl, ⟨-, impossible, -⟩ | ⟨_, rest, stack, same, rfl⟩⟩ := pop_course pops
    · cases impossible
    · cases same
      cases entry with
      | value value =>
          obtain ⟨rfl, rfl, -, rfl⟩ := throw_iff.mp goes
          exact ⟨rfl, rfl, nofun⟩
      | place place =>
          obtain ⟨rfl, rfl, rfl, rfl⟩ := pure_iff.mp goes
          refine ⟨rfl, rfl, fun other same => ?_⟩
          cases same
          exact ⟨rest, stack, rfl⟩

theorem operands_writeless {r : Except Fault (Value × Variable)}
    (course : Course (operands scope) m s passed r m' t) : Writeless passed := by
  have popped {r : Except Fault Value} {m' : Machine} {t : Bool} {passed : List (Exchange Bool)}
      (course : Course (popValue scope) m s passed r m' t) : Writeless passed := by
    rcases popValue_course course with ⟨-, rfl, -⟩ | ⟨entry, rest, -, -, reads⟩
    · exact .nil
    · exact (valueOf_inquires scope entry _ _ _ _ _ _ reads).2.1
  rcases bind_iff.mp course with ⟨fault, pops, rfl⟩ | ⟨value, _, _, _, _, pops, goes, rfl⟩
  · exact popped pops
  refine (popped pops).append ?_
  rcases bind_iff.mp goes with ⟨fault, fails, rfl⟩ | ⟨place, _, _, _, _, takes, ends, rfl⟩
  · rw [(popVariable_course fails).1]
    exact .nil
  · rw [(popVariable_course takes).1, (pure_iff.mp ends).1]
    exact .nil

/-- The operands of an assignment are the two entries on top of the stack. -/
theorem operands_course (course : Course (operands scope) m s passed (.ok (value, place)) m' t) :
    ∃ entry rest, m.stack = entry :: .place place :: rest ∧ m' = { m with stack := rest } ∧
      Course (valueOf scope entry) m s passed (.ok value) m t := by
  rcases bind_iff.mp course with ⟨_, -, impossible⟩ | ⟨_, n, u, first, second, pops, goes, rfl⟩
  · cases impossible
  rcases bind_iff.mp goes with ⟨_, -, impossible⟩ | ⟨_, _, _, _, _, takes, ends, rfl⟩
  · cases impossible
  obtain ⟨rfl, same, rfl, rfl⟩ := pure_iff.mp ends
  cases same
  obtain ⟨rfl, rfl, taken⟩ := popVariable_course takes
  obtain ⟨rest, below, rfl⟩ := taken place rfl
  rcases popValue_course pops with ⟨-, -, impossible⟩ | ⟨entry, _, stack, rfl, reads⟩
  · cases impossible
  cases below
  obtain ⟨-, -, moves⟩ := valueOf_inquires scope entry _ _ _ _ _ _ reads
  rw [List.append_nil, List.append_nil]
  exact ⟨entry, rest, stack, rfl, moves m rfl⟩

theorem adapted_inquires (current value : Value) : Inquires (adapted current value) := by
  unfold adapted
  split
  · exact .compute _
  · exact .pure _

theorem altered_inquires (scope : Scope) (op : BinaryOp) (place : Variable) (operand : Value) :
    Inquires (altered scope op place operand) :=
  (readVariable_inquires scope place).bind fun current =>
    (binary_inquires scope op current operand).bind fun result => adapted_inquires current result

/-- The courses of the end of an assignment: the value goes into the variable, and then onto the stack. -/
inductive Puts (scope : Scope) (place : Variable) (value : Value) (m : Machine) (s : Bool) :
    List (Exchange Bool) → Except Fault Unit → Machine → Bool → Prop where
  | internal {name : String} {internals : Internals} : place = .internal name →
      m.internals.set name value = .ok internals →
      Puts scope place value m s [] (.ok ())
        { m with stack := .value value :: m.stack, internals := internals } s
  | unknown {name : String} {fault : Fault} : place = .internal name →
      m.internals.set name value = .error fault → Puts scope place value m s [] (.error fault) m s
  | target {t : Bool} : place.inTarget = true →
      Puts scope place value m s (place.writing scope value s (.ok ()) t) (.ok ())
        { m with stack := .value value :: m.stack } t
  | refused {failure : RemoteFailure} {t : Bool} : place.inTarget = true →
      Puts scope place value m s (place.writing scope value s (.error failure) t)
        (.error (.remote failure)) m t

theorem store_puts {r : Except Fault Unit} (course : Course (store scope place value) m s passed r m' t) :
    Puts scope place value m s passed r m' t := by
  cases inside : place.inTarget with
  | true =>
      rcases bind_iff.mp course with ⟨fault, fails, rfl⟩ | ⟨_, n, u, first, second, writes, pushes, rfl⟩
      · obtain ⟨failure | _, rfl, same, rfl⟩ := (writeVariable_iff inside).mp fails
        · cases same
          exact .refused inside
        · cases same
      · obtain ⟨failure | _, rfl, same, rfl⟩ := (writeVariable_iff inside).mp writes
        · cases same
        · obtain ⟨rfl, rfl, rfl, rfl⟩ := modify_iff.mp pushes
          rw [List.append_nil]
          exact .target inside
  | false =>
      cases place with
      | frameLocal | field | staticField | element => cases inside
      | internal name =>
          rcases bind_iff.mp course with ⟨fault, fails, rfl⟩ | ⟨_, n, u, first, second, writes, pushes, rfl⟩
          · obtain ⟨rfl, rfl, ⟨_, unknown, same, rfl⟩ | ⟨_, -, impossible, -⟩⟩ :=
              replace_machine (x := (·.set name value)) fails
            · cases same
              exact .unknown rfl unknown
            · cases impossible
          · obtain ⟨rfl, rfl, ⟨_, -, impossible, -⟩ | ⟨internals, stored, -, rfl⟩⟩ :=
              replace_machine (x := (·.set name value)) writes
            · cases impossible
            · obtain ⟨rfl, rfl, rfl, rfl⟩ := modify_iff.mp pushes
              exact .internal rfl stored

/-! ### Whole assignments -/

/-- What an assignment makes of the popped value and the variable below it, if the instruction is one. -/
def making? (scope : Scope) : Instruction → Option (Variable → Value → Evaluation Value)
  | .assign => some (assigned scope)
  | .compoundAssign op => some (altered scope op)
  | _ => none

variable {instruction : Instruction} {make : Variable → Value → Evaluation Value}

theorem exists_making (scope : Scope)
    (stores : instruction = .assign ∨ ∃ op, instruction = .compoundAssign op) :
    ∃ make, making? scope instruction = some make := by
  rcases stores with rfl | ⟨op, rfl⟩
  · exact ⟨_, rfl⟩
  · exact ⟨_, rfl⟩

theorem making_inquires (makes : making? scope instruction = some make) (place : Variable)
    (value : Value) : Inquires (make place value) := by
  cases instruction with
  | assign =>
      cases makes
      exact assigned_inquires scope place value
  | compoundAssign op =>
      cases makes
      exact altered_inquires scope op place value
  | _ => cases makes

theorem execute_of_making (makes : making? scope instruction = some make) :
    execute scope instruction = (do writes scope make; return Flow.next) := by
  cases instruction with
  | assign =>
      cases makes
      rw [writes, ← assign_eq]
      rfl
  | compoundAssign op =>
      cases makes
      rw [← compoundAssign_eq_writes]
      rfl
  | _ => cases makes

/-- The courses of an assignment that makes what it stores by `make`. -/
inductive Assigns (scope : Scope) (make : Variable → Value → Evaluation Value) (m : Machine) (s : Bool) :
    List (Exchange Bool) → Except Fault Flow → Machine → Bool → Prop where
  /-- There is no value, or no variable below it. -/
  | unready {passed : List (Exchange Bool)} {fault : Fault} {m' : Machine} {t : Bool} :
      Course (operands scope) m s passed (.error fault) m' t →
      Assigns scope make m s passed (.error fault) m' t
  /-- Nothing is made to be stored. -/
  | unmade {entry : StackEntry} {place : Variable} {rest : List StackEntry} {value : Value}
      {prior made : List (Exchange Bool)} {u t : Bool} {fault : Fault} :
      m.stack = entry :: .place place :: rest →
      Course (operands scope) m s prior (.ok (value, place)) { m with stack := rest } u →
      Course (make place value) m u made (.error fault) m t →
      Assigns scope make m s (prior ++ made) (.error fault) { m with stack := rest } t
  | made {entry : StackEntry} {place : Variable} {rest : List StackEntry} {value stored : Value}
      {prior made ended : List (Exchange Bool)} {u v t : Bool} {m' : Machine} {r : Except Fault Unit} :
      m.stack = entry :: .place place :: rest →
      Course (operands scope) m s prior (.ok (value, place)) { m with stack := rest } u →
      Course (make place value) m u made (.ok stored) m v →
      Puts scope place stored { m with stack := rest } v ended r m' t →
      Assigns scope make m s (prior ++ (made ++ ended)) (r.map fun _ => .next) m' t

theorem execute_assigns (makes : making? scope instruction = some make) {r : Except Fault Flow}
    (course : Course (execute scope instruction) m s passed r m' t) :
    Assigns scope make m s passed r m' t := by
  rw [execute_of_making makes] at course
  obtain ⟨found, writes, rfl⟩ := next_course course
  rcases bind_iff.mp writes with
    ⟨fault, fails, rfl⟩ | ⟨⟨value, place⟩, n, u, prior, later, offers, goes, rfl⟩
  · exact .unready fails
  obtain ⟨entry, rest, stack, rfl, -⟩ := operands_course offers
  have inquires := making_inquires makes place value
  rcases inquires.bind_iff.mp goes with
    ⟨fault, fails, rfl, rfl⟩ | ⟨stored, v, made, ended, makes, stores, rfl⟩
  · exact .unmade stack offers ((inquires _ _ _ _ _ _ fails).2.2 m rfl)
  · exact .made stack offers ((inquires _ _ _ _ _ _ makes).2.2 m rfl) (store_puts stores)

/-! ### Atomicity -/

/-- Along `passed` a value is written to a variable, once and to no other. -/
inductive Writes (scope : Scope) (place : Variable) (value : Value) (m : Machine) :
    List (Exchange Bool) → Machine → Bool → Prop where
  | internal {name : String} {passed : List (Exchange Bool)} {m' : Machine} {t : Bool} :
      place = .internal name → Writeless passed → m.internals.set name value = .ok m'.internals →
      Writes scope place value m passed m' t
  /-- The write is the last call. -/
  | target {prior : List (Exchange Bool)} {m' : Machine} {s t : Bool} :
      place.inTarget = true → Writeless prior → m'.internals = m.internals →
      Writes scope place value m (prior ++ place.writing scope value s (.ok ()) t) m' t

/-- Whatever is noted after `passed`, the variable has the value when it is read next, if the target returns
what has been written to it. -/
def Rereads (scope : Scope) (place : Variable) (value : Value) (passed : List (Exchange Bool))
    (m : Machine) (s : Bool) : Prop :=
  ∀ (facade : Facade) clears prior notes, Meets facade clears prior passed → facade.Recalls scope →
    (∀ e ∈ notes, ∃ note, e = Exchange.told note) →
    ∀ clears' again r m' t, Course (readVariable scope place) m s again r m' t →
      Meets facade clears' (prior ++ outward passed ++ notes) again → r = .ok value

theorem outward_writing {s t : Bool} {reply : Except RemoteFailure Unit} :
    outward (place.writing scope value s reply t) = place.writing scope value () reply () := by
  cases place <;> rfl

theorem Writes.rereads (writes : Writes scope place value m passed m' t) :
    Rereads scope place value passed m' t := by
  intro facade clears prior notes meets recalls noted clears' again r m'' t' reads meets'
  cases writes with
  | internal same writeless stored =>
      subst same
      obtain ⟨held, -, found⟩ := Internals.get?_self_of_set stored
      exact (readVariable_of_internal found reads).2.1
  | target target writeless same =>
      obtain ⟨reply, rfl, rfl, -⟩ := (readVariable_iff target).mp reads
      have reported := Facade.report?_of_meets target meets'
      rw [outward_append, outward_writing, ← List.append_assoc, recalls _ _ _ _ target noted] at reported
      cases reported
      rfl

/-- What an assignment promises, whether it succeeds or not. -/
structure Atomic (scope : Scope) (m : Machine) (passed : List (Exchange Bool)) (r : Except Fault Flow)
    (m' : Machine) (t : Bool) : Prop where
  /-- The popped variable is written, and the value that was written is pushed. -/
  succeeds : ∀ flow, r = .ok flow → ∃ entry place rest value,
    m.stack = entry :: .place place :: rest ∧ m'.stack = .value value :: rest ∧
    Writes scope place value m passed m' t ∧ Rereads scope place value passed m' t
  /-- Nothing is written, unless the write itself fails. -/
  fails : ∀ fault, r = .error fault → m'.internals = m.internals ∧ (Writeless passed ∨
    ∃ entry place rest value prior s failure, m.stack = entry :: .place place :: rest ∧
      place.inTarget = true ∧ Writeless prior ∧
      passed = prior ++ place.writing scope value s (.error failure) t ∧ fault = .remote failure)

namespace Atomic

variable {entry : StackEntry} {rest : List StackEntry}

theorem of_writes (stack : m.stack = entry :: .place place :: rest)
    (pushed : m'.stack = .value value :: rest) (writes : Writes scope place value m passed m' t)
    {flow : Flow} : Atomic scope m passed (.ok flow) m' t where
  succeeds _ _ := ⟨entry, place, rest, value, stack, pushed, writes, writes.rereads⟩
  fails _ impossible := nomatch impossible

theorem of_writeless (kept : m'.internals = m.internals) (writeless : Writeless passed) {fault : Fault} :
    Atomic scope m passed (.error fault) m' t where
  succeeds _ impossible := nomatch impossible
  fails _ _ := ⟨kept, .inl writeless⟩

theorem of_refused (stack : m.stack = entry :: .place place :: rest) (target : place.inTarget = true)
    {prior : List (Exchange Bool)} (writeless : Writeless prior) {failure : RemoteFailure}
    (kept : m'.internals = m.internals) :
    Atomic scope m (prior ++ place.writing scope value s (.error failure) t)
      (.error (.remote failure)) m' t where
  succeeds _ impossible := nomatch impossible
  fails := by
    rintro _ ⟨⟩
    exact ⟨kept, .inr ⟨entry, place, rest, value, prior, s, failure, stack, target, writeless, rfl, rfl⟩⟩

end Atomic

/-- An assignment of either kind writes one variable, once, after everything else that can fail; it pushes
what it has written. -/
theorem assignment_atomic (assigns : instruction = .assign ∨ ∃ op, instruction = .compoundAssign op)
    {r : Except Fault Flow} (course : Course (execute scope instruction) m s passed r m' t) :
    Atomic scope m passed r m' t := by
  obtain ⟨make, makes⟩ := exists_making scope assigns
  cases execute_assigns makes course with
  | unready fails => exact .of_writeless (operands_spares.spares fails) (operands_writeless fails)
  | unmade stack offers fails =>
      obtain ⟨-, quiet, -⟩ := making_inquires makes _ _ _ _ _ _ _ _ fails
      exact .of_writeless (by rfl) ((operands_writeless offers).append quiet)
  | made stack offers inquires puts =>
      obtain ⟨-, quiet, -⟩ := making_inquires makes _ _ _ _ _ _ _ _ inquires
      have writeless := (operands_writeless offers).append quiet
      rw [← List.append_assoc]
      cases puts with
      | internal same sets =>
          rw [List.append_nil]
          exact .of_writes stack (by rfl) (.internal same writeless sets)
      | unknown same absent =>
          rw [List.append_nil]
          exact .of_writeless (by rfl) writeless
      | target target => exact .of_writes stack (by rfl) (.target target writeless (by rfl))
      | refused target => exact .of_refused stack target writeless (by rfl)

end Evaluation

namespace Assignment.Sample

/-- The value that a call has written, if another call reads what it writes. -/
def written? : Call → Call → Option Value
  | .setLocalValue thread depth name value, .localValue thread' depth' name' =>
    if thread = thread' ∧ depth = depth' ∧ name = name' then some value else none
  | .setFieldValue object name value, .fieldValue object' name' =>
    if object = object' ∧ name = name' then some value else none
  | .setStaticFieldValue type name value, .staticFieldValue type' name' =>
    if type = type' ∧ name = name' then some value else none
  | .setArrayElement array index value, .arrayElement array' index' =>
    if array = array' ∧ index = index' then some value else none
  | _, _ => none

/-- The value that the last call has written, if it has written what a call reads; the latest exchange
comes first. -/
def recalled? : List (Exchange Unit) → Call → Option Value
  | .told _ :: earlier, c => recalled? earlier c
  | .asked (.call latest) _ _ _ :: _, c => written? latest c
  | _, _ => none

/-- A target that remembers the last write; all its variables start as the `long` five. -/
def remembering : Facade := fun prior request =>
  let value (c : Call) := (recalled? prior.reverse c).getD (.long 5)
  match request with
  | .call (.localValue thread depth name) => .ok (value (.localValue thread depth name))
  | .call (.fieldValue object name) => .ok (value (.fieldValue object name))
  | .call (.staticFieldValue type name) => .ok (value (.staticFieldValue type name))
  | .call (.arrayElement array index) => .ok (value (.arrayElement array index))
  | .call (.setLocalValue ..) | .call (.setFieldValue ..) | .call (.setStaticFieldValue ..)
  | .call (.setArrayElement ..) => .ok ()
  | .call _ => .error .disconnected
  | .hook _ => .done
  | .listen .. => .panicked
  | .read _ => ()

theorem recalled?_append {notes : List (Exchange Unit)}
    (noted : ∀ e ∈ notes, ∃ note, e = Exchange.told note) (earlier : List (Exchange Unit)) (c : Call) :
    recalled? (notes ++ earlier) c = recalled? earlier c := by
  induction notes with
  | nil => rfl
  | cons e later ih =>
      obtain ⟨⟨note, rfl⟩, others⟩ := List.forall_mem_cons.mp noted
      exact ih others

theorem remembering_recalls (scope : Scope) : remembering.Recalls scope := by
  intro prior place value notes target noted
  cases place with
  | internal name => cases target
  | frameLocal | field | staticField | element =>
      simp only [Facade.report?, remembering, List.reverse_append,
        recalled?_append fun e member => noted e (List.mem_reverse.mp member), Variable.writing,
        List.reverse_singleton, List.singleton_append, recalled?, written?, and_self, if_true,
        Option.getD_some]

def scope : Scope := ⟨⟨⟨1⟩, 0⟩, {}⟩

/-- A number is about to be assigned to a local variable. -/
def ready : Machine where
  stack := [.value (.int 7), .place (.frameLocal "x")]

/-- What passes: the variable is read, since it decides the kind, and then written. -/
def passed : List (Exchange Bool) :=
  [.asked (.call (.localValue ⟨1⟩ 0 "x")) true (.ok (.long 5)) true,
    .asked (.call (.setLocalValue ⟨1⟩ 0 "x" (.long 7))) true (.ok ()) true]

/-- The surroundings of the course. -/
def answers : (c : Call) → Except RemoteFailure c.Answer
  | .localValue .. => .ok (.long 5)
  | .setLocalValue .. => .ok ()
  | _ => .error .disconnected

theorem assigns : (Evaluation.execute scope .assign).Course ready true passed (.ok .next)
    { stack := [.value (.long 7)] } true :=
  Dialogue.course_follow (answering answers) ((Evaluation.execute scope .assign).run.run ready true)

end Assignment.Sample

open Assignment.Sample in
theorem Evaluation.assignment_atomic_remembering :
    Writes scope (.frameLocal "x") (.long 7) ready passed { stack := [.value (.long 7)] } true ∧
      ∀ again r m t,
        Course (readVariable scope (.frameLocal "x")) { stack := [.value (.long 7)] } true again r m t →
        Meets remembering undisturbed (outward passed) again → r = .ok (.long 7) := by
  obtain ⟨entry, place, rest, value, stack, pushed, writes, rereads⟩ :=
    (assignment_atomic (.inl rfl) assigns).succeeds _ rfl
  cases stack
  cases pushed
  refine ⟨writes, fun again r m t reads meets => ?_⟩
  have passes : Meets remembering undisturbed [] passed := ⟨⟨rfl, rfl⟩, ⟨rfl, rfl⟩, trivial⟩
  refine rereads remembering undisturbed [] [] passes (remembering_recalls scope)
    (List.forall_mem_nil _) undisturbed again r m t reads ?_
  rw [List.append_nil]
  exact meets

end RemoteDebug
