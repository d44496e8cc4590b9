import RemoteDebug.Proofs.Constancy

/-!
A compound assignment as a shorthand.

To combine a primitive variable with an operand and to store the result is to combine the two by a binary
operator, to cast the result to the kind of the variable and to assign it. The two ways read in different
orders and convert in different places: the assignment of a value in the target looks at the variable once
more. What they compute up to the write is one inquiry.

There is one gap. A variable of a reference type that a compound assignment has left with a primitive takes
the result of another compound assignment, but refuses to be assigned it.

* `Evaluation.computed` is the inquiry, `compoundAssign_computes` and `castAndAssign_computes` find it in
  the two ways.
* `Evaluation.SameOutcome` says that the two ways come to the same, `Evaluation.Misses` describes the gap.
* `Interpreter.compound_is_cast_and_assign` is the statement about all operators, variables and operands.
-/

namespace RemoteDebug

/-! ### Targets -/

/-- What the target replies does not depend on which variables have been read. -/
def Facade.Harmless (facade : Facade) (scope : Scope) : Prop :=
  ∀ earlier (place : Variable) reply later request,
    facade (earlier ++ (place.reading scope () reply () ++ later)) request = facade (earlier ++ later) request

theorem outward_reading {scope : Scope} {place : Variable} {s t : Bool}
    {reply : Except RemoteFailure Value} :
    outward (place.reading scope s reply t) = place.reading scope () reply () := by
  cases place <;> rfl

/-- Where a target replies alike, it takes a write alike. -/
theorem reply_of_writing {facade : Facade} {clears : Nat → Bool} {prior prior' : List (Exchange Unit)}
    {scope : Scope} {place : Variable} {value : Value} {s t s' t' : Bool}
    {reply reply' : Except RemoteFailure Unit} (target : place.inTarget = true)
    (alike : ∀ request, facade prior' request = facade prior request)
    (meets : Meets facade clears prior (place.writing scope value s reply t))
    (meets' : Meets facade clears prior' (place.writing scope value s' reply' t')) : reply' = reply := by
  cases place with
  | internal name => cases target
  | frameLocal | field | staticField | element =>
      exact (meets'.1.1.trans (alike _)).trans meets.1.1.symm

/-- All variables are as they were declared, one way or the other. -/
def Internals.Declared (internals : Internals) : Prop :=
  ∀ name held, internals.get? name = some held → ∃ declared, held.Suits declared

namespace Evaluation

variable {scope : Scope} {m m' : Machine} {s t u v : Bool} {passed : List (Exchange Bool)}
  {op : BinaryOp} {place : Variable} {entry : StackEntry} {rest : List StackEntry} {current value : Value}
  {kind : Kind} {facade : Facade} {clears : Nat → Bool} {prior : List (Exchange Unit)}

/-- Along `passed` the variable has a value, until something is written. -/
def Stays (facade : Facade) (scope : Scope) (prior : List (Exchange Unit)) (passed : List (Exchange Bool))
    (m : Machine) (current : Value) : Variable → Prop
  | .internal name => ∃ held, m.internals.get? name = some held ∧ held.value = current
  | place => ∀ first, first <+: passed → Writeless first →
    facade.report? scope (prior ++ outward first) place = some (.ok current)

theorem Stays.report {first : List (Exchange Bool)}
    (stays : Stays facade scope prior passed m current place) (target : place.inTarget = true)
    (begins : first <+: passed) (quiet : Writeless first) :
    facade.report? scope (prior ++ outward first) place = some (.ok current) := by
  cases place with
  | internal name => cases target
  | frameLocal | field | staticField | element => exact stays first begins quiet

/-- Before the write the variable is read as it is. -/
theorem Stays.reads {first looked later : List (Exchange Bool)} {r : Except Fault Value} {n : Machine}
    (stays : Stays facade scope prior (first ++ (looked ++ later)) m current place)
    (quiet : Writeless first) (meets : Meets facade clears prior (first ++ (looked ++ later)))
    (course : Course (readVariable scope place) m u looked r n v) : r = .ok current := by
  cases target : place.inTarget with
  | true =>
      obtain ⟨reply, rfl, rfl, -⟩ := (readVariable_iff target).mp course
      have reports := stays.report target (List.prefix_append _ _) quiet
      rw [reply_of_report target reports meets]
      rfl
  | false =>
      cases place with
      | frameLocal | field | staticField | element => cases target
      | internal name =>
          obtain ⟨held, found, rfl⟩ := stays
          exact (readVariable_of_internal found course).2.1

/-! ### The inquiry -/

/-- The operator at work on a variable and an operand. -/
def mixed (scope : Scope) (op : BinaryOp) (entry : StackEntry) (place : Variable) : Evaluation Value := do
  let operand ← valueOf scope entry
  let current ← readVariable scope place
  binary scope op current operand

/-- The result in a kind. -/
def computed (scope : Scope) (op : BinaryOp) (kind : Kind) (entry : StackEntry) (place : Variable) :
    Evaluation Value := do
  compute (convertTo (← mixed scope op entry place) kind)

theorem mixed_inquires (scope : Scope) (op : BinaryOp) (entry : StackEntry) (place : Variable) :
    Inquires (mixed scope op entry place) :=
  (valueOf_inquires scope entry).bind fun operand => (readVariable_inquires scope place).bind
    fun current => binary_inquires scope op current operand

theorem computed_inquires (scope : Scope) (op : BinaryOp) (kind : Kind) (entry : StackEntry)
    (place : Variable) : Inquires (computed scope op kind entry place) :=
  (mixed_inquires scope op entry place).bind fun _ => .compute _

/-- A compound assignment to a primitive converts to the kind of the primitive. -/
theorem altered_course {r : Except Fault Value} (primitive : current.isPrimitive = true) {operand : Value}
    (finds : ∀ looked later found n v, Course (readVariable scope place) m s looked found n v →
      passed = looked ++ later → found = .ok current)
    (course : Course (altered scope op place operand) m s passed r m' t) :
    Course (do
      let found ← readVariable scope place
      compute (convertTo (← binary scope op found operand) current.kind)) m s passed r m' t := by
  rcases bind_iff.mp course with ⟨fault, fails, -⟩ | ⟨found, n, u, looked, later, reads, goes, rfl⟩
  · cases finds passed [] _ _ _ fails (List.append_nil _).symm
  cases finds looked later _ _ _ reads rfl
  simp only [adapted, if_pos primitive] at goes
  exact bind_iff.mpr (.inr ⟨current, n, u, looked, later, reads, goes, rfl⟩)

/-- What is popped first has a value, or it has none. -/
theorem popValue_bind {α : Type} {f : Value → Evaluation α} {r : Except Fault α}
    (stack : m.stack = entry :: rest) (course : Course (popValue scope >>= f) m s passed r m' t) :
    (∃ fault, Course (valueOf scope entry) m s passed (.error fault) m t ∧ r = .error fault ∧
      m'.internals = m.internals) ∨
    ∃ value u first second, Course (valueOf scope entry) m s first (.ok value) m u ∧
      Course (f value) { m with stack := rest } u second r m' t ∧ passed = first ++ second := by
  have values {r : Except Fault Value} {n : Machine} {u : Bool} {first : List (Exchange Bool)}
      (course : Course (popValue scope) m s first r n u) :
      n = { m with stack := rest } ∧ Course (valueOf scope entry) m s first r m u := by
    rcases popValue_course course with ⟨empty, -⟩ | ⟨_, _, stack', rfl, reads⟩
    · rw [stack] at empty
      cases empty
    · rw [stack] at stack'
      cases stack'
      obtain ⟨-, -, moves⟩ := valueOf_inquires scope entry _ _ _ _ _ _ reads
      exact ⟨rfl, moves m rfl⟩
  rcases bind_iff.mp course with ⟨fault, fails, rfl⟩ | ⟨value, n, u, first, second, pops, goes, rfl⟩
  · obtain ⟨rfl, reads⟩ := values fails
    exact .inl ⟨fault, reads, rfl, rfl⟩
  · obtain ⟨rfl, reads⟩ := values pops
    exact .inr ⟨value, u, first, second, reads, goes, rfl⟩

/-- The course of an assignment whose operands are on the stack. -/
theorem making_course {instruction : Instruction} {make : Variable → Value → Evaluation Value}
    (makes : making? scope instruction = some make) (stack : m.stack = entry :: .place place :: rest)
    {r : Except Fault Flow} (course : Course (execute scope instruction) m s passed r m' t) :
    (∃ fault, Course (valueOf scope entry) m s passed (.error fault) m t ∧ r = .error fault ∧
      m'.internals = m.internals) ∨
    ∃ value u first second, Course (valueOf scope entry) m s first (.ok value) m u ∧
      Course (do store scope place (← make place value); return Flow.next) { m with stack := rest } u
        second r m' t ∧ passed = first ++ second := by
  rw [execute_of_making makes] at course
  simp only [writes, operands, bind_assoc, pure_bind] at course
  rcases popValue_bind stack course with fails | ⟨value, u, first, second, reads, goes, rfl⟩
  · exact .inl fails
  · exact .inr ⟨value, u, first, second, reads, goes, rfl⟩

/-- A compound assignment computes, and then it stores. -/
theorem compoundAssign_computes (primitive : current.isPrimitive = true)
    (stack : m.stack = entry :: .place place :: rest)
    (stays : Stays facade scope prior passed m current place) (meets : Meets facade clears prior passed)
    {r : Except Fault Flow} (course : Course (execute scope (.compoundAssign op)) m s passed r m' t) :
    (∃ fault, Course (computed scope op current.kind entry place) m s passed (.error fault) m t ∧
      r = .error fault ∧ m'.internals = m.internals) ∨
    ∃ kept u first second, Course (computed scope op current.kind entry place) m s first (.ok kept) m u ∧
      Course (do store scope place kept; return Flow.next) { m with stack := rest } u second r m' t ∧
      passed = first ++ second := by
  simp only [computed, mixed, bind_assoc]
  have makes : making? scope (.compoundAssign op) = some (altered scope op) := rfl
  rcases making_course makes stack course with
    ⟨fault, fails, rfl, same⟩ | ⟨operand, u, first, second, values, goes, rfl⟩
  · exact .inl ⟨fault, bind_iff.mpr (.inl ⟨fault, fails, rfl⟩), rfl, same⟩
  obtain ⟨-, quiet, -⟩ := valueOf_inquires scope entry _ _ _ _ _ _ values
  -- The value that the variable is found to have is the one that it has.
  have alters {made ended : List (Exchange Bool)} {x : Except Fault Value} {v : Bool}
      (split : second = made ++ ended)
      (course : Course (altered scope op place operand) { m with stack := rest } u made x
        { m with stack := rest } v) :
      Course (do
        let found ← readVariable scope place
        compute (convertTo (← binary scope op found operand) current.kind)) m u made x m v := by
    obtain ⟨-, -, moves⟩ := altered_inquires scope op place operand _ _ _ _ _ _ course
    refine altered_course primitive (fun looked later found n v reads parts => ?_) (moves m rfl)
    subst split parts
    rw [List.append_assoc] at stays meets
    exact stays.reads quiet meets reads
  rcases (altered_inquires scope op place operand).bind_iff.mp goes with
    ⟨fault, fails, rfl, rfl⟩ | ⟨kept, v, made, ended, alteration, stores, rfl⟩
  · have whole := alters (List.append_nil _).symm fails
    exact .inl ⟨fault, bind_iff.mpr (.inr ⟨operand, m, u, first, second, values, whole, rfl⟩), rfl, rfl⟩
  · have whole := alters rfl alteration
    refine .inr ⟨kept, v, first ++ made, ended, ?_, stores, (List.append_assoc ..).symm⟩
    exact bind_iff.mpr (.inr ⟨operand, m, u, first, made, values, whole, rfl⟩)

/-- A binary operator on a variable and an operand. -/
theorem binary_course (stack : m.stack = entry :: .place place :: rest) {r : Except Fault Flow}
    (course : Course (execute scope (.binary op)) m s passed r m' t) :
    (∃ fault, Course (mixed scope op entry place) m s passed (.error fault) m t ∧ r = .error fault ∧
      m'.internals = m.internals) ∨
    ∃ result, Course (mixed scope op entry place) m s passed (.ok result) m t ∧ r = .ok .next ∧
      m' = { m with stack := .value result :: rest } := by
  rcases popValue_bind stack course with
    ⟨fault, fails, rfl, same⟩ | ⟨operand, u, first, second, values, goes, rfl⟩
  · exact .inl ⟨fault, bind_iff.mpr (.inl ⟨fault, fails, rfl⟩), rfl, same⟩
  rcases popValue_bind (m := { m with stack := .place place :: rest }) rfl goes with
    ⟨fault, fails, rfl, same⟩ | ⟨found, v, looked, later, reads, combines, rfl⟩
  · obtain ⟨-, -, moves⟩ := readVariable_inquires scope place _ _ _ _ _ _ fails
    have reading : Course (mixed scope op entry place) m s (first ++ second) (.error fault) m t :=
      bind_iff.mpr (.inr ⟨operand, m, u, first, second, values,
        bind_iff.mpr (.inl ⟨fault, moves m rfl, rfl⟩), rfl⟩)
    exact .inl ⟨fault, reading, rfl, same⟩
  obtain ⟨-, -, moves⟩ := readVariable_inquires scope place _ _ _ _ _ _ reads
  have mixes {x : Except Fault Value} {made : List (Exchange Bool)} {w : Bool}
      (course : Course (binary scope op found operand) m v made x m w) :
      Course (mixed scope op entry place) m s (first ++ (looked ++ made)) x m w :=
    bind_iff.mpr (.inr ⟨operand, m, u, first, looked ++ made, values,
      bind_iff.mpr (.inr ⟨found, m, v, looked, made, moves m rfl, course, rfl⟩), rfl⟩)
  have inquires := binary_inquires scope op found operand
  rcases inquires.bind_iff.mp combines with
    ⟨fault, fails, rfl, rfl⟩ | ⟨result, w, made, ended, combination, pushes, rfl⟩
  · exact .inl ⟨fault, mixes ((inquires _ _ _ _ _ _ fails).2.2 m rfl), rfl, rfl⟩
  · have pushed : Course (pure Flow.next) { m with stack := .value result :: rest } w ended r m' t := pushes
    obtain ⟨rfl, rfl, rfl, rfl⟩ := pure_iff.mp pushed
    rw [List.append_nil]
    exact .inr ⟨result, mixes ((inquires _ _ _ _ _ _ combination).2.2 m rfl), rfl, rfl⟩

/-- A cast by the name of a primitive kind is a conversion. -/
theorem cast_of_primitive (primitive : current.isPrimitive = true) (value : Value) :
    cast scope value current.kind.name = compute (convertTo value current.kind) := by
  cases current <;> first | rfl | cases primitive

theorem cast_course (primitive : current.isPrimitive = true) (stack : m.stack = .value value :: rest)
    {r : Except Fault Flow} (course : Course (execute scope (.cast current.kind.name)) m s passed r m' t) :
    passed = [] ∧ t = s ∧
      ((∃ fault, convertTo value current.kind = .error fault ∧ r = .error fault ∧
        m'.internals = m.internals) ∨
      ∃ kept, convertTo value current.kind = .ok kept ∧ r = .ok .next ∧
        m' = { m with stack := .value kept :: rest }) := by
  rcases popValue_bind stack course with
    ⟨fault, fails, -⟩ | ⟨_, u, first, second, values, goes, rfl⟩
  · cases (pure_iff.mp fails).2.1
  obtain ⟨rfl, same, -, rfl⟩ := pure_iff.mp values
  cases same
  rw [cast_of_primitive primitive] at goes
  rcases bind_iff.mp goes with ⟨fault, fails, rfl⟩ | ⟨kept, n, v, first, second, converts, pushes, rfl⟩
  · obtain ⟨rfl, same, rfl, rfl⟩ := compute_iff.mp fails
    exact ⟨rfl, rfl, .inl ⟨fault, same.symm, rfl, rfl⟩⟩
  · obtain ⟨rfl, same, rfl, rfl⟩ := compute_iff.mp converts
    have pushed : Course (pure Flow.next) { m with stack := .value kept :: rest } v second r m' t := pushes
    obtain ⟨rfl, rfl, rfl, rfl⟩ := pure_iff.mp pushed
    exact ⟨rfl, rfl, .inr ⟨kept, same.symm, rfl, rfl⟩⟩

/-- The long way: an operator, a cast and an assignment. -/
def castAndAssign (scope : Scope) (op : BinaryOp) (kind : Kind) : Evaluation Flow := do
  let _ ← execute scope (.binary op)
  let _ ← execute scope (.cast kind.name)
  execute scope .assign

/-- The long way computes the same, and then it assigns. -/
theorem castAndAssign_computes (primitive : current.isPrimitive = true)
    (stack : m.stack = entry :: .place place :: .place place :: rest) {r : Except Fault Flow}
    (course : Course (castAndAssign scope op current.kind) m s passed r m' t) :
    (∃ fault, Course (computed scope op current.kind entry place) m s passed (.error fault) m t ∧
      r = .error fault ∧ m'.internals = m.internals) ∨
    ∃ kept u first second, Course (computed scope op current.kind entry place) m s first (.ok kept) m u ∧
      Course (do store scope place (← assigned scope place kept); return Flow.next)
        { m with stack := rest } u second r m' t ∧
      passed = first ++ second := by
  rcases bind_iff.mp course with ⟨fault, fails, rfl⟩ | ⟨_, n, u, first, second, combines, goes, rfl⟩
  · rcases binary_course stack fails with ⟨_, mixes, same, kept⟩ | ⟨_, -, impossible, -⟩
    · cases same
      exact .inl ⟨fault, bind_iff.mpr (.inl ⟨fault, mixes, rfl⟩), rfl, kept⟩
    · cases impossible
  rcases binary_course stack combines with ⟨_, -, impossible, -⟩ | ⟨result, mixes, -, rfl⟩
  · cases impossible
  have computes {x : Except Fault Value} (converts : convertTo result current.kind = x) :
      Course (computed scope op current.kind entry place) m s first x m u := by
    refine bind_iff.mpr (.inr ⟨result, m, u, first, [], mixes, ?_, (List.append_nil _).symm⟩)
    exact compute_iff.mpr ⟨rfl, converts.symm, rfl, rfl⟩
  rcases bind_iff.mp goes with ⟨fault, fails, rfl⟩ | ⟨_, n, v, looked, later, casts, assigns, rfl⟩
  · obtain ⟨rfl, rfl, ⟨_, converts, same, kept⟩ | ⟨_, -, impossible, -⟩⟩ := cast_course primitive rfl fails
    · cases same
      rw [List.append_nil]
      exact .inl ⟨fault, computes converts, rfl, kept⟩
    · cases impossible
  obtain ⟨rfl, rfl, ⟨_, -, impossible, -⟩ | ⟨kept, converts, -, rfl⟩⟩ := cast_course primitive rfl casts
  · cases impossible
  have makes : making? scope .assign = some (assigned scope) := rfl
  rcases making_course makes rfl assigns with ⟨_, fails, -⟩ | ⟨_, w, none, ended, values, stores, rfl⟩
  · cases (pure_iff.mp fails).2.1
  obtain ⟨rfl, same, -, rfl⟩ := pure_iff.mp values
  cases same
  exact .inr ⟨kept, _, first, ended, computes converts, stores, rfl⟩

/-! ### The two ways side by side -/

/-- Two courses from a machine come to the same: a value is written to the variable and pushed, or nothing is
written, or the target refuses what it is to write. -/
inductive SameOutcome (scope : Scope) (place : Variable) (rest : List StackEntry) (m : Machine) :
    List (Exchange Bool) → Except Fault Flow → Machine → Bool →
      List (Exchange Bool) → Except Fault Flow → Machine → Bool → Prop where
  | stores {value : Value} {passed passed' : List (Exchange Bool)} {n : Machine} {t t' : Bool} :
      n.stack = .value value :: rest → Writes scope place value m passed n t →
      Writes scope place value m passed' n t' →
      SameOutcome scope place rest m passed (.ok .next) n t passed' (.ok .next) n t'
  | fails {fault : Fault} {passed passed' : List (Exchange Bool)} {n n' : Machine} {t t' : Bool} :
      n.internals = m.internals → n'.internals = m.internals → Writeless passed → Writeless passed' →
      SameOutcome scope place rest m passed (.error fault) n t passed' (.error fault) n' t'
  | refused {value : Value} {failure : RemoteFailure} {before before' : List (Exchange Bool)}
      {n n' : Machine} {u u' t t' : Bool} : place.inTarget = true → n.internals = m.internals →
      n'.internals = m.internals → Writeless before → Writeless before' →
      SameOutcome scope place rest m
        (before ++ place.writing scope value u (.error failure) t) (.error (.remote failure)) n t
        (before' ++ place.writing scope value u' (.error failure) t') (.error (.remote failure)) n' t'

theorem SameOutcome.stored {passed' : List (Exchange Bool)} {r r' : Except Fault Flow} {n : Machine}
    {t' : Bool} {flow : Flow} (same : SameOutcome scope place rest m passed r m' t passed' r' n t')
    (succeeds : r = .ok flow) : ∃ value, m'.stack = .value value :: rest ∧
      Writes scope place value m passed m' t ∧ Writes scope place value m passed' m' t' ∧
      r' = .ok .next ∧ n = m' := by
  cases same with
  | stores pushed writes writes' => exact ⟨_, pushed, writes, writes', rfl, rfl⟩
  | fails => cases succeeds
  | refused => cases succeeds

/-- The variable is of a reference type and has a primitive. The compound assignment succeeds, the long way
refuses the result and writes nothing. -/
structure Misses (place : Variable) (m : Machine) (current : Value) (r : Except Fault Flow)
    (passed' : List (Exchange Bool)) (r' : Except Fault Flow) (n : Machine) : Prop where
  reference : ∃ name held, place = .internal name ∧ m.internals.get? name = some held ∧ held.kind = .object
  succeeds : r = .ok .next
  refuses : r' = .error (.invalidCast current.kind Kind.object.name)
  kept : n.internals = m.internals
  writeless : Writeless passed'

variable {kept : Value} {r : Except Fault Flow}

/-- In the target the variable is read once more, and the value is already of its kind. -/
theorem assigned_again (target : place.inTarget = true) (primitive : current.isPrimitive = true)
    (same : kept.kind = current.kind)
    (finds : ∀ reply v later, passed = place.reading scope s reply v ++ later → reply = .ok current)
    (course : Course (do store scope place (← assigned scope place kept); return Flow.next) m s passed r
      m' t) :
    ∃ v later, passed = place.reading scope s (.ok current) v ++ later ∧
      Course (do store scope place kept; return Flow.next) m v later r m' t := by
  have primitive' := Value.isPrimitive_of_kind same primitive
  have converted := convertTo_self primitive'
  rw [same] at converted
  rw [assigned_of_inTarget target, if_pos primitive'] at course
  simp only [bind_assoc] at course
  rcases bind_iff.mp course with ⟨fault, fails, rfl⟩ | ⟨found, n, v, looked, later, reads, goes, rfl⟩
  · obtain ⟨reply, rfl, impossible, -⟩ := (readVariable_iff target).mp fails
    cases finds reply t [] (List.append_nil _).symm
    cases impossible
  · obtain ⟨reply, rfl, same, rfl⟩ := (readVariable_iff target).mp reads
    cases finds reply v later rfl
    cases same
    simp only [adapted, if_pos primitive, converted, compute, pure_bind] at goes
    exact ⟨v, later, rfl, goes⟩

/-- A declared primitive takes a value of its kind as it is. -/
theorem assigned_of_declared {name : String} {held : InternalVariable}
    (found : m.internals.get? name = some held) (suits : held.Suits (.primitive kind))
    (same : kept.kind = held.value.kind)
    (course : Course (do store scope (.internal name) (← assigned scope (.internal name) kept)
                         return Flow.next) m s passed r m' t) :
    Course (do store scope (.internal name) kept; return Flow.next) m s passed r m' t := by
  have converted := convertTo_self (Value.isPrimitive_of_kind same suits.2.2.2)
  rw [same, suits.2.2.1] at converted
  rcases bind_iff.mp course with ⟨fault, fails, rfl⟩ | ⟨stored, n, v, first, later, converts, goes, rfl⟩
  · have impossible := (assigned_of_primitive found suits fails).2.1
    rw [converted] at impossible
    cases impossible
  · obtain ⟨rfl, stays, rfl, rfl⟩ := assigned_of_primitive found suits converts
    rw [converted] at stays
    cases stays
    exact goes

theorem kind_of_computed (course : Course (computed scope op kind entry place) m s passed (.ok kept) m' t) :
    kept.kind = kind := by
  rcases bind_iff.mp course with ⟨_, -, impossible⟩ | ⟨result, n, u, first, later, -, converts, -⟩
  · cases impossible
  · obtain ⟨-, converted, -, -⟩ := compute_iff.mp converts
    exact Value.kind_of_convert (eq_some_of_elim_ok converted.symm)

theorem stores_course (course : Course (do store scope place kept; return Flow.next) m s passed r m' t) :
    ∃ ended, Puts scope place kept m s passed ended m' t ∧ r = ended.map fun _ => .next := by
  obtain ⟨found, stores, rfl⟩ := next_course course
  exact ⟨found, store_puts stores, rfl⟩

/-- What is stored in an internal variable is there and on the stack. -/
theorem stores_internal {name : String} {held : InternalVariable}
    (found : m.internals.get? name = some held)
    (course : Course (do store scope (.internal name) kept; return Flow.next) m s passed r m' t) :
    ∃ internals, m.internals.set name kept = .ok internals ∧ passed = [] ∧ r = .ok .next ∧
      m' = { m with stack := .value kept :: m.stack, internals } := by
  obtain ⟨ended, puts, rfl⟩ := stores_course course
  cases puts with
  | internal same stored =>
      cases same
      exact ⟨_, stored, rfl, rfl, rfl⟩
  | unknown same failed =>
      cases same
      rw [Internals.get?_of_set_error failed] at found
      cases found
  | target target | refused target => cases target

section Ends

variable {first second second' : List (Exchange Bool)} {r' : Except Fault Flow} {n : Machine} {t' : Bool}

/-- In the target the same value is written, after the same inquiry and one more look. -/
theorem target_alike (target : place.inTarget = true) (primitive : current.isPrimitive = true)
    (same : kept.kind = current.kind) (harmless : facade.Harmless scope) (quiet : Writeless first)
    (reports : facade.report? scope (prior ++ outward first) place = some (.ok current))
    (stores : Course (do store scope place kept; return Flow.next) { m with stack := rest } u second r m' t)
    (meets : Meets facade clears prior (first ++ second))
    (assigns : Course (do store scope place (← assigned scope place kept); return Flow.next)
      { m with stack := rest } u second' r' n t')
    (meets' : Meets facade clears prior (first ++ second')) :
    SameOutcome scope place rest m (first ++ second) r m' t (first ++ second') r' n t' := by
  obtain ⟨v, later, rfl, stores'⟩ := assigned_again target primitive same
    (fun reply v later split => by subst split; exact reply_of_report target reports meets') assigns
  obtain ⟨ended, puts, rfl⟩ := stores_course stores
  obtain ⟨ended', puts', rfl⟩ := stores_course stores'
  have alike (request : Request) :
      facade (prior ++ outward first ++ outward (place.reading scope u (.ok current) v)) request =
        facade (prior ++ outward first) request := by
    have unmoved := harmless (prior ++ outward first) place (.ok current) [] request
    rwa [List.append_nil, List.append_nil, ← outward_reading] at unmoved
  have looked : Writeless (first ++ place.reading scope u (.ok current) v) :=
    quiet.append Variable.reading_writeless
  have writing := (Meets.append_iff.mp meets).2
  have writing' := (Meets.append_iff.mp (Meets.append_iff.mp meets').2).2
  rw [← List.append_assoc]
  cases puts with
  | internal internal | unknown internal =>
      subst internal
      cases target
  | target =>
      cases puts' with
      | internal internal | unknown internal =>
          subst internal
          cases target
      | target => exact .stores (by rfl) (.target target quiet (by rfl)) (.target target looked (by rfl))
      | refused => cases reply_of_writing target alike writing writing'
  | refused =>
      cases puts' with
      | internal internal | unknown internal =>
          subst internal
          cases target
      | target => cases reply_of_writing target alike writing writing'
      | refused =>
          cases reply_of_writing target alike writing writing'
          exact .refused target (by rfl) (by rfl) quiet looked

/-- An internal variable takes the same value, unless it is of a reference type. -/
theorem internal_alike {name : String} {held : InternalVariable}
    (found : m.internals.get? name = some held) (primitive : held.value.isPrimitive = true)
    (same : kept.kind = held.value.kind) (declared : m.internals.Declared) (quiet : Writeless first)
    (stores : Course (do store scope (.internal name) kept; return Flow.next) { m with stack := rest } u
      second r m' t)
    (assigns : Course (do store scope (.internal name) (← assigned scope (.internal name) kept)
                          return Flow.next) { m with stack := rest } u second' r' n t') :
    SameOutcome scope (.internal name) rest m (first ++ second) r m' t (first ++ second') r' n t' ∨
      Misses (.internal name) m held.value r (first ++ second') r' n := by
  have foundThen : ({ m with stack := rest } : Machine).internals.get? name = some held := found
  obtain ⟨internals, stored, rfl, rfl, rfl⟩ := stores_internal foundThen stores
  have writes (t : Bool) : Writes scope (.internal name) kept m (first ++ [])
      { m with stack := .value kept :: rest, internals } t :=
    .internal rfl (quiet.append .nil) stored
  obtain ⟨type, suits⟩ := declared name held found
  cases type with
  | primitive kind =>
      have assigned := assigned_of_declared foundThen suits same assigns
      obtain ⟨internals', stored', rfl, rfl, rfl⟩ := stores_internal foundThen assigned
      cases stored.symm.trans stored'
      exact .inl (.stores (by rfl) (writes t) (writes t'))
  | reference type =>
      have primitive' := Value.isPrimitive_of_kind same primitive
      rcases (assigned_inquires scope (.internal name) kept).bind_iff.mp assigns with
        ⟨fault, fails, rfl, rfl⟩ | ⟨_, v, refusal, later, goes, -, -⟩
      · obtain ⟨rfl, refused⟩ := assigned_of_reference foundThen suits.1 fails
        rw [if_pos primitive', same, suits.1] at refused
        cases refused
        exact .inr ⟨⟨name, held, rfl, found, suits.1⟩, rfl, rfl, rfl, quiet.append .nil⟩
      · have impossible := (assigned_of_reference foundThen suits.1 goes).2
        rw [if_pos primitive'] at impossible
        cases impossible

end Ends

/-- Whatever the operator and the operand are, the two ways come to the same, or the long way misses the
variable. -/
theorem same_or_misses (primitive : current.isPrimitive = true) (declared : m.internals.Declared)
    (harmless : facade.Harmless scope) (stack : m.stack = entry :: .place place :: rest)
    (course : Course (execute scope (.compoundAssign op)) m s passed r m' t)
    (meets : Meets facade clears prior passed)
    (stays : Stays facade scope prior passed m current place) {passed' : List (Exchange Bool)}
    {r' : Except Fault Flow} {n : Machine} {t' : Bool}
    (course' : Course (castAndAssign scope op current.kind)
      { m with stack := entry :: .place place :: .place place :: rest } s passed' r' n t')
    (meets' : Meets facade clears prior passed') :
    SameOutcome scope place rest m passed r m' t passed' r' n t' ∨
      Misses place m current r passed' r' n := by
  have inquires := computed_inquires scope op current.kind entry place
  rcases compoundAssign_computes primitive stack stays meets course with
    ⟨fault, fails, rfl, kept⟩ | ⟨kept, u, first, second, computes, stores, rfl⟩
  · rcases castAndAssign_computes primitive rfl course' with
      ⟨_, fails', rfl, kept'⟩ | ⟨_, _, _, _, computes', -, rfl⟩
    · obtain ⟨-, quiet, moves⟩ := inquires _ _ _ _ _ _ fails'
      obtain ⟨rfl, same⟩ := Dialogue.Course.settled fails (moves m rfl) meets meets'
      cases same
      exact .inl (.fails kept kept' quiet quiet)
    · obtain ⟨-, -, moves⟩ := inquires _ _ _ _ _ _ computes'
      cases (Dialogue.Course.settled fails (moves m rfl) meets (Meets.append_iff.mp meets').1).2
  · have begins := (Meets.append_iff.mp meets).1
    rcases castAndAssign_computes primitive rfl course' with
      ⟨_, fails', -, -⟩ | ⟨_, _, _, second', computes', assigns, rfl⟩
    · obtain ⟨-, -, moves⟩ := inquires _ _ _ _ _ _ fails'
      cases (Dialogue.Course.settled computes (moves m rfl) begins meets').2
    · obtain ⟨-, quiet, moves⟩ := inquires _ _ _ _ _ _ computes'
      obtain ⟨rfl, same⟩ :=
        Dialogue.Course.settled computes (moves m rfl) begins (Meets.append_iff.mp meets').1
      cases same
      have kind := kind_of_computed computes
      cases target : place.inTarget with
      | true =>
          have reports := stays.report target (List.prefix_append _ _) quiet
          exact .inl (target_alike target primitive kind harmless quiet reports stores meets assigns meets')
      | false =>
          cases place with
          | frameLocal | field | staticField | element => cases target
          | internal name =>
              obtain ⟨held, found, rfl⟩ := stays
              exact internal_alike found primitive kind declared quiet stores assigns

end Evaluation

/-! ### Runs -/

namespace Interpreter

variable {interpreter : Interpreter} {between : Bool → Bool → Prop} {fuel : Nat} {frame : Frame}
  {walked : List (Exchange Bool)} {outcome : Outcome} {left : Interpreter}
  {earlier later : List (Step ⟨frame, interpreter.settings⟩ interpreter.program)}
  {step : Step ⟨frame, interpreter.settings⟩ interpreter.program}

/-- Before every step of a run the internal variables are as they were declared. -/
theorem Ran.declared
    (ran : interpreter.Ran between fuel frame (earlier ++ step :: later) walked outcome left) :
    step.before.internals.Declared := by
  intro name held found
  obtain ⟨-, -, -, declared, -, suits⟩ := ran.asDeclared.declaredBy.known name held found
  exact ⟨declared, suits⟩

/-- With the internal variables of any run, for every operator, variable, operand and stack, and whatever a
target replies, a compound assignment to a primitive comes to the same as a binary operator, a cast and an
assignment, unless the variable is of a reference type. -/
theorem compound_is_cast_and_assign
    (ran : interpreter.Ran between fuel frame (earlier ++ step :: later) walked outcome left)
    (facade : Facade) (clears : Nat → Bool) (prior : List (Exchange Unit)) (op : BinaryOp)
    (place : Variable) (current : Value) (entry : StackEntry) (rest : List StackEntry) (m : Machine)
    (s : Bool) (shared : m.internals = step.before.internals) (primitive : current.isPrimitive = true)
    (harmless : facade.Harmless ⟨frame, interpreter.settings⟩)
    (stack : m.stack = entry :: .place place :: rest) :
    ∀ passed r m' t,
      (Evaluation.execute ⟨frame, interpreter.settings⟩ (.compoundAssign op)).Course m s passed r m' t →
      Meets facade clears prior passed →
      Evaluation.Stays facade ⟨frame, interpreter.settings⟩ prior passed m current place →
      (∃ passed' r' n t',
        (Evaluation.castAndAssign ⟨frame, interpreter.settings⟩ op current.kind).Course
          { m with stack := entry :: .place place :: .place place :: rest } s passed' r' n t' ∧
          Meets facade clears prior passed') ∧
      ∀ passed' r' n t',
        (Evaluation.castAndAssign ⟨frame, interpreter.settings⟩ op current.kind).Course
          { m with stack := entry :: .place place :: .place place :: rest } s passed' r' n t' →
        Meets facade clears prior passed' →
        Evaluation.SameOutcome ⟨frame, interpreter.settings⟩ place rest m passed r m' t passed' r' n t' ∨
          Evaluation.Misses place m current r passed' r' n := by
  intro passed r m' t course meets stays
  have declared : m.internals.Declared := by
    rw [shared]
    exact ran.declared
  constructor
  · have exists_meets (x : Evaluation Flow) (m : Machine) :
        ∃ passed r n t, x.Course m s passed r n t ∧ Meets facade clears prior passed := by
      obtain ⟨passed, ⟨⟨r, n⟩, t⟩, goes, replies⟩ := Dialogue.exists_meets (x.run.run m s) prior
      exact ⟨passed, r, n, t, goes, replies⟩
    exact exists_meets _ _
  · intro passed' r' n t' course' meets'
    exact Evaluation.same_or_misses primitive declared harmless stack course meets stays course' meets'

end Interpreter

namespace Shorthand.Sample

def scope : Scope := ⟨⟨⟨1⟩, 0⟩, {}⟩

/-- A target in which a local variable is the `int` five. -/
def answers : (c : Call) → Except RemoteFailure c.Answer
  | .localValue .. => .ok (.int 5)
  | .setLocalValue .. => .ok ()
  | _ => .error .disconnected

def facade : Facade := fun _ request => (answering answers request true).1

/-- A program has left a boolean in a variable of a reference type. -/
def strayed : Internals := Reference.Sample.resting.before.internals

/-- A `long` is about to be added to the local variable. -/
def adding : Machine where
  stack := [.value (.long 7), .place (.frameLocal "x")]
  internals := strayed

def added : Machine where
  stack := [.value (.int 12)]
  internals := strayed

def reading : Exchange Bool :=
  .asked (.call (.localValue ⟨1⟩ 0 "x")) true (.ok (.int 5)) true

def writing : Exchange Bool :=
  .asked (.call (.setLocalValue ⟨1⟩ 0 "x" (.int 12))) true (.ok ()) true

theorem adds : (Evaluation.execute scope (.compoundAssign .add)).Course adding true [reading, writing]
    (.ok .next) added true :=
  Dialogue.course_follow (answering answers)
    ((Evaluation.execute scope (.compoundAssign .add)).run.run adding true)

/-- The long way reads the variable twice. -/
theorem adds_long : (Evaluation.castAndAssign scope .add .int).Course
    { adding with stack := [.value (.long 7), .place (.frameLocal "x"), .place (.frameLocal "x")] } true
    [reading, reading, writing] (.ok .next) added true :=
  Dialogue.course_follow (answering answers) ((Evaluation.castAndAssign scope .add .int).run.run
    { adding with stack := [.value (.long 7), .place (.frameLocal "x"), .place (.frameLocal "x")] } true)

/-- The boolean is about to be combined. -/
def straying : Machine where
  stack := [.value (.boolean true), .place (.internal "r")]
  internals := strayed

theorem combines : (Evaluation.execute scope (.compoundAssign .and)).Course straying true [] (.ok .next)
    { straying with stack := [.value (.boolean true)] } true :=
  Dialogue.course_follow (answering answers)
    ((Evaluation.execute scope (.compoundAssign .and)).run.run straying true)

theorem refuses : (Evaluation.castAndAssign scope .and .boolean).Course
    { straying with stack := [.value (.boolean true), .place (.internal "r"), .place (.internal "r")] } true
    [] (.error (.invalidCast .boolean "object")) { straying with stack := [] } true :=
  Dialogue.course_follow (answering answers) ((Evaluation.castAndAssign scope .and .boolean).run.run
    { straying with stack := [.value (.boolean true), .place (.internal "r"), .place (.internal "r")] } true)

end Shorthand.Sample

open Shorthand.Sample in
theorem Interpreter.compound_is_cast_and_assign_adding :
    ∃ value, Evaluation.Writes scope (.frameLocal "x") value adding [reading, writing] added true ∧
      Evaluation.Writes scope (.frameLocal "x") value adding [reading, reading, writing] added true := by
  have meets : Meets facade undisturbed [] [reading, writing] := ⟨⟨rfl, rfl⟩, ⟨rfl, rfl⟩, trivial⟩
  have meets' : Meets facade undisturbed [] [reading, reading, writing] :=
    ⟨⟨rfl, rfl⟩, ⟨rfl, rfl⟩, ⟨rfl, rfl⟩, trivial⟩
  obtain ⟨_, _, _, -, ran⟩ := Reference.Sample.ran
  obtain ⟨-, alike⟩ := compound_is_cast_and_assign ran facade undisturbed [] .add (.frameLocal "x")
    (.int 5) (.value (.long 7)) [] adding true rfl rfl (fun _ _ _ _ _ => rfl) rfl _ _ _ _ adds meets
    fun _ _ _ => rfl
  rcases alike _ _ _ _ adds_long meets' with same | misses
  · obtain ⟨value, -, writes, writes', -⟩ := same.stored rfl
    exact ⟨value, writes, writes'⟩
  · obtain ⟨_, _, impossible, -⟩ := misses.reference
    cases impossible

open Shorthand.Sample in
/-- A boolean that has strayed into a variable of a reference type is combined, but not assigned. -/
theorem Interpreter.shorthand_lost :
    ¬ ∀ (interpreter : Interpreter) fuel (target : Target) frame passed outcome left earlier
      (step : Step ⟨frame, interpreter.settings⟩ interpreter.program) later,
      target.isTerminated = false → (interpreter.run fuel target frame).Course passed (outcome, left) →
      interpreter.Ran Eq fuel frame (earlier ++ step :: later) passed outcome left →
      ∀ (facade : Facade) clears prior op place current entry rest (m : Machine) s,
        m.internals = step.before.internals → current.isPrimitive = true →
        facade.Harmless ⟨frame, interpreter.settings⟩ → m.stack = entry :: .place place :: rest →
        ∀ passed r m' t,
          (Evaluation.execute ⟨frame, interpreter.settings⟩ (.compoundAssign op)).Course m s passed r m' t →
          Meets facade clears prior passed →
          Evaluation.Stays facade ⟨frame, interpreter.settings⟩ prior passed m current place →
          ∀ passed' r' n t',
            (Evaluation.castAndAssign ⟨frame, interpreter.settings⟩ op current.kind).Course
              { m with stack := entry :: .place place :: .place place :: rest } s passed' r' n t' →
            Meets facade clears prior passed' →
            Evaluation.SameOutcome ⟨frame, interpreter.settings⟩ place rest m passed r m' t passed' r' n
              t' := by
  intro alike
  obtain ⟨passed, outcome, left, course, ran⟩ := Reference.Sample.ran
  have same := alike _ _ _ _ _ _ _ _ _ _ rfl course ran facade undisturbed [] .and (.internal "r")
    (.boolean true) _ [] straying true rfl rfl (fun _ _ _ _ _ => rfl) rfl _ _ _ _ combines trivial
    ⟨_, rfl, rfl⟩ _ _ _ _ refuses trivial
  obtain ⟨-, -, -, -, impossible, -⟩ := same.stored rfl
  cases impossible

end RemoteDebug
