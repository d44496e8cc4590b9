import RemoteDebug.Proofs.Inquiry
import RemoteDebug.Proofs.Reconciliation

/-!
Membership of a type: the checked cast and the test.

A cast to a reference type and the test for it ask the target the same questions: they resolve the name, and
then they want to know whether the type of the object can be assigned to what was found. The cast turns the
answer into the value or a fault, the test into a boolean. What goes wrong on the way is the fault of both, and
it is never the fault of a cast that is refused.

* `Evaluation.belongs` is the inquiry that both make (`cast_of_handle`, `instanceOf_of_handle`).
* `Evaluation.Verdict` lists how the two come out.
* `Evaluation.cast_agrees_with_instanceOf` compares the two instructions on a facade. They part ways on `null`,
  which is an instance of nothing and can be cast to any type there is.
-/

namespace RemoteDebug

theorem Resolution.Picks.cause {classObject : ObjectRef} {candidates : List TypeRef}
    {passed : List (Exchange Bool)} {fault : Fault}
    (picks : Picks classObject candidates passed (.error fault)) : ∃ failure, fault = .remote failure := by
  generalize same : (Except.error fault : Except Fault (Option TypeRef)) = r at picks
  induction picks with
  | exhausted | hit => cases same
  | failed =>
      cases same
      exact ⟨_, rfl⟩
  | skipped _ _ ih => exact ih same

/-- Names do not resolve for want of an answer or of a type. -/
theorem Resolution.cause_of_resolve {resolution : Resolution} {name : String} {s t : Bool}
    {passed : List (Exchange Bool)} {fault : Fault}
    (fails : (resolution.resolve name).run.Course s passed (.error fault) t) :
    (∃ failure, fault = .remote failure) ∨ ∃ missing, fault = .unresolvableType missing := by
  rcases resolve_iff.mp fails with ⟨_, loads, same⟩ | ⟨-, loaded, listed, later, -, ends⟩
  · cases same
    cases load_course loads with
    | ambiguous => exact .inr ⟨_, rfl⟩
    | unlisted | unnamed | failed => exact .inl ⟨_, rfl⟩
  cases listed with
  | error failure =>
      cases ends.2
      exact .inl ⟨_, rfl⟩
  | ok types =>
      cases ends with
      | absent | unguided | unmatched => exact .inr ⟨_, rfl⟩
      | unanswered several picks => exact .inl picks.cause

theorem Resolution.declared_of_reference {σ : Type} {resolution : Resolution} {name : String}
    (reference : Kind.ofPrimitiveName? name = none) :
    (resolution.declared name : Attempt σ DeclaredType) = return .reference (← resolution.resolve name) := by
  rw [declared, reference]

namespace Evaluation

variable {scope : Scope} {typeName : String}

/-- Whether the object of a handle is an instance of a named type. -/
def belongs (scope : Scope) (handle : ObjectRef) (typeName : String) : Evaluation Bool := do
  let type ← attempt (scope.resolution.resolve typeName)
  isInstance handle type

theorem belongs_inquires (scope : Scope) (handle : ObjectRef) (typeName : String) :
    Inquires (belongs scope handle typeName) :=
  (resolve_inquires scope typeName).bind fun _ => isInstance_inquires _ _

theorem instanceOf_of_handle {value : Value} {handle : ObjectRef} (refers : value.handle? = some handle) :
    instanceOf scope value typeName = belongs scope handle typeName := by
  cases value <;> cases refers <;> rfl

theorem cast_of_handle (reference : Kind.ofPrimitiveName? typeName = none) {value : Value}
    {handle : ObjectRef} (refers : value.handle? = some handle) :
    cast scope value typeName = (do
      if ← belongs scope handle typeName then return value
      else throw (.invalidCast value.kind typeName)) := by
  unfold cast belongs
  rw [Resolution.declared_of_reference reference, attempt_bind]
  simp only [bind_assoc]
  refine bind_congr fun type => ?_
  cases value <;> cases refers <;> rfl

theorem cast_null (reference : Kind.ofPrimitiveName? typeName = none) :
    cast scope .null typeName = (do
      let _ ← attempt (scope.resolution.resolve typeName)
      return .null) := by
  unfold cast
  rw [Resolution.declared_of_reference reference, attempt_bind]
  simp only [bind_assoc]
  rfl

/-- The inquiry fails for reasons of its own. -/
theorem ne_invalidCast_of_belongs {handle : ObjectRef} {m m' : Machine} {s t : Bool}
    {passed : List (Exchange Bool)} {fault : Fault}
    (fails : Course (belongs scope handle typeName) m s passed (.error fault) m' t) (source : Kind)
    (target : String) : fault ≠ .invalidCast source target := by
  rcases bind_iff.mp fails with ⟨_, resolves, same⟩ | ⟨type, _, _, _, _, -, asks, -⟩
  · cases same
    rcases Resolution.cause_of_resolve (attempt_iff.mp resolves).1 with ⟨_, rfl⟩ | ⟨_, rfl⟩ <;> exact nofun
  · have remote {c : Call} {n n' : Machine} {u v : Bool} {later : List (Exchange Bool)}
        (course : Course (call c) n u later (.error fault) n' v) : ∃ failure, fault = .remote failure := by
      obtain ⟨answer, -, same, -⟩ := call_iff.mp course
      cases answer with
      | error failure =>
          cases same
          exact ⟨_, rfl⟩
      | ok _ => cases same
    rcases bind_iff.mp asks with ⟨_, typed, same⟩ | ⟨_, _, _, _, _, -, assigns, -⟩
    · cases same
      obtain ⟨_, rfl⟩ := remote typed
      exact nofun
    · obtain ⟨_, rfl⟩ := remote assigns
      exact nofun

/-- `Verdict value typeName below answer r m r' m'`: upon the answer to the inquiry, a cast that comes to `r`
with the machine `m` and a test that comes to `r'` with the machine `m'` agree on a value, which was taken from
above `below`. -/
inductive Verdict (value : Value) (typeName : String) (below : Machine) :
    Except Fault Bool → Except Fault Flow → Machine → Except Fault Flow → Machine → Prop where
  /-- Something went wrong on the way. -/
  | undecided {fault : Fault} : (∀ source target, fault ≠ .invalidCast source target) →
      Verdict value typeName below (.error fault) (.error fault) below (.error fault) below
  | inside :
      Verdict value typeName below (.ok true) (.ok .next) { below with stack := .value value :: below.stack }
        (.ok .next) { below with stack := .value (.boolean true) :: below.stack }
  | outside :
      Verdict value typeName below (.ok false) (.error (.invalidCast value.kind typeName)) below
        (.ok .next) { below with stack := .value (.boolean false) :: below.stack }

/-- What the cast makes of the answer. -/
def Verdict.ofCast (value : Value) (typeName : String) (below : Machine) :
    Except Fault Bool → Except Fault Flow × Machine
  | .ok true => (.ok .next, { below with stack := .value value :: below.stack })
  | .ok false => (.error (.invalidCast value.kind typeName), below)
  | .error fault => (.error fault, below)

/-- What the test makes of the answer. -/
def Verdict.ofTest (below : Machine) : Except Fault Bool → Except Fault Flow × Machine
  | .ok member => (.ok .next, { below with stack := .value (.boolean member) :: below.stack })
  | .error fault => (.error fault, below)

/-- One answer makes one verdict. -/
theorem Verdict.of_belongs {value : Value} {handle : ObjectRef} {below m m' : Machine} {s t : Bool}
    {passed : List (Exchange Bool)} {answer : Except Fault Bool} {r r' : Except Fault Flow}
    (asks : Course (belongs scope handle typeName) below s passed answer below t)
    (casts : (r, m) = ofCast value typeName below answer) (tests : (r', m') = ofTest below answer) :
    Verdict value typeName below answer r m r' m' := by
  rcases answer with fault | _ | _
  · cases casts
    cases tests
    exact .undecided (ne_invalidCast_of_belongs asks)
  · cases casts
    cases tests
    exact .outside
  · cases casts
    cases tests
    exact .inside

section Courses

variable {below m' : Machine} {s t : Bool} {passed : List (Exchange Bool)} {r : Except Fault Flow}

theorem push_next_course {value : Value}
    (course : Course (do pushValue value; return Flow.next) below s passed r m' t) :
    passed = [] ∧ r = .ok .next ∧ m' = { below with stack := .value value :: below.stack } ∧ t = s :=
  (pure_iff (m := { below with stack := .value value :: below.stack })).mp course

theorem cast_asks (reference : Kind.ofPrimitiveName? typeName = none) {value : Value} {handle : ObjectRef}
    (refers : value.handle? = some handle)
    (course : Course (do pushValue (← cast scope value typeName); return Flow.next) below s passed r m' t) :
    ∃ answer, Course (belongs scope handle typeName) below s passed answer below t ∧
      (r, m') = Verdict.ofCast value typeName below answer := by
  rw [cast_of_handle reference refers, bind_assoc] at course
  rcases (belongs_inquires scope handle typeName).bind_iff.mp course with
    ⟨fault, fails, rfl, rfl⟩ | ⟨member, u, first, second, asks, goes, rfl⟩
  · exact ⟨_, fails, rfl⟩
  cases member with
  | false =>
      have refused : Course (throw (.invalidCast value.kind typeName) : Evaluation Flow) below u second r m'
          t := goes
      obtain ⟨rfl, rfl, rfl, rfl⟩ := throw_iff.mp refused
      rw [List.append_nil]
      exact ⟨_, asks, rfl⟩
  | true =>
      obtain ⟨rfl, rfl, rfl, rfl⟩ := push_next_course goes
      rw [List.append_nil]
      exact ⟨_, asks, rfl⟩

theorem instanceOf_asks {value : Value} {handle : ObjectRef} (refers : value.handle? = some handle)
    (course : Course (do pushValue (.boolean (← instanceOf scope value typeName)); return Flow.next) below s
      passed r m' t) :
    ∃ answer, Course (belongs scope handle typeName) below s passed answer below t ∧
      (r, m') = Verdict.ofTest below answer := by
  rw [instanceOf_of_handle refers] at course
  rcases (belongs_inquires scope handle typeName).bind_iff.mp course with
    ⟨fault, fails, rfl, rfl⟩ | ⟨member, u, first, second, asks, goes, rfl⟩
  · exact ⟨_, fails, rfl⟩
  · obtain ⟨rfl, rfl, rfl, rfl⟩ := push_next_course goes
    rw [List.append_nil]
    exact ⟨_, asks, rfl⟩

/-- A cast of `null` resolves the name and pushes `null`. -/
theorem cast_null_resolves (reference : Kind.ofPrimitiveName? typeName = none)
    (course : Course (do pushValue (← cast scope .null typeName); return Flow.next) below s passed r m' t) :
    ∃ resolved, (scope.resolution.resolve typeName).run.Course s passed resolved t ∧
      r = resolved.map (fun _ => .next) ∧ ∀ type, resolved = .ok type →
        m' = { below with stack := .value .null :: below.stack } := by
  rw [cast_null reference, bind_assoc] at course
  rcases bind_iff.mp course with ⟨fault, fails, rfl⟩ | ⟨type, n, u, first, second, resolves, goes, rfl⟩
  · exact ⟨_, (attempt_iff.mp fails).1, rfl, nofun⟩
  · obtain ⟨asks, rfl⟩ := attempt_iff.mp resolves
    obtain ⟨rfl, rfl, rfl, rfl⟩ := push_next_course goes
    rw [List.append_nil]
    exact ⟨.ok type, asks, rfl, fun _ _ => rfl⟩

end Courses

/-- On a facade, what has passed in the first part of an evaluation is settled. -/
theorem Course.after {α β : Type} {x : Evaluation α} {f : α → Evaluation β} {facade : Facade}
    {clears : Nat → Bool} {prior : List (Exchange Unit)} {m n m' : Machine} {s u t : Bool} {a : α}
    {first passed : List (Exchange Bool)} {r : Except Fault β} (head : Course x m s first (.ok a) n u)
    (meets : Meets facade clears prior first) (course : Course (x >>= f) m s passed r m' t)
    (meets' : Meets facade clears prior passed) :
    ∃ later, passed = first ++ later ∧ Course (f a) n u later r m' t ∧
      Meets facade clears (prior ++ outward first) later := by
  rcases bind_iff.mp course with ⟨fault, fails, rfl⟩ | ⟨a', n', u', first', later, head', tail, rfl⟩
  · obtain ⟨-, impossible⟩ := Dialogue.Course.settled head fails meets meets'
    cases impossible
  · obtain ⟨begins, goesOn⟩ := Meets.append_iff.mp meets'
    obtain ⟨rfl, same⟩ := Dialogue.Course.settled head head' meets begins
    cases same
    exact ⟨later, rfl, tail, goesOn⟩

/-- On a facade, the cast of an object or a string to a reference type and the test for that type pass the same
way: the value is read, and then they make the same inquiry. They agree upon its answer. A test of `null` is
over when the value is read, and it says no, while a cast of `null` succeeds exactly if the name of the type
resolves. -/
theorem cast_agrees_with_instanceOf (scope : Scope) (typeName : String) (facade : Facade)
    (clears : Nat → Bool) (prior : List (Exchange Unit)) (m : Machine) (s : Bool) :
    (∀ instruction, ∃ passed r m' t, Course (execute scope instruction) m s passed r m' t ∧
      Meets facade clears prior passed) ∧
    ∀ read value below u, Course (popValue scope) m s read (.ok value) below u →
      Meets facade clears prior read →
      ∀ passed r m' t, Course (execute scope (.cast typeName)) m s passed r m' t →
        Meets facade clears prior passed →
      ∀ passed' r' m'' t', Course (execute scope (.instanceOf typeName)) m s passed' r' m'' t' →
        Meets facade clears prior passed' →
      (Kind.ofPrimitiveName? typeName = none → ∀ handle, value.handle? = some handle →
        passed' = passed ∧ t' = t ∧ ∃ later answer, passed = read ++ later ∧
          Course (belongs scope handle typeName) below u later answer below t ∧
          Verdict value typeName below answer r m' r' m'') ∧
      (value = .null →
        (passed' = read ∧ r' = .ok .next ∧
          m'' = { below with stack := .value (.boolean false) :: below.stack }) ∧
        (Kind.ofPrimitiveName? typeName = none → ∃ later resolved, passed = read ++ later ∧
          (scope.resolution.resolve typeName).run.Course u later resolved t ∧
          r = resolved.map (fun _ => .next) ∧ ∀ type, resolved = .ok type →
            m' = { below with stack := .value .null :: below.stack })) := by
  refine ⟨fun instruction => ?_, ?_⟩
  · obtain ⟨passed, ⟨⟨r, m'⟩, t⟩, course, meets⟩ : ∃ passed result,
        ((execute scope instruction).run.run m s).Course passed result ∧ Meets facade clears prior passed :=
      Dialogue.exists_meets _ _
    exact ⟨passed, r, m', t, course, meets⟩
  · intro read value below u pops begins passed r m' t casts meets passed' r' m'' t' tests meets'
    obtain ⟨later, rfl, casts, goesOn⟩ := pops.after begins casts meets
    obtain ⟨later', rfl, tests, goesOn'⟩ := pops.after begins tests meets'
    refine ⟨fun reference handle refers => ?_, ?_⟩
    · obtain ⟨answer, asks, cast⟩ := cast_asks reference refers casts
      obtain ⟨answer', asks', test⟩ := instanceOf_asks refers tests
      obtain ⟨rfl, same⟩ := Dialogue.Course.settled asks asks' goesOn goesOn'
      cases same
      exact ⟨rfl, rfl, later, answer, rfl, asks, .of_belongs asks cast test⟩
    · rintro rfl
      obtain ⟨rfl, rfl, rfl, -⟩ := push_next_course tests
      refine ⟨⟨List.append_nil _, rfl, rfl⟩, fun reference => ?_⟩
      obtain ⟨resolved, resolves, ends⟩ := cast_null_resolves reference casts
      exact ⟨later, resolved, rfl, resolves, ends⟩

end Evaluation

namespace Membership.Sample

def scope : Scope := ⟨⟨⟨1⟩, 0⟩, {}⟩

/-- A target that knows one type of each name and says that any type can be assigned to it. -/
def answers : (c : Call) → Except RemoteFailure c.Answer
  | .allTypes _ => .ok [⟨2⟩]
  | .newString _ => .ok (.string ⟨5⟩)
  | .invokeStatic .. => .ok (.object ⟨101⟩)
  | .typeOf _ => .ok ⟨10⟩
  | .isAssignable .. => .ok true
  | _ => .error .disconnected

def facade : Facade := fun _ request => (answering answers request true).1

/-- The stack holds an object. -/
def ready : Machine where
  stack := [.value (.object ⟨7⟩)]

/-- The stack holds `null`. -/
def vacant : Machine where
  stack := [.value .null]

def casting : Instruction := .cast "app.Point"

def testing : Instruction := .instanceOf "app.Point"

/-- What passes when an instruction is executed. -/
def asked (instruction : Instruction) (m : Machine) : List (Exchange Bool) :=
  (((Evaluation.execute scope instruction).run.run m true).follow (answering answers)).1

theorem casts :
    (Evaluation.execute scope casting).Course ready true (asked casting ready) (.ok .next) ready true :=
  Dialogue.course_follow (answering answers) ((Evaluation.execute scope casting).run.run ready true)

theorem casts_null :
    (Evaluation.execute scope casting).Course vacant true (asked casting vacant) (.ok .next) vacant true :=
  Dialogue.course_follow (answering answers) ((Evaluation.execute scope casting).run.run vacant true)

end Membership.Sample

open Membership.Sample in
theorem Evaluation.cast_agrees_with_instanceOf_point :
    (∃ passed r m' t, (execute scope testing).Course ready true passed r m' t ∧
      passed = asked casting ready ∧ r = .ok .next ∧
        m' = { ready with stack := [.value (.boolean true)] }) ∧
    ∃ passed r m' t, (execute scope testing).Course vacant true passed r m' t ∧
      passed = [] ∧ r = .ok .next ∧ m' = { vacant with stack := [.value (.boolean false)] } := by
  constructor
  · have pops : (popValue scope).Course ready true [] (.ok (.object ⟨7⟩)) {} true :=
      pure_iff.mpr ⟨rfl, rfl, rfl, rfl⟩
    have meets : Meets facade undisturbed [] (asked casting ready) :=
      ⟨⟨rfl, rfl⟩, ⟨rfl, rfl⟩, ⟨rfl, rfl⟩, ⟨rfl, rfl⟩, ⟨rfl, rfl⟩, ⟨rfl, rfl⟩, trivial⟩
    obtain ⟨goes, agree⟩ := cast_agrees_with_instanceOf scope "app.Point" facade undisturbed [] ready true
    obtain ⟨passed, r, m', t, tests, meets'⟩ := goes testing
    obtain ⟨same, -⟩ := agree [] _ _ _ pops trivial _ _ _ _ casts meets _ _ _ _ tests meets'
    obtain ⟨rfl, -, _, _, -, -, verdict⟩ := same (by decide) _ rfl
    cases verdict
    exact ⟨_, _, _, _, tests, rfl, rfl, rfl⟩
  · have pops : (popValue scope).Course vacant true [] (.ok .null) {} true :=
      pure_iff.mpr ⟨rfl, rfl, rfl, rfl⟩
    have meets : Meets facade undisturbed [] (asked casting vacant) :=
      ⟨⟨rfl, rfl⟩, ⟨rfl, rfl⟩, ⟨rfl, rfl⟩, ⟨rfl, rfl⟩, trivial⟩
    obtain ⟨goes, agree⟩ := cast_agrees_with_instanceOf scope "app.Point" facade undisturbed [] vacant true
    obtain ⟨passed, r, m', t, tests, meets'⟩ := goes testing
    obtain ⟨-, null⟩ := agree [] _ _ _ pops trivial _ _ _ _ casts_null meets _ _ _ _ tests meets'
    obtain ⟨⟨rfl, rfl, rfl⟩, -⟩ := null rfl
    exact ⟨_, _, _, _, tests, rfl, rfl, rfl⟩

end RemoteDebug
