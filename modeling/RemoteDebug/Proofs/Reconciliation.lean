import Mathlib.Data.List.Find
import RemoteDebug.Proofs.Facade
import RemoteDebug.Proofs.Failure

/-!
Reconciliation of a forced load with the loaded types.

Two answers of the target settle the type of a name: what forcing its load gave, and which types of the name
are loaded. A single type needs no help of the load. Among several types, the class object that the load
gave tells which one is meant, so the order in which the target lists them does not matter.

* `Resolution.Surveys` says that the two answers were given, `Resolution.Picks` lists the courses of the search
  for the type of a class object,
* `Resolution.Settles` says what becomes of a load and a listing, `Resolution.settled?` the same where the
  class objects are known,
* `Resolution.resolve_reconciles` is the statement about resolutions.
-/

namespace RemoteDebug.Resolution

variable {resolution : Resolution} {name : String} {s t : Bool} {passed : List (Exchange Bool)}

/-- A course starts with a load that gives `loaded` and with a listing that has the answer `listed`. -/
def Surveys (resolution : Resolution) (name : String) (passed : List (Exchange Bool))
    (loaded : Option ObjectRef) (listed : Except RemoteFailure (List TypeRef))
    (later : List (Exchange Bool)) : Prop :=
  ∃ forced u v, passed = forced ++ .asked (.call (.allTypes name)) u listed v :: later ∧
    resolution.Loads name forced (.ok loaded)

/-- `Picks classObject candidates passed r`: the candidates are asked for their class objects one after the
other, up to the first one that has the given class object. -/
inductive Picks (classObject : ObjectRef) :
    List TypeRef → List (Exchange Bool) → Except Fault (Option TypeRef) → Prop where
  | exhausted : Picks classObject [] [] (.ok none)
  | hit {candidate : TypeRef} {rest : List TypeRef} {s t : Bool} :
      Picks classObject (candidate :: rest)
        [.asked (.call (.classObject candidate)) s (.ok (some classObject)) t] (.ok (some candidate))
  | failed {candidate : TypeRef} {rest : List TypeRef} {failure : RemoteFailure} {s t : Bool} :
      Picks classObject (candidate :: rest)
        [.asked (.call (.classObject candidate)) s (.error failure) t] (.error (.remote failure))
  | skipped {candidate : TypeRef} {rest : List TypeRef} {other : Option ObjectRef} {s t : Bool}
      {later : List (Exchange Bool)} {r : Except Fault (Option TypeRef)} :
      other ≠ some classObject → Picks classObject rest later r →
      Picks classObject (candidate :: rest)
        (.asked (.call (.classObject candidate)) s (.ok other) t :: later) r

/-- `Settles name loaded types passed result`: what becomes of a load that gave `loaded` and a listing of
`types`. -/
inductive Settles (name : String) :
    Option ObjectRef → List TypeRef → List (Exchange Bool) → Except Fault TypeRef → Prop where
  | single {loaded : Option ObjectRef} {type : TypeRef} : Settles name loaded [type] [] (.ok type)
  | chosen {classObject : ObjectRef} {types : List TypeRef} {type : TypeRef} {asked : List (Exchange Bool)} :
      2 ≤ types.length → Picks classObject types asked (.ok (some type)) →
      Settles name (some classObject) types asked (.ok type)
  | absent {loaded : Option ObjectRef} : Settles name loaded [] [] (.error (.unresolvableType name))
  | unguided {types : List TypeRef} : 2 ≤ types.length →
      Settles name none types [] (.error (.unresolvableType name))
  | unmatched {classObject : ObjectRef} {types : List TypeRef} {asked : List (Exchange Bool)} :
      2 ≤ types.length → Picks classObject types asked (.ok none) →
      Settles name (some classObject) types
        (asked ++ [.told (.log (.noCandidate types.length name classObject))])
        (.error (.unresolvableType name))
  | unanswered {classObject : ObjectRef} {types : List TypeRef} {asked : List (Exchange Bool)}
      {fault : Fault} : 2 ≤ types.length → Picks classObject types asked (.error fault) →
      Settles name (some classObject) types asked (.error fault)

/-! ### The parts of a resolution -/

theorem load_ok_iff {loaded : Option ObjectRef} :
    (resolution.load name).run.Course s passed (.ok loaded) t ↔
      Carries id s passed t ∧ resolution.Loads name passed (.ok loaded) := by
  constructor
  · intro course
    exact ⟨(load_heedless _ _ _ _ _ _ course).1, load_course course⟩
  · rintro ⟨carries, loads⟩
    cases loads with
    | loaded readies =>
        obtain ⟨⟩ := readies
        obtain ⟨rfl, rfl, rfl, rfl⟩ := carries
        refine Attempt.call_bind_iff.mpr (.inr ⟨_, _, _, ?_, rfl⟩)
        refine Attempt.call_bind_iff.mpr (.inr ⟨_, _, _, ?_, rfl⟩)
        exact Operation.Course.run_ask_bind_iff.mpr
          ⟨.ok _, _, _, Operation.Course.run_pure_iff.mpr ⟨rfl, rfl, rfl⟩, rfl⟩
    | missed misses =>
        obtain ⟨⟨⟩, absent⟩ := misses
        obtain ⟨rfl, rfl, rfl, rfl⟩ := carries
        refine Attempt.call_bind_iff.mpr (.inr ⟨_, _, _, ?_, rfl⟩)
        refine Attempt.call_bind_iff.mpr (.inr ⟨_, _, _, ?_, rfl⟩)
        refine Operation.Course.run_ask_bind_iff.mpr ⟨.error _, _, _, ?_, rfl⟩
        dsimp only
        rw [if_pos absent]
        exact Operation.Course.run_tell_bind_iff.mpr
          ⟨[], Operation.Course.run_pure_iff.mpr ⟨rfl, rfl, rfl⟩, rfl⟩

theorem pick_iff {classObject : ObjectRef} {candidates : List TypeRef}
    {r : Except Fault (Option TypeRef)} :
    (pick classObject candidates).run.Course s passed r t ↔
      Carries id s passed t ∧ Picks classObject candidates passed r := by
  induction candidates generalizing s passed with
  | nil =>
      refine Operation.Course.run_pure_iff.trans ⟨?_, ?_⟩
      · rintro ⟨rfl, rfl, rfl⟩
        exact ⟨rfl, .exhausted⟩
      · rintro ⟨carries, picks⟩
        cases picks
        exact ⟨rfl, rfl, carries⟩
  | cons candidate rest ih =>
      refine Attempt.call_bind_iff.trans ⟨?_, ?_⟩
      · rintro (⟨failure, rfl, rfl⟩ | ⟨answer, u, later, goes, rfl⟩)
        · exact ⟨⟨rfl, rfl⟩, .failed⟩
        split at goes
        · rename_i matched
          obtain ⟨rfl, rfl, rfl⟩ := Operation.Course.run_pure_iff.mp goes
          rw [matched]
          exact ⟨⟨rfl, rfl⟩, .hit⟩
        · rename_i differs
          obtain ⟨carries, picks⟩ := ih.mp goes
          exact ⟨⟨rfl, carries⟩, .skipped differs picks⟩
      · rintro ⟨carries, picks⟩
        cases picks with
        | hit =>
            obtain ⟨rfl, rfl⟩ := carries
            refine .inr ⟨_, _, [], ?_, rfl⟩
            rw [if_pos rfl]
            exact Operation.Course.run_pure_iff.mpr ⟨rfl, rfl, rfl⟩
        | failed =>
            obtain ⟨rfl, rfl⟩ := carries
            exact .inl ⟨_, rfl, rfl⟩
        | skipped differs picks =>
            obtain ⟨rfl, carries⟩ := carries
            refine .inr ⟨_, _, _, ?_, rfl⟩
            rw [if_neg differs]
            exact ih.mpr ⟨carries, picks⟩

/-- The choice between the listed types, after a load that gave `loaded`. -/
def choose (name : String) (loaded : Option ObjectRef) : List TypeRef → Attempt Bool TypeRef
  | [] => throw (.unresolvableType name)
  | [single] => return single
  | candidates =>
    match loaded with
    | none => throw (.unresolvableType name)
    | some classObject => do
      match ← pick classObject candidates with
      | some type => return type
      | none =>
        perform (.log (.noCandidate candidates.length name classObject))
        throw (.unresolvableType name)

theorem resolve_eq : (resolution.resolve name : Attempt Bool TypeRef) = (do
    let loaded ← resolution.load name
    choose name loaded (← Attempt.call (.allTypes name))) := by
  unfold resolve
  refine bind_congr fun loaded => bind_congr fun types => ?_
  rcases types with _ | ⟨type, _ | ⟨other, more⟩⟩ <;> rfl

theorem choose_iff {loaded : Option ObjectRef} {types : List TypeRef} {result : Except Fault TypeRef} :
    (choose name loaded types).run.Course s passed result t ↔
      Carries id s passed t ∧ Settles name loaded types passed result := by
  rcases types with _ | ⟨type, _ | ⟨other, more⟩⟩
  · refine Operation.Course.run_throw_iff.trans ⟨?_, ?_⟩
    · rintro ⟨rfl, rfl, rfl⟩
      exact ⟨rfl, .absent⟩
    · rintro ⟨carries, settles⟩
      cases settles with
      | absent => exact ⟨rfl, rfl, carries⟩
      | chosen several | unguided several | unmatched several | unanswered several => simp at several
  · refine Operation.Course.run_pure_iff.trans ⟨?_, ?_⟩
    · rintro ⟨rfl, rfl, rfl⟩
      exact ⟨rfl, .single⟩
    · rintro ⟨carries, settles⟩
      cases settles with
      | single => exact ⟨rfl, rfl, carries⟩
      | chosen several | unguided several | unmatched several | unanswered several => simp at several
  have several : 2 ≤ (type :: other :: more).length := by simp
  cases loaded with
  | none =>
      refine Operation.Course.run_throw_iff.trans ⟨?_, ?_⟩
      · rintro ⟨rfl, rfl, rfl⟩
        exact ⟨rfl, .unguided several⟩
      · rintro ⟨carries, settles⟩
        cases settles
        exact ⟨rfl, rfl, carries⟩
  | some classObject =>
      refine Operation.Course.run_bind_iff.trans ⟨?_, ?_⟩
      · rintro (⟨fault, fails, rfl⟩ | ⟨found, u, asked, later, picked, goes, rfl⟩)
        · obtain ⟨carries, picks⟩ := pick_iff.mp fails
          exact ⟨carries, .unanswered several picks⟩
        obtain ⟨carries, picks⟩ := pick_iff.mp picked
        cases found with
        | some type =>
            obtain ⟨rfl, rfl, rfl⟩ := Operation.Course.run_pure_iff.mp goes
            rw [List.append_nil]
            exact ⟨carries, .chosen several picks⟩
        | none =>
            obtain ⟨_, ends, rfl⟩ := Operation.Course.run_tell_bind_iff.mp goes
            obtain ⟨rfl, rfl, rfl⟩ := Operation.Course.run_throw_iff.mp ends
            exact ⟨Carries.append_iff.mpr ⟨_, carries, rfl⟩, .unmatched several picks⟩
      · rintro ⟨carries, settles⟩
        cases settles with
        | chosen _ picks =>
            exact .inr ⟨_, t, passed, [], pick_iff.mpr ⟨carries, picks⟩,
              Operation.Course.run_pure_iff.mpr ⟨rfl, rfl, rfl⟩, (List.append_nil _).symm⟩
        | unmatched _ picks =>
            obtain ⟨u, carries, rfl⟩ := Carries.append_iff.mp carries
            exact .inr ⟨none, t, _, _, pick_iff.mpr ⟨carries, picks⟩,
              Operation.Course.run_tell_bind_iff.mpr
                ⟨[], Operation.Course.run_throw_iff.mpr ⟨rfl, rfl, rfl⟩, rfl⟩, rfl⟩
        | unanswered _ picks => exact .inl ⟨_, pick_iff.mpr ⟨carries, picks⟩, rfl⟩

/-- A course of a resolution is a failed load, or a load, the listing and the choice. -/
theorem resolve_iff {result : Except Fault TypeRef} :
    (resolution.resolve name).run.Course s passed result t ↔
      (∃ fault, (resolution.load name).run.Course s passed (.error fault) t ∧ result = .error fault) ∨
      Carries id s passed t ∧ ∃ loaded listed later, resolution.Surveys name passed loaded listed later ∧
        match listed with
        | .error failure => later = [] ∧ result = .error (.remote failure)
        | .ok types => Settles name loaded types later result := by
  rw [resolve_eq, Operation.Course.run_bind_iff]
  refine or_congr_right ⟨?_, ?_⟩
  · rintro ⟨loaded, u, forced, _, goes, follows, rfl⟩
    obtain ⟨carries, loads⟩ := load_ok_iff.mp goes
    rcases Attempt.call_bind_iff.mp follows with ⟨failure, rfl, rfl⟩ | ⟨types, v, later, chooses, rfl⟩
    · exact ⟨Carries.append_iff.mpr ⟨u, carries, rfl, rfl⟩, loaded, .error failure, [],
        ⟨forced, u, t, rfl, loads⟩, rfl, rfl⟩
    · obtain ⟨goesOn, settles⟩ := choose_iff.mp chooses
      exact ⟨Carries.append_iff.mpr ⟨u, carries, rfl, goesOn⟩, loaded, .ok types, later,
        ⟨forced, u, v, rfl, loads⟩, settles⟩
  · rintro ⟨carries, loaded, listed, later, ⟨forced, u, v, rfl, loads⟩, ends⟩
    obtain ⟨_, carries, rfl, goesOn⟩ := Carries.append_iff.mp carries
    refine ⟨loaded, _, forced, _, load_ok_iff.mpr ⟨carries, loads⟩, ?_, rfl⟩
    cases listed with
    | error failure =>
        obtain ⟨rfl, rfl⟩ := ends
        cases goesOn
        exact Attempt.call_bind_iff.mpr (.inl ⟨failure, rfl, rfl⟩)
    | ok types =>
        exact Attempt.call_bind_iff.mpr (.inr ⟨types, v, later, choose_iff.mpr ⟨goesOn, ends⟩, rfl⟩)

/-- A course that starts with a load and a listing does so in one way. -/
theorem Surveys.unique {loaded loaded' : Option ObjectRef}
    {listed listed' : Except RemoteFailure (List TypeRef)} {later later' : List (Exchange Bool)}
    (carries : Carries id s passed t) (surveys : resolution.Surveys name passed loaded listed later)
    (surveys' : resolution.Surveys name passed loaded' listed' later') :
    loaded = loaded' ∧ listed = listed' ∧ later = later' := by
  obtain ⟨forced, u, v, rfl, loads⟩ := surveys
  obtain ⟨forced', u', v', same, loads'⟩ := surveys'
  obtain ⟨_, carried, -⟩ := Carries.append_iff.mp carries
  rw [same] at carries
  obtain ⟨_, carried', -⟩ := Carries.append_iff.mp carries
  obtain ⟨rfl, ended⟩ := Dialogue.Course.unique (load_ok_iff.mpr ⟨carried, loads⟩)
    (load_ok_iff.mpr ⟨carried', loads'⟩) same
  cases ended
  cases List.append_cancel_left same
  exact ⟨rfl, rfl, rfl⟩

/-- After a load and a listing, only the choice is left. -/
theorem Surveys.resolve_iff {loaded : Option ObjectRef} {types : List TypeRef}
    {later : List (Exchange Bool)} {result : Except Fault TypeRef}
    (surveys : resolution.Surveys name passed loaded (.ok types) later) :
    (resolution.resolve name).run.Course s passed result t ↔
      Carries id s passed t ∧ Settles name loaded types later result := by
  rw [Resolution.resolve_iff]
  constructor
  · rintro (⟨fault, fails, rfl⟩ | ⟨carries, loaded', listed, later', surveys', ends⟩)
    · -- The replies have already led the load to success.
      obtain ⟨forced, u, v, rfl, loads⟩ := surveys
      obtain ⟨_, carries, -⟩ := Carries.append_iff.mp (load_heedless _ _ _ _ _ _ fails).1
      have course := load_ok_iff.mpr ⟨carries, loads⟩
      have shorter := (Dialogue.Course.unique course fails (List.append_nil _).symm).1
      simp at shorter
    · obtain ⟨rfl, rfl, rfl⟩ := surveys.unique carries surveys'
      exact ⟨carries, ends⟩
  · rintro ⟨carries, settles⟩
    exact .inr ⟨carries, loaded, .ok types, later, surveys, settles⟩

/-! ### The order of the listing -/

/-- The calls on the way tell the class objects of types. -/
def Tells (classObject : TypeRef → Option ObjectRef) (passed : List (Exchange Bool)) : Prop :=
  ∀ type s answer t, .asked (.call (.classObject type)) s answer t ∈ passed →
    answer = .ok (classObject type)

/-- The type of a name, if there is one, after a load that gave `loaded` and a listing of `types`. -/
def settled? (classObject : TypeRef → Option ObjectRef) (loaded : Option ObjectRef)
    (types : List TypeRef) : Option TypeRef :=
  if types.length < 2 then types.head? else loaded.bind fun c => types.find? (classObject · = some c)

theorem Tells.append_left {classObject : TypeRef → Option ObjectRef} {first second : List (Exchange Bool)}
    (tells : Tells classObject (first ++ second)) : Tells classObject first :=
  fun type s answer t mem => tells type s answer t (List.mem_append_left _ mem)

theorem Picks.eq_find? {classObject : TypeRef → Option ObjectRef} {c : ObjectRef} {candidates : List TypeRef}
    {r : Except Fault (Option TypeRef)} (picks : Picks c candidates passed r)
    (tells : Tells classObject passed) : r = .ok (candidates.find? (classObject · = some c)) := by
  induction picks with
  | exhausted => rfl
  | hit =>
      have told := tells _ _ _ _ List.mem_cons_self
      simp_all
  | failed => cases tells _ _ _ _ List.mem_cons_self
  | skipped differs picks ih =>
      have told := tells _ _ _ _ List.mem_cons_self
      rw [ih fun type s answer t mem => tells type s answer t (List.mem_cons_of_mem _ mem)]
      simp_all

theorem Settles.eq_settled? {classObject : TypeRef → Option ObjectRef} {loaded : Option ObjectRef}
    {types : List TypeRef} {result : Except Fault TypeRef} (settles : Settles name loaded types passed result)
    (tells : Tells classObject passed) :
    result = (settled? classObject loaded types).elim (.error (.unresolvableType name)) .ok := by
  unfold settled?
  cases settles with
  | single => rfl
  | absent => rfl
  | unguided several => rw [if_neg (Nat.not_lt.mpr several)]; rfl
  | chosen several picks =>
      rw [if_neg (Nat.not_lt.mpr several), Option.bind_some, ← Except.ok.inj (picks.eq_find? tells)]
      rfl
  | unmatched several picks =>
      rw [if_neg (Nat.not_lt.mpr several), Option.bind_some,
        ← Except.ok.inj (picks.eq_find? tells.append_left)]
      rfl
  | unanswered several picks => cases picks.eq_find? tells

/-- The order of the types does not matter if the class object that the load gave belongs to one of them at
most. -/
theorem settled?_perm {classObject : TypeRef → Option ObjectRef} {loaded : Option ObjectRef}
    {types types' : List TypeRef} (perm : types.Perm types')
    (unique : ∀ c, loaded = some c → ∀ a ∈ types, ∀ b ∈ types, classObject a = some c →
      classObject b = some c → a = b) :
    settled? classObject loaded types = settled? classObject loaded types' := by
  unfold settled?
  rw [perm.length_eq]
  split_ifs with few
  · -- A list of one type at most has no other order.
    rcases types' with _ | ⟨type, _ | ⟨other, more⟩⟩
    · rw [perm.eq_nil]
    · rw [List.perm_singleton.mp perm]
    · simp only [List.length_cons] at few
      omega
  · cases loaded with
    | none => rfl
    | some c =>
        refine List.find?_eq_find?_of_perm perm ?_
        rintro a ⟨memA, matchesA⟩ b ⟨memB, matchesB⟩
        exact unique c rfl a memA b memB (of_decide_eq_true matchesA) (of_decide_eq_true matchesB)

/-- Resolution reconciles the two answers. The load is forced before the listing. A type is returned exactly
if both answer and the listing names only this type, or if it names several and this type is the first one with
the class object that the load gave. After a load and a listing all other outcomes are those of `Settles`, and
the order of the listing makes no difference unless several types claim the class object. -/
theorem resolve_reconciles (resolution : Resolution) (name : String) :
    (∀ s passed result t, (resolution.resolve name).run.Course s passed result t →
      (∃ fault, (resolution.load name).run.Course s passed (.error fault) t ∧ result = .error fault) ∨
      ∃ loaded listed later, resolution.Surveys name passed loaded listed later) ∧
    (∀ s passed type t, (resolution.resolve name).run.Course s passed (.ok type) t ↔
      Carries id s passed t ∧ ∃ loaded types asked,
        resolution.Surveys name passed loaded (.ok types) asked ∧
        (types = [type] ∧ asked = [] ∨
          2 ≤ types.length ∧ ∃ c, loaded = some c ∧ Picks c types asked (.ok (some type)))) ∧
    (∀ passed loaded types later, resolution.Surveys name passed loaded (.ok types) later →
      ∀ s result t, (resolution.resolve name).run.Course s passed result t ↔
        Carries id s passed t ∧ Settles name loaded types later result) ∧
    ∀ passed passed' loaded types types' later later',
      resolution.Surveys name passed loaded (.ok types) later →
      resolution.Surveys name passed' loaded (.ok types') later' → types.Perm types' →
      ∀ classObject, Tells classObject later → Tells classObject later' →
        (∀ c, loaded = some c → ∀ a ∈ types, ∀ b ∈ types, classObject a = some c →
          classObject b = some c → a = b) →
        ∀ s result t s' result' t', (resolution.resolve name).run.Course s passed result t →
          (resolution.resolve name).run.Course s' passed' result' t' → result = result' := by
  refine ⟨?_, ?_, fun passed loaded types later surveys s result t => surveys.resolve_iff, ?_⟩
  · intro s passed result t course
    rcases resolve_iff.mp course with fails | ⟨-, loaded, listed, later, surveys, -⟩
    · exact .inl fails
    · exact .inr ⟨loaded, listed, later, surveys⟩
  · intro s passed type t
    constructor
    · intro course
      rcases resolve_iff.mp course with
        ⟨_, -, impossible⟩ | ⟨carries, loaded, listed, later, surveys, ends⟩
      · cases impossible
      cases listed with
      | error failure => cases ends.2
      | ok types =>
          refine ⟨carries, loaded, types, later, surveys, ?_⟩
          cases ends with
          | single => exact .inl ⟨rfl, rfl⟩
          | chosen several picks => exact .inr ⟨several, _, rfl, picks⟩
    · rintro ⟨carries, loaded, types, asked, surveys, ⟨rfl, rfl⟩ | ⟨several, c, rfl, picks⟩⟩
      · exact surveys.resolve_iff.mpr ⟨carries, .single⟩
      · exact surveys.resolve_iff.mpr ⟨carries, .chosen several picks⟩
  · intro passed passed' loaded types types' later later' surveys surveys' perm classObject tells tells' unique
      s result t s' result' t' course course'
    have settles := (surveys.resolve_iff.mp course).2
    have settles' := (surveys'.resolve_iff.mp course').2
    rw [settles.eq_settled? tells, settles'.eq_settled? tells', settled?_perm perm unique]

namespace Reconciliation.Sample

/-- A load that gives a class object. -/
def forced : List (Exchange Bool) :=
  [.asked (.call (.allTypes "java.lang.Class")) true (.ok [⟨2⟩]) true,
    .asked (.call (.newString "app.Point")) true (.ok (.string ⟨5⟩)) true,
    .asked (.call (forcing ⟨⟨1⟩, {}⟩ ⟨2⟩ (.string ⟨5⟩))) true (.ok (.object ⟨101⟩)) true]

/-- A listing of two types, and the class objects of both. -/
def listed : List (Exchange Bool) :=
  forced ++ .asked (.call (.allTypes "app.Point")) true (.ok [⟨10⟩, ⟨11⟩]) true ::
    [.asked (.call (.classObject ⟨10⟩)) true (.ok (some ⟨100⟩)) true,
      .asked (.call (.classObject ⟨11⟩)) true (.ok (some ⟨101⟩)) true]

/-- The same types in the other order. -/
def relisted : List (Exchange Bool) :=
  forced ++ .asked (.call (.allTypes "app.Point")) true (.ok [⟨11⟩, ⟨10⟩]) true ::
    [.asked (.call (.classObject ⟨11⟩)) true (.ok (some ⟨101⟩)) true]

/-- The class object of either type. -/
def classObjectOf (type : TypeRef) : Option ObjectRef := some ⟨type.id + 90⟩

end Reconciliation.Sample

open Reconciliation.Sample in
theorem resolve_reconciles_twins :
    (resolve ⟨⟨1⟩, {}⟩ "app.Point").run.Course true listed (.ok ⟨11⟩) true ∧
      ∀ result t, (resolve ⟨⟨1⟩, {}⟩ "app.Point").run.Course true relisted result t →
        result = .ok ⟨11⟩ := by
  obtain ⟨-, returns, -, ordered⟩ := resolve_reconciles ⟨⟨1⟩, {}⟩ "app.Point"
  have loads : Loads ⟨⟨1⟩, {}⟩ "app.Point" forced (.ok (some ⟨101⟩)) := .loaded .intro
  have course : (resolve ⟨⟨1⟩, {}⟩ "app.Point").run.Course true listed (.ok ⟨11⟩) true := by
    refine (returns true listed ⟨11⟩ true).mpr
      ⟨?_, some ⟨101⟩, _, _, ⟨forced, true, true, rfl, loads⟩, ?_⟩
    · exact ⟨rfl, rfl, rfl, rfl, rfl, rfl, rfl⟩
    · exact .inr ⟨by decide, _, rfl, .skipped (by decide) .hit⟩
  have tells : Tells classObjectOf (listed.drop 4) := by
    intro type s answer t mem
    rcases mem with _ | ⟨_, _ | ⟨_, ⟨⟩⟩⟩ <;> rfl
  have tells' : Tells classObjectOf (relisted.drop 4) := by
    intro type s answer t mem
    rcases mem with _ | ⟨_, ⟨⟩⟩
    rfl
  refine ⟨course, fun result t course' => ?_⟩
  refine (ordered listed relisted _ _ _ _ _ ⟨forced, true, true, rfl, loads⟩
    ⟨forced, true, true, rfl, loads⟩ (.swap ..) classObjectOf tells tells' ?_ _ _ _ _ _ _
    course course').symm
  rintro c ⟨⟩
  decide

end RemoteDebug.Resolution
