import RemoteDebug.Dialogue

/-!
Courses: single paths through a dialogue.

A dialogue holds every course that an operation can take. A course is singled out by what passes on the
way: the remarks, and each request with the reply and the shared state that came back with it. Nothing is
assumed of the surroundings here; what they promise is a condition on what passes.

* `Dialogue.Course` and `Operation.Course` are the courses of a dialogue and of an operation,
* the `_iff` laws take a course apart along the operation, and put it together again,
* `Dialogue.course_follow`: whatever the surroundings reply, there is a course in which they do,
* `Carries` says that an operation leaves a part of the shared state to others: it hands the part over as
  it got it back.
-/

namespace RemoteDebug

/-- What passes at one point of a course: a remark, or a request with the shared state that is handed
over, the reply, and the shared state that comes back. -/
inductive Exchange (σ : Type) where
  | told (note : Note)
  | asked (request : Request) (before : σ) (reply : request.Reply) (after : σ)

/-- `Course d passed a`: the dialogue `d` can go along `passed` and end with `a`. -/
inductive Dialogue.Course {σ α : Type} : Dialogue σ α → List (Exchange σ) → α → Prop where
  | done {a : α} : Course (.done a) [] a
  | note {n : Note} {rest : Unit → Dialogue σ α} {passed : List (Exchange σ)} {a : α} :
      Course (rest ()) passed a → Course (.note n rest) (.told n :: passed) a
  | ask {q : Request} {s t : σ} {next : q.Reply → σ → Dialogue σ α} {reply : q.Reply}
      {passed : List (Exchange σ)} {a : α} :
      Course (next reply t) passed a → Course (.ask q s next) (.asked q s reply t :: passed) a

namespace Dialogue

variable {σ α β : Type}

/-- The course on which each request is met by a given reply. -/
def follow (reply : (request : Request) → σ → request.Reply × σ) :
    Dialogue σ α → List (Exchange σ) × α
  | .done a => ([], a)
  | .note n rest =>
    let (passed, a) := (rest ()).follow reply
    (.told n :: passed, a)
  | .ask q s next =>
    let (passed, a) := (next (reply q s).1 (reply q s).2).follow reply
    (.asked q s (reply q s).1 (reply q s).2 :: passed, a)

theorem course_follow (reply : (request : Request) → σ → request.Reply × σ) (d : Dialogue σ α) :
    d.Course (d.follow reply).1 (d.follow reply).2 := by
  induction d with
  | done a => exact .done
  | note n rest ih => exact .note (ih ())
  | ask q s next ih => exact .ask (ih _ _)

/-- A course whose end is known in part. -/
theorem exists_course_of_follow {reply : (request : Request) → σ → request.Reply × σ}
    {d : Dialogue σ (α × β)} {a : α} (ends : (d.follow reply).2.1 = a) :
    ∃ passed b, d.Course passed (a, b) := by
  subst ends
  exact ⟨_, _, course_follow reply d⟩

/-- To conduct a dialogue is to follow it to the end of a course. -/
theorem conduct_eq_follow (reply : (request : Request) → σ → request.Reply × σ) (d : Dialogue σ α) :
    d.conduct (m := Id) (fun _ => ()) reply = (d.follow reply).2 := by
  induction d with
  | done a => rfl
  | note n rest ih => exact ih ()
  | ask q s next ih => exact ih _ _

namespace Course

theorem done_iff {a b : α} {passed : List (Exchange σ)} :
    Course (.done a) passed b ↔ passed = [] ∧ b = a := by
  constructor
  · intro course
    cases course
    exact ⟨rfl, rfl⟩
  · rintro ⟨rfl, rfl⟩
    exact .done

theorem note_iff {n : Note} {rest : Unit → Dialogue σ α} {passed : List (Exchange σ)} {a : α} :
    Course (.note n rest) passed a ↔
      ∃ later, Course (rest ()) later a ∧ passed = .told n :: later := by
  constructor
  · intro course
    cases course with
    | note later => exact ⟨_, later, rfl⟩
  · rintro ⟨later, course, rfl⟩
    exact .note course

theorem ask_iff {q : Request} {s : σ} {next : q.Reply → σ → Dialogue σ α}
    {passed : List (Exchange σ)} {a : α} :
    Course (.ask q s next) passed a ↔
      ∃ reply t later, Course (next reply t) later a ∧ passed = .asked q s reply t :: later := by
  constructor
  · intro course
    cases course with
    | ask later => exact ⟨_, _, _, later, rfl⟩
  · rintro ⟨reply, t, later, course, rfl⟩
    exact .ask course

theorem bind_iff {d : Dialogue σ α} {f : α → Dialogue σ β} {passed : List (Exchange σ)} {b : β} :
    Course (d.bind f) passed b ↔
      ∃ a first second, Course d first a ∧ Course (f a) second b ∧ passed = first ++ second := by
  induction d generalizing passed with
  | done a =>
      constructor
      · intro course
        exact ⟨a, [], passed, .done, course, rfl⟩
      · rintro ⟨a', first, second, head, tail, rfl⟩
        obtain ⟨rfl, rfl⟩ := done_iff.mp head
        exact tail
  | note n rest ih =>
      simp only [Dialogue.bind, note_iff, ih]
      constructor
      · rintro ⟨_, ⟨a, first, second, head, tail, rfl⟩, rfl⟩
        exact ⟨a, _, second, ⟨first, head, rfl⟩, tail, rfl⟩
      · rintro ⟨a, _, second, ⟨first, head, rfl⟩, tail, rfl⟩
        exact ⟨_, ⟨a, first, second, head, tail, rfl⟩, rfl⟩
  | ask q s next ih =>
      simp only [Dialogue.bind, ask_iff, ih]
      constructor
      · rintro ⟨reply, t, _, ⟨a, first, second, head, tail, rfl⟩, rfl⟩
        exact ⟨a, _, second, ⟨reply, t, first, head, rfl⟩, tail, rfl⟩
      · rintro ⟨a, _, second, ⟨reply, t, first, head, rfl⟩, tail, rfl⟩
        exact ⟨reply, t, _, ⟨a, first, second, head, tail, rfl⟩, rfl⟩

/-- Two courses that begin alike are the same: a dialogue is settled by the replies. -/
theorem unique {d : Dialogue σ α} {first first' rest rest' : List (Exchange σ)} {a a' : α}
    (course : Course d first a) (course' : Course d first' a') (same : first ++ rest = first' ++ rest') :
    first = first' ∧ a = a' := by
  induction course generalizing first' with
  | done =>
      obtain ⟨rfl, rfl⟩ := done_iff.mp course'
      exact ⟨rfl, rfl⟩
  | note _ ih =>
      obtain ⟨later, goes, rfl⟩ := note_iff.mp course'
      obtain ⟨rfl, rfl⟩ := ih goes (List.cons.inj same).2
      exact ⟨rfl, rfl⟩
  | ask _ ih =>
      obtain ⟨reply, t, later, goes, rfl⟩ := ask_iff.mp course'
      obtain ⟨here, there⟩ := List.cons.inj same
      cases here
      obtain ⟨rfl, rfl⟩ := ih goes there
      exact ⟨rfl, rfl⟩

end Course

end Dialogue

/-! ### Parts of the shared state -/

section Parts

variable {σ τ ρ : Type}

/-- An exchange as it looks to an operation on a part of the shared state. -/
def Exchange.onPart (part : σ → τ) : Exchange σ → Exchange τ
  | .told n => .told n
  | .asked q s reply t => .asked q (part s) reply (part t)

/-- `Carries part r passed r'`: the part is `r` at first and `r'` at last, and only the surroundings
change it on the way. -/
def Carries (part : σ → ρ) : ρ → List (Exchange σ) → ρ → Prop
  | r, [], r' => r' = r
  | r, .told _ :: later, r' => Carries part r later r'
  | r, .asked _ s _ t :: later, r' => part s = r ∧ Carries part (part t) later r'

/-- What every exchange does to a carried part, all of them together do. -/
theorem Carries.rel {part : σ → ρ} {R : ρ → ρ → Prop} (refl : ∀ r, R r r)
    (trans : ∀ {a b c}, R a b → R b c → R a c) {r r' : ρ} {passed : List (Exchange σ)}
    (carries : Carries part r passed r')
    (step : ∀ q s reply t, .asked q s reply t ∈ passed → R (part s) (part t)) :
    R r r' ∧ ∀ q s reply t, .asked q s reply t ∈ passed → R r (part s) := by
  induction passed generalizing r with
  | nil =>
      cases carries
      exact ⟨refl _, fun _ _ _ _ mem => nomatch mem⟩
  | cons e later ih =>
      have stepLater : ∀ q s reply t, Exchange.asked q s reply t ∈ later → R (part s) (part t) :=
        fun q s reply t mem => step q s reply t (List.mem_cons_of_mem _ mem)
      cases e with
      | told n =>
          obtain ⟨last, each⟩ := ih carries stepLater
          exact ⟨last, fun q s reply t mem => each q s reply t (by simpa using mem)⟩
      | asked q s reply t =>
          obtain ⟨rfl, carries⟩ := carries
          have first : R (part s) (part t) := step q s reply t List.mem_cons_self
          obtain ⟨last, each⟩ := ih carries stepLater
          refine ⟨trans first last, ?_⟩
          intro q' s' reply' t' mem
          rcases List.mem_cons.mp mem with same | mem
          · cases same
            exact refl _
          · exact trans first (each q' s' reply' t' mem)

theorem Dialogue.Course.embed_iff {α : Type} {join : τ → ρ → σ} {split : σ → τ × ρ}
    (whole : ∀ s, join (split s).1 (split s).2 = s) (parts : ∀ t r, split (join t r) = (t, r))
    {d : Dialogue τ α} {r r' : ρ} {passed : List (Exchange σ)} {a : α} :
    Course (d.embed join split r) passed (a, r') ↔
      Course d (passed.map (.onPart fun s => (split s).1)) a ∧
        Carries (fun s => (split s).2) r passed r' := by
  induction d generalizing passed r with
  | done b =>
      simp only [Dialogue.embed, done_iff, List.map_eq_nil_iff, Prod.mk.injEq]
      constructor
      · rintro ⟨rfl, rfl, rfl⟩
        exact ⟨⟨rfl, rfl⟩, rfl⟩
      · rintro ⟨⟨rfl, rfl⟩, rfl⟩
        exact ⟨rfl, rfl, rfl⟩
  | note n rest ih =>
      simp only [Dialogue.embed, note_iff, ih, List.map_eq_cons_iff]
      constructor
      · rintro ⟨later, ⟨course, carries⟩, rfl⟩
        exact ⟨⟨_, course, .told n, later, rfl, rfl, rfl⟩, carries⟩
      · rintro ⟨⟨_, course, e, later, rfl, told, rfl⟩, carries⟩
        cases e with
        | told m =>
            cases told
            exact ⟨later, ⟨course, carries⟩, rfl⟩
        | asked => cases told
  | ask q u next ih =>
      simp only [Dialogue.embed, ask_iff, ih, List.map_eq_cons_iff]
      constructor
      · rintro ⟨reply, t, later, ⟨course, carries⟩, rfl⟩
        refine ⟨⟨reply, _, _, course, _, later, rfl, ?_, rfl⟩, ?_, carries⟩
        · simp only [Exchange.onPart, parts]
        · simp only [parts]
      · rintro ⟨⟨reply, t, _, course, e, later, rfl, asked, rfl⟩, carries⟩
        cases e with
        | told => cases asked
        | asked q' s reply' s' =>
            cases asked
            obtain ⟨rfl, carries⟩ := carries
            refine ⟨reply, s', later, ⟨course, carries⟩, ?_⟩
            rw [whole]

end Parts

/-! ### Operations -/

/-- `x.Course s passed a t`: started from the shared state `s`, the operation `x` can go along `passed`,
end with `a` and leave `t`. -/
def Operation.Course {σ α : Type} (x : Operation σ α) (s : σ) (passed : List (Exchange σ)) (a : α)
    (t : σ) : Prop :=
  (x s).Course passed (a, t)

namespace Operation.Course

variable {σ α β : Type} {s t : σ} {passed : List (Exchange σ)}

theorem pure_iff {a b : α} :
    (pure a : Operation σ α).Course s passed b t ↔ passed = [] ∧ b = a ∧ t = s := by
  change Dialogue.Course (.done (a, s)) passed (b, t) ↔ _
  simp only [Dialogue.Course.done_iff, Prod.mk.injEq]

theorem bind_iff {x : Operation σ α} {f : α → Operation σ β} {b : β} :
    (x >>= f).Course s passed b t ↔
      ∃ a u first second, x.Course s first a u ∧ (f a).Course u second b t ∧
        passed = first ++ second := by
  change Dialogue.Course ((x s).bind fun p => f p.1 p.2) passed (b, t) ↔ _
  rw [Dialogue.Course.bind_iff, Prod.exists]
  rfl

theorem map_iff {x : Operation σ α} {f : α → β} {b : β} :
    (f <$> x).Course s passed b t ↔ ∃ a, x.Course s passed a t ∧ b = f a := by
  change (x >>= fun a => pure (f a)).Course s passed b t ↔ _
  simp only [bind_iff, pure_iff]
  constructor
  · rintro ⟨a, u, first, second, course, ⟨rfl, rfl, rfl⟩, rfl⟩
    exact ⟨a, by simpa using course, rfl⟩
  · rintro ⟨a, course, rfl⟩
    exact ⟨a, t, passed, [], course, ⟨rfl, rfl, rfl⟩, by simp⟩

theorem update_iff {f : σ → σ} {u : Unit} :
    (update f).Course s passed u t ↔ passed = [] ∧ t = f s := by
  change Dialogue.Course (.done ((), f s)) passed (u, t) ↔ _
  simp only [Dialogue.Course.done_iff, Prod.mk.injEq, true_and]

theorem tell_iff {n : Note} {u : Unit} :
    (tell n : Operation σ Unit).Course s passed u t ↔ passed = [.told n] ∧ t = s := by
  change Dialogue.Course (.note n fun _ => .done ((), s)) passed (u, t) ↔ _
  simp only [Dialogue.Course.note_iff, Dialogue.Course.done_iff, Prod.mk.injEq, true_and]
  constructor
  · rintro ⟨_, ⟨rfl, rfl⟩, rfl⟩
    exact ⟨rfl, rfl⟩
  · rintro ⟨rfl, rfl⟩
    exact ⟨[], ⟨rfl, rfl⟩, rfl⟩

theorem ask_iff {q : Request} {reply : q.Reply} :
    (ask q : Operation σ q.Reply).Course s passed reply t ↔ passed = [.asked q s reply t] := by
  change Dialogue.Course (.ask q s fun reply t => .done (reply, t)) passed (reply, t) ↔ _
  simp only [Dialogue.Course.ask_iff, Dialogue.Course.done_iff, Prod.mk.injEq]
  constructor
  · rintro ⟨_, _, _, ⟨rfl, rfl, rfl⟩, rfl⟩
    rfl
  · rintro rfl
    exact ⟨reply, t, [], ⟨rfl, rfl, rfl⟩, rfl⟩

/-! Most steps are one of four; these laws take the step off the front of an operation. -/

theorem read_bind_iff {f : σ → Operation σ β} {b : β} :
    (read >>= f).Course s passed b t ↔ (f s).Course s passed b t :=
  Iff.rfl

theorem update_bind_iff {g : σ → σ} {f : Unit → Operation σ β} {b : β} :
    (update g >>= f).Course s passed b t ↔ (f ()).Course (g s) passed b t :=
  Iff.rfl

theorem tell_bind_iff {n : Note} {f : Unit → Operation σ β} {b : β} :
    (tell n >>= f).Course s passed b t ↔
      ∃ later, (f ()).Course s later b t ∧ passed = .told n :: later :=
  Dialogue.Course.note_iff

theorem ask_bind_iff {q : Request} {f : q.Reply → Operation σ β} {b : β} :
    (ask q >>= f).Course s passed b t ↔
      ∃ reply u later, (f reply).Course u later b t ∧ passed = .asked q s reply u :: later :=
  Dialogue.Course.ask_iff

theorem embed_iff {τ ρ : Type} {join : τ → ρ → σ} {split : σ → τ × ρ}
    (whole : ∀ s, join (split s).1 (split s).2 = s) (parts : ∀ t r, split (join t r) = (t, r))
    {x : Operation τ α} {a : α} :
    (embed join split x).Course s passed a t ↔
      x.Course (split s).1 (passed.map (.onPart fun s => (split s).1)) a (split t).1 ∧
        Carries (fun s => (split s).2) (split s).2 passed (split t).2 := by
  change Dialogue.Course (((x (split s).1).embed join split (split s).2).bind
    fun ((a, t), r) => .done (a, join t r)) passed (a, t) ↔ _
  simp only [Dialogue.Course.bind_iff, Dialogue.Course.done_iff, Prod.mk.injEq]
  constructor
  · rintro ⟨⟨⟨a, u⟩, r⟩, first, second, course, ⟨rfl, rfl, rfl⟩, rfl⟩
    rw [parts, List.append_nil]
    exact (Dialogue.Course.embed_iff whole parts).mp course
  · rintro ⟨course, carries⟩
    exact ⟨((a, (split t).1), (split t).2), passed, [],
      (Dialogue.Course.embed_iff whole parts).mpr ⟨course, carries⟩,
      ⟨rfl, rfl, (whole t).symm⟩, by simp⟩

/-! ### Operations that can end early -/

section Early

variable {ε : Type} {r : Except ε β}

theorem run_pure_iff {b : β} :
    (ExceptT.run (pure b : ExceptT ε (Operation σ) β)).Course s passed r t ↔
      passed = [] ∧ r = .ok b ∧ t = s :=
  pure_iff

theorem run_throw_iff {e : ε} :
    (ExceptT.run (throw e : ExceptT ε (Operation σ) β)).Course s passed r t ↔
      passed = [] ∧ r = .error e ∧ t = s :=
  pure_iff

theorem run_bind_iff {x : ExceptT ε (Operation σ) α} {f : α → ExceptT ε (Operation σ) β} :
    (ExceptT.run (x >>= f)).Course s passed r t ↔
      (∃ e, x.run.Course s passed (.error e) t ∧ r = .error e) ∨
      ∃ a u first second, x.run.Course s first (.ok a) u ∧ (f a).run.Course u second r t ∧
        passed = first ++ second := by
  rw [ExceptT.run_bind, bind_iff]
  constructor
  · rintro ⟨e | a, u, first, second, head, tail, rfl⟩
    · obtain ⟨rfl, rfl, rfl⟩ := pure_iff.mp tail
      exact .inl ⟨_, by simpa using head, rfl⟩
    · exact .inr ⟨a, u, first, second, head, tail, rfl⟩
  · rintro (⟨e, head, rfl⟩ | ⟨a, u, first, second, head, tail, rfl⟩)
    · exact ⟨.error e, t, passed, [], head, pure_iff.mpr ⟨rfl, rfl, rfl⟩, by simp⟩
    · exact ⟨.ok a, u, first, second, head, tail, rfl⟩

theorem run_perform_iff {x : Operation σ β} :
    (ExceptT.run (perform x : ExceptT ε (Operation σ) β)).Course s passed r t ↔
      ∃ b, x.Course s passed b t ∧ r = .ok b :=
  map_iff

theorem run_perform_bind_iff {x : Operation σ α} {f : α → ExceptT ε (Operation σ) β} :
    (ExceptT.run (perform x >>= f)).Course s passed r t ↔
      ∃ a u first second, x.Course s first a u ∧ (f a).run.Course u second r t ∧
        passed = first ++ second := by
  simp only [run_bind_iff, run_perform_iff]
  constructor
  · rintro (⟨e, ⟨b, _, impossible⟩, _⟩ | ⟨_, u, first, second, ⟨a, head, same⟩, tail, rfl⟩)
    · cases impossible
    · cases same
      exact ⟨_, u, first, second, head, tail, rfl⟩
  · rintro ⟨a, u, first, second, head, tail, rfl⟩
    exact .inr ⟨a, u, first, second, ⟨a, head, rfl⟩, tail, rfl⟩

theorem run_read_bind_iff {f : σ → ExceptT ε (Operation σ) β} :
    (ExceptT.run (perform read >>= f)).Course s passed r t ↔ (f s).run.Course s passed r t :=
  Iff.rfl

theorem run_update_bind_iff {g : σ → σ} {f : Unit → ExceptT ε (Operation σ) β} :
    (ExceptT.run (perform (update g) >>= f)).Course s passed r t ↔
      (f ()).run.Course (g s) passed r t :=
  Iff.rfl

theorem run_tell_bind_iff {n : Note} {f : Unit → ExceptT ε (Operation σ) β} :
    (ExceptT.run (perform (tell n) >>= f)).Course s passed r t ↔
      ∃ later, (f ()).run.Course s later r t ∧ passed = .told n :: later :=
  Dialogue.Course.note_iff

theorem run_ask_bind_iff {q : Request} {f : q.Reply → ExceptT ε (Operation σ) β} :
    (ExceptT.run (perform (ask q) >>= f)).Course s passed r t ↔
      ∃ reply u later, (f reply).run.Course u later r t ∧ passed = .asked q s reply u :: later :=
  Dialogue.Course.ask_iff

/-- A call of the target, of which a failure is wrapped into a reason to end. -/
theorem run_call_iff (wrap : RemoteFailure → ε) {c : Call} {r : Except ε c.Answer} :
    (ExceptT.run (do
      match ← perform (σ := σ) (.call c) with
      | .ok answer => return answer
      | .error failure => throw (wrap failure))).Course s passed r t ↔
      ∃ answer, passed = [.asked (.call c) s answer t] ∧ r = answer.mapError wrap := by
  refine run_ask_bind_iff.trans ?_
  constructor
  · rintro ⟨answer, u, later, course, rfl⟩
    cases answer with
    | ok answer =>
        obtain ⟨rfl, rfl, rfl⟩ := run_pure_iff.mp course
        exact ⟨.ok answer, rfl, rfl⟩
    | error failure =>
        obtain ⟨rfl, rfl, rfl⟩ := run_throw_iff.mp course
        exact ⟨.error failure, rfl, rfl⟩
  · rintro ⟨answer, rfl, rfl⟩
    refine ⟨answer, t, [], ?_, rfl⟩
    cases answer with
    | ok answer => exact run_pure_iff.mpr ⟨rfl, rfl, rfl⟩
    | error failure => exact run_throw_iff.mpr ⟨rfl, rfl, rfl⟩

end Early

end Operation.Course

end RemoteDebug
