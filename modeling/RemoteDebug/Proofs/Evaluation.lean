import RemoteDebug.Interpreter
import RemoteDebug.Proofs.Course

/-!
Courses of evaluations.

An evaluation is an operation that also works on a machine and can fail. `Evaluation.Course` says how one
can go, the `_iff` laws take it apart along the text of the evaluation. `loop_of_some` brings the loop of
the interpreter into a form in which what follows an instruction has a name of its own.
-/

namespace RemoteDebug

theorem Attempt.call_iff {σ : Type} {s t : σ} {passed : List (Exchange σ)} {c : Call}
    {r : Except Fault c.Answer} :
    (Attempt.call c).run.Course s passed r t ↔
      ∃ answer, passed = [.asked (.call c) s answer t] ∧ r = answer.mapError .remote :=
  Operation.Course.run_call_iff Fault.remote

/-- What follows a call is the rest of the attempt, or nothing if the call fails. -/
theorem Attempt.call_bind_iff {σ β : Type} {s t : σ} {passed : List (Exchange σ)} {c : Call}
    {f : c.Answer → Attempt σ β} {r : Except Fault β} :
    (ExceptT.run (Attempt.call c >>= f)).Course s passed r t ↔
      (∃ failure, passed = [.asked (.call c) s (.error failure) t] ∧ r = .error (.remote failure)) ∨
      ∃ answer u later, (f answer).run.Course u later r t ∧
        passed = .asked (.call c) s (.ok answer) u :: later := by
  rw [Operation.Course.run_bind_iff]
  constructor
  · rintro (⟨fault, called, rfl⟩ | ⟨a, u, _, later, called, goes, rfl⟩)
    · obtain ⟨failure | answer, rfl, same⟩ := call_iff.mp called
      · cases same
        exact .inl ⟨_, rfl, rfl⟩
      · cases same
    · obtain ⟨failure | answer, rfl, same⟩ := call_iff.mp called
      · cases same
      · cases same
        exact .inr ⟨_, u, later, goes, rfl⟩
  · rintro (⟨failure, rfl, rfl⟩ | ⟨answer, u, later, goes, rfl⟩)
    · exact .inl ⟨_, call_iff.mpr ⟨.error failure, rfl, rfl⟩, rfl⟩
    · exact .inr ⟨answer, u, [_], later, call_iff.mpr ⟨.ok answer, rfl, rfl⟩, goes, rfl⟩

namespace Evaluation

variable {α β : Type}

/-- `x.Course m s passed r m' t`: started on the machine `m` under the flag `s`, the evaluation `x` can go
along `passed`, end with `r` and leave the machine `m'` and the flag `t`. -/
def Course (x : Evaluation α) (m : Machine) (s : Bool) (passed : List (Exchange Bool))
    (r : Except Fault α) (m' : Machine) (t : Bool) : Prop :=
  (x.run.run m).Course s passed (r, m') t

variable {m m' : Machine} {s t : Bool} {passed : List (Exchange Bool)} {r : Except Fault β}

theorem pure_iff {b : β} :
    Course (pure b) m s passed r m' t ↔ passed = [] ∧ r = .ok b ∧ m' = m ∧ t = s := by
  refine (Operation.Course.pure_iff (σ := Bool) (a := (Except.ok b, m)) (b := (r, m'))).trans ?_
  simp [and_assoc]

theorem throw_iff {fault : Fault} :
    Course (throw fault : Evaluation β) m s passed r m' t ↔
      passed = [] ∧ r = .error fault ∧ m' = m ∧ t = s := by
  refine (Operation.Course.pure_iff (σ := Bool) (a := (Except.error fault, m)) (b := (r, m'))).trans ?_
  simp [and_assoc]

/-- An evaluation goes on with the machine that its first part leaves. -/
theorem run_bind (x : Evaluation α) (f : α → Evaluation β) (m : Machine) :
    ((x >>= f).run.run m : Operation Bool (Except Fault β × Machine)) =
      (x.run.run m : Operation Bool (Except Fault α × Machine)) >>= fun p =>
        match p.1 with
        | .ok a => (f a).run.run p.2
        | .error fault => pure (.error fault, p.2) := by
  rw [ExceptT.run_bind, StateT.run_bind]
  congr 1
  funext p
  obtain ⟨fault | a, n⟩ := p
  · rfl
  · rfl

theorem bind_iff {x : Evaluation α} {f : α → Evaluation β} :
    Course (x >>= f) m s passed r m' t ↔
      (∃ fault, Course x m s passed (.error fault) m' t ∧ r = .error fault) ∨
      ∃ a n u first second, Course x m s first (.ok a) n u ∧ Course (f a) n u second r m' t ∧
        passed = first ++ second := by
  unfold Course
  rw [run_bind, Operation.Course.bind_iff]
  constructor
  · rintro ⟨⟨fault | a, n⟩, u, first, second, head, tail, rfl⟩
    · obtain ⟨rfl, same, rfl⟩ := Operation.Course.pure_iff.mp tail
      cases same
      exact .inl ⟨fault, by simpa using head, rfl⟩
    · exact .inr ⟨a, n, u, first, second, head, tail, rfl⟩
  · rintro (⟨fault, head, rfl⟩ | ⟨a, n, u, first, second, head, tail, rfl⟩)
    · exact ⟨(.error fault, m'), t, passed, [], head, Operation.Course.pure_iff.mpr ⟨rfl, rfl, rfl⟩,
        by simp⟩
    · exact ⟨(.ok a, n), u, first, second, head, tail, rfl⟩

theorem get_iff {r : Except Fault Machine} :
    Course get m s passed r m' t ↔ passed = [] ∧ r = .ok m ∧ m' = m ∧ t = s := by
  refine (Operation.Course.pure_iff (σ := Bool) (a := (Except.ok m, m)) (b := (r, m'))).trans ?_
  simp [and_assoc]

theorem get_bind_iff {f : Machine → Evaluation β} :
    Course (get >>= f) m s passed r m' t ↔ Course (f m) m s passed r m' t :=
  Iff.rfl

theorem modify_iff {g : Machine → Machine} {r : Except Fault Unit} :
    Course (modify g) m s passed r m' t ↔ passed = [] ∧ r = .ok () ∧ m' = g m ∧ t = s := by
  refine (Operation.Course.pure_iff (σ := Bool) (a := (Except.ok (), g m)) (b := (r, m'))).trans ?_
  simp [and_assoc]

theorem attempt_iff {x : Attempt Bool β} :
    Course (attempt x) m s passed r m' t ↔ x.run.Course s passed r t ∧ m' = m := by
  refine (Operation.Course.bind_iff (x := x.run)
    (f := fun a => (pure (a, m) : Operation Bool (Except Fault β × Machine)))).trans ?_
  simp only [Operation.Course.pure_iff]
  constructor
  · rintro ⟨a, u, first, second, head, ⟨rfl, same, rfl⟩, rfl⟩
    cases same
    exact ⟨by simpa using head, rfl⟩
  · rintro ⟨head, rfl⟩
    exact ⟨r, t, passed, [], head, ⟨rfl, rfl, rfl⟩, by simp⟩

theorem call_iff {c : Call} {r : Except Fault c.Answer} :
    Course (call c) m s passed r m' t ↔
      ∃ answer, passed = [.asked (.call c) s answer t] ∧ r = answer.mapError .remote ∧ m' = m := by
  refine attempt_iff.trans ?_
  simp only [Attempt.call_iff, exists_and_right, ← and_assoc]

theorem call_bind_iff {c : Call} {f : c.Answer → Evaluation β} :
    Course (call c >>= f) m s passed r m' t ↔
      (∃ failure, passed = [.asked (.call c) s (.error failure) t] ∧ r = .error (.remote failure) ∧
        m' = m) ∨
      ∃ answer u later, Course (f answer) m u later r m' t ∧
        passed = .asked (.call c) s (.ok answer) u :: later := by
  rw [bind_iff]
  constructor
  · rintro (⟨fault, called, rfl⟩ | ⟨a, n, u, _, later, called, goes, rfl⟩)
    · obtain ⟨failure | answer, rfl, same, rfl⟩ := call_iff.mp called
      · cases same
        exact .inl ⟨_, rfl, rfl, rfl⟩
      · cases same
    · obtain ⟨failure | answer, rfl, same, rfl⟩ := call_iff.mp called
      · cases same
      · cases same
        exact .inr ⟨_, u, later, goes, rfl⟩
  · rintro (⟨failure, rfl, rfl, rfl⟩ | ⟨answer, u, later, goes, rfl⟩)
    · exact .inl ⟨_, call_iff.mpr ⟨.error failure, rfl, rfl, rfl⟩, rfl⟩
    · exact .inr ⟨answer, m, u, [_], later, call_iff.mpr ⟨.ok answer, rfl, rfl, rfl⟩, goes, rfl⟩

theorem compute_iff {x : Except Fault β} :
    Course (compute x) m s passed r m' t ↔ passed = [] ∧ r = x ∧ m' = m ∧ t = s := by
  cases x with
  | ok b => exact pure_iff
  | error fault => exact throw_iff

theorem mayRun_bind_iff {f : Bool → Evaluation β} :
    Course (mayRun >>= f) m s passed r m' t ↔ Course (f s) m s passed r m' t :=
  Iff.rfl

theorem log_iff {entry : LogEntry} {r : Except Fault Unit} :
    Course (log entry) m s passed r m' t ↔
      passed = [.told (.log entry)] ∧ r = .ok () ∧ m' = m ∧ t = s := by
  refine attempt_iff.trans ?_
  rw [Operation.Course.run_perform_iff]
  constructor
  · rintro ⟨⟨u, told, rfl⟩, rfl⟩
    obtain ⟨rfl, rfl⟩ := Operation.Course.tell_iff.mp told
    exact ⟨rfl, rfl, rfl, rfl⟩
  · rintro ⟨rfl, rfl, rfl, rfl⟩
    exact ⟨⟨(), Operation.Course.tell_iff.mpr ⟨rfl, rfl⟩, rfl⟩, rfl⟩

theorem log_bind_iff {entry : LogEntry} {f : Unit → Evaluation β} :
    Course (log entry >>= f) m s passed r m' t ↔
      ∃ later, Course (f ()) m s later r m' t ∧ passed = .told (.log entry) :: later :=
  Dialogue.Course.note_iff

theorem Course.unique {x : Evaluation β} {first first' rest rest' : List (Exchange Bool)}
    {r r' : Except Fault β} {u u' : Machine} {t t' : Bool} (course : Course x m s first r u t)
    (course' : Course x m s first' r' u' t') (same : first ++ rest = first' ++ rest') :
    first = first' ∧ r = r' ∧ u = u' ∧ t = t' := by
  obtain ⟨rfl, ends⟩ := Dialogue.Course.unique course course' same
  cases ends
  exact ⟨rfl, rfl, rfl, rfl⟩

/-- Where the course of the first part is known, the rest is a course of the second part. -/
theorem Course.tail {x : Evaluation α} {f : α → Evaluation β} {a : α} {u : Machine} {v : Bool}
    {first rest : List (Exchange Bool)} (head : Course x m s first (.ok a) u v)
    (course : Course (x >>= f) m s (first ++ rest) r m' t) : Course (f a) u v rest r m' t := by
  rcases bind_iff.mp course with ⟨fault, fails, -⟩ | ⟨a', u', v', first', rest', head', tail, split⟩
  · obtain ⟨-, impossible, -⟩ := head.unique fails (List.append_nil _).symm
    cases impossible
  · obtain ⟨rfl, same, rfl, rfl⟩ := head.unique head' split
    cases same
    rw [List.append_cancel_left split]
    exact tail

/-! ### The loop -/

/-- What follows an instruction at a position. -/
def follow (scope : Scope) (program : Program) (fuel position : Nat) : Flow → Evaluation Outcome
  | .next => loop scope program fuel (position + 1)
  | .jump offset => do
    let target ← compute (jumpTarget position offset program.length)
    loop scope program fuel target
  | .return => return .completed (← result scope)

theorem loop_of_some {scope : Scope} {program : Program} {instruction : Instruction}
    {position fuel : Nat} (found : program[position]? = some instruction) :
    loop scope program (fuel + 1) position = do
      if ← mayRun then
        log (.instruction position instruction)
        follow scope program fuel position (← execute scope instruction)
      else
        log (.stoppedBefore position)
        return .cancelled := by
  rw [loop, found]
  dsimp only
  congr 1
  funext running
  cases running with
  | false => rfl
  | true =>
      simp only [Bool.not_true, Bool.false_eq_true, if_false, if_true]
      congr 1

theorem loop_of_none {scope : Scope} {program : Program} {position fuel : Nat}
    (ended : program[position]? = none) :
    loop scope program (fuel + 1) position = do return .completed (← result scope) := by
  rw [loop, ended]

end Evaluation

end RemoteDebug
