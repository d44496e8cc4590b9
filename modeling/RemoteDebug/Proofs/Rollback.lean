import RemoteDebug.Proofs.Aftermath
import RemoteDebug.Proofs.Coherence
import RemoteDebug.Proofs.Evaluation
import RemoteDebug.Proofs.Pending

/-!
Steps that fail.

A step is entered in the model between two calls: after its request was granted and before its thread is
resumed. If the thread cannot be resumed the entry is taken back, which leaves the thread suspended.

* `Target.StepFails` lists the ways in which a step fails, with what passes and the model that is left.
* `Target.Strands` is the one case in which a failed step changes the model: its thread was running, and
  taking the step back suspends it. `failed_step` says that every other failed step leaves the model as it
  was.
-/

namespace RemoteDebug.Target

open Operation

/-! ### Entering a step and taking it back -/

/-- The model with a step entered for a thread. -/
def entered (target : Target) (handle : ThreadRef) (step : PendingStep) : Target :=
  { target with threads := target.threads.modify handle (·.startStep step) }

/-- The model with the step of a thread taken back. -/
def withdrawn (target : Target) (handle : ThreadRef) : Target :=
  { target with threads := target.threads.modify handle fun t =>
    { t with pendingStep := none, status := .suspended } }

/-- The model with the record of one thread set to suspended. -/
def halted (target : Target) (handle : ThreadRef) : Target :=
  { target with threads := target.threads.modify handle fun t => { t with status := .suspended } }

section Records

variable {target : Target} {handle : ThreadRef} {thread : Thread}

/-- What is found by a handle in a sound registry stands for all records of the handle. -/
theorem Sound.eq_of_known (sound : target.Sound) (known : target.threads.get? handle = some thread) :
    ∀ other ∈ target.threads.threads, other.handle = handle → other = thread := by
  intro other mem same
  subst same
  exact Option.some.inj ((sound.ordered.get?_of_mem mem).symm.trans known)

/-- A step that is entered and taken back leaves no trace but the status. -/
theorem withdrawn_entered (sound : target.Sound) (known : target.threads.get? handle = some thread)
    (idle : thread.pendingStep = none) (step : PendingStep) :
    (target.entered handle step).withdrawn handle = target.halted handle := by
  have same : (target.threads.modify handle (·.startStep step)).modify handle
        (fun t => { t with pendingStep := none, status := .suspended }) =
      target.threads.modify handle fun t => { t with status := .suspended } := by
    rw [ThreadRegistry.modify_modify fun thread => show (thread.startStep step).handle = thread.handle from rfl]
    refine ThreadRegistry.modify_congr fun other mem here => ?_
    rw [sound.eq_of_known known other mem here]
    simp only [Function.comp_apply, Thread.startStep, idle]
  simp only [withdrawn, entered, halted, same]

theorem halted_of_suspended (sound : target.Sound) (known : target.threads.get? handle = some thread)
    (suspended : thread.status = .suspended) : target.halted handle = target := by
  have same : target.threads.modify handle (fun t => { t with status := .suspended }) = target.threads := by
    refine ThreadRegistry.modify_eq_self fun other mem here => ?_
    rw [sound.eq_of_known known other mem here, ← suspended]
  rw [halted, same]

theorem halted_ne_of_running (known : target.threads.get? handle = some thread)
    (running : thread.status = .running) : target.halted handle ≠ target := by
  intro same
  have found : (target.halted handle).threads.get? handle = some { thread with status := .suspended } :=
    ThreadRegistry.get?_modify (fun _ => rfl) known
  rw [same, known] at found
  have status : thread.status = .suspended := congrArg Thread.status (Option.some.inj found)
  cases running.symm.trans status

end Records

/-! ### The ways to fail -/

/-- What is told if the request of a step that is taken back cannot be deleted. -/
def withdrawalRemarks {σ : Type} : Except RemoteFailure Unit → List (Exchange σ)
  | .ok () => []
  | .error failure => [.told (.log (.stepRollback failure))]

/-- `StepFails target handle kind passed fault target'`: the step fails along `passed` with `fault` and
leaves `target'`. -/
inductive StepFails (target : Target) (handle : ThreadRef) (kind : StepKind) :
    List (Exchange Target) → Fault → Target → Prop where
  | gone : target.isTerminated = true → StepFails target handle kind [] .targetTerminated target
  | unknown : target.isTerminated = false → target.threads.get? handle = none →
      StepFails target handle kind [] (.threadNotFound handle) target
  | busy {thread : Thread} : target.isTerminated = false → target.threads.get? handle = some thread →
      thread.isStepping = true → StepFails target handle kind [] (.alreadyStepping handle) target
  /-- The request is refused. -/
  | refused {thread : Thread} {failure : RemoteFailure} {after : Target} : target.isTerminated = false →
      target.threads.get? handle = some thread → thread.isStepping = false →
      StepFails target handle kind [.asked (.call (.requestStep handle kind)) target (.error failure) after]
        (.remote failure) after
  /-- The request is granted, but the thread is not resumed. -/
  | stuck {thread : Thread} {request : RequestRef} {failure : RemoteFailure} {answer : Except RemoteFailure Unit}
      {granted waited after : Target} : target.isTerminated = false →
      target.threads.get? handle = some thread → thread.isStepping = false →
      StepFails target handle kind
        (.asked (.call (.requestStep handle kind)) target (.ok request) granted ::
          .told (.log (.stepRequested kind handle request)) ::
          .asked (.call (.resume handle)) (granted.entered handle ⟨kind, request⟩) (.error failure) waited ::
          .asked (.call (.deleteRequest request)) (waited.withdrawn handle) answer after ::
          withdrawalRemarks answer)
        (.remote failure) after

section Failing

variable {target target' : Target} {handle : ThreadRef} {kind : StepKind} {passed : List (Exchange Target)}
  {fault : Fault}

theorem ensureAlive_bind_of_alive {α : Type} {f : Unit → Attempt Target α}
    (alive : target.isTerminated = false) :
    (ExceptT.run (ensureAlive >>= f)) target = (f ()).run target := by
  have granted : ensureAlive.run target = .done (.ok (), target) := by
    change (if target.isTerminated then _ else _ : Attempt Target Unit).run target = _
    rw [alive]
    rfl
  rw [ExceptT.run_bind]
  change Dialogue.bind (ensureAlive.run target) _ = _
  rw [granted]
  rfl

theorem rollback_iff {request : RequestRef} {u : Unit} :
    (rollback handle request).Course target passed u target' ↔
      ∃ answer, passed = .asked (.call (.deleteRequest request)) (target.withdrawn handle) answer target' ::
        withdrawalRemarks answer := by
  refine Course.update_bind_iff.trans (Course.ask_bind_iff.trans ?_)
  constructor
  · rintro ⟨answer, after, later, rest, rfl⟩
    cases answer with
    | ok u =>
        obtain ⟨rfl, -, rfl⟩ := Course.pure_iff.mp rest
        exact ⟨.ok u, rfl⟩
    | error failure =>
        obtain ⟨rfl, rfl⟩ := Course.tell_iff.mp rest
        exact ⟨.error failure, rfl⟩
  · rintro ⟨answer, rfl⟩
    refine ⟨answer, target', withdrawalRemarks answer, ?_, rfl⟩
    cases answer with
    | ok u => exact Course.pure_iff.mpr ⟨rfl, rfl, rfl⟩
    | error failure => exact Course.tell_iff.mpr ⟨rfl, rfl⟩

/-- A step that is granted and fails was not resumed. -/
theorem StepFails.of_granted {thread : Thread} {request : RequestRef} {granted : Target}
    (alive : target.isTerminated = false) (known : target.threads.get? handle = some thread)
    (idle : thread.isStepping = false)
    (course : (ExceptT.run (do
      perform (updateThreads (·.modify handle (·.startStep ⟨kind, request⟩)))
      perform (.log (.stepRequested kind handle request))
      match ← perform (.call (.resume handle)) with
      | .ok _ => perform (setStatus .running)
      | .error failure =>
        perform (rollback handle request)
        throw (.remote failure) : Attempt Target Unit)).Course granted passed (.error fault) target') :
    StepFails target handle kind
      (.asked (.call (.requestStep handle kind)) target (.ok request) granted :: passed) fault target' := by
  obtain ⟨_, told, rfl⟩ := Course.run_tell_bind_iff.mp (Course.run_update_bind_iff.mp course)
  obtain ⟨reply, waited, later, goes, rfl⟩ := Course.run_ask_bind_iff.mp told
  cases reply with
  | ok u =>
      obtain ⟨_, -, impossible⟩ := Course.run_perform_iff.mp goes
      cases impossible
  | error failure =>
      obtain ⟨_, after, first, last, takes, fails, rfl⟩ := Course.run_perform_bind_iff.mp goes
      obtain ⟨rfl, same, rfl⟩ := Course.run_throw_iff.mp fails
      obtain ⟨answer, rfl⟩ := rollback_iff.mp takes
      cases same
      rw [List.append_nil]
      exact .stuck alive known idle

/-- A step fails in one of five ways. -/
theorem step_fails (course : (step handle kind).run.Course target passed (.error fault) target') :
    StepFails target handle kind passed fault target' := by
  unfold Operation.Course step at course
  cases alive : target.isTerminated with
  | true =>
      rw [ensureAlive_bind_of_gone alive] at course
      obtain ⟨rfl, same⟩ := Dialogue.Course.done_iff.mp course
      cases same
      exact .gone alive
  | false =>
      rw [ensureAlive_bind_of_alive alive] at course
      have course := Course.run_read_bind_iff.mp course
      cases known : target.threads.get? handle with
      | none =>
          rw [known] at course
          obtain ⟨rfl, same, rfl⟩ := Course.run_throw_iff.mp course
          cases same
          exact .unknown alive known
      | some thread =>
          rw [known] at course
          cases idle : thread.isStepping with
          | true =>
              simp only [idle, if_true] at course
              obtain ⟨rfl, same, rfl⟩ := Course.run_throw_iff.mp course
              cases same
              exact .busy alive known idle
          | false =>
              simp only [idle, Bool.false_eq_true, if_false] at course
              rcases Attempt.call_bind_iff.mp course with
                ⟨failure, rfl, same⟩ | ⟨request, granted, later, starts, rfl⟩
              · cases same
                exact .refused alive known idle
              · exact .of_granted alive known idle starts

end Failing

/-! ### The result -/

/-- The thread was not resumed for its step. -/
def Stays (handle : ThreadRef) (passed : List (Exchange Target)) : Prop :=
  ∃ s failure t, .asked (.call (.resume handle)) s (.error failure) t ∈ passed

/-- A failed step leaves the model alone, or it leaves its thread suspended that was not resumed. -/
theorem StepFails.left {target target' : Target} {handle : ThreadRef} {kind : StepKind}
    {passed : List (Exchange Target)} {fault : Fault} (fails : StepFails target handle kind passed fault target')
    (sound : target.Sound) (alone : ∀ e ∈ passed, e.LeavesAlone id) :
    ¬ Stays handle passed ∧ target' = target ∨
      Stays handle passed ∧ target' = target.halted handle ∧
        ∃ thread, target.threads.get? handle = some thread ∧ thread.isStepping = false := by
  cases fails with
  | gone | unknown | busy => exact .inl ⟨fun ⟨_, _, _, mem⟩ => (nomatch mem), rfl⟩
  | refused => exact .inl ⟨fun ⟨_, _, _, mem⟩ => by simp at mem, alone _ List.mem_cons_self⟩
  | @stuck thread request failure answer granted waited after alive known idle =>
      simp only [List.forall_mem_cons, Exchange.LeavesAlone, id, true_and] at alone
      obtain ⟨rfl, rfl, rfl, -⟩ := alone
      refine .inr ⟨⟨_, failure, _, .tail _ (.tail _ (.head _))⟩, ?_, thread, known, idle⟩
      exact withdrawn_entered sound known (by simpa [Thread.isStepping] using idle) _

/-- A running thread was not resumed for its step. -/
def Strands (target : Target) (handle : ThreadRef) (passed : List (Exchange Target)) : Prop :=
  Stays handle passed ∧ ∃ thread, target.threads.get? handle = some thread ∧ thread.status = .running

/-- A failed step leaves the model as it was, with one exception: a thread that was running is suspended in
the model if the target does not resume it for its step. -/
theorem failed_step {name : String} {target target' : Target} {handle : ThreadRef} {kind : StepKind}
    {passed : List (Exchange Target)} {fault : Fault} (reached : Reaches { name } target)
    (course : (step handle kind).run.Course target passed (.error fault) target')
    (alone : ∀ e ∈ passed, e.LeavesAlone id) :
    (¬ Strands target handle passed → target' = target) ∧
      (Strands target handle passed → target' = target.halted handle ∧ target' ≠ target) := by
  have sound : target.Sound := reached.sound .empty
  rcases (step_fails course).left sound alone with ⟨moves, rfl⟩ | ⟨stays, rfl, thread, known, idle⟩
  · exact ⟨fun _ => rfl, fun strands => absurd strands.1 moves⟩
  · have coherent := sound.coherent thread (ThreadRegistry.get?_eq_some known).1
    cases status : thread.status with
    | running =>
        refine ⟨fun spared => absurd ⟨stays, thread, known, status⟩ spared, fun _ => ⟨rfl, ?_⟩⟩
        exact halted_ne_of_running known status
    | suspended =>
        refine ⟨fun _ => halted_of_suspended sound known status, ?_⟩
        rintro ⟨-, other, found, running⟩
        cases known.symm.trans found
        cases status.symm.trans running
    | stepping => exact absurd (coherent.stepping_iff.mp status) (by simp [idle])
    | terminated => exact absurd status coherent.alive

/-! ### Steps to look at -/

namespace Rollback.Sample

/-- The model after the target with two threads was resumed. -/
def resumed : Target :=
  { Target.Sample.started with
    status := .running
    threads := Target.Sample.started.threads.setStatusAll .running }

theorem reaches_resumed : Reaches Target.Sample.fresh resumed := by
  have course : Control.resume.attempt.run.Course Target.Sample.started [
      .asked (.call .resumeAll) Target.Sample.started (.ok ()) Target.Sample.started,
      .told (.log (.statusSet "sample" .running))] (.ok ()) resumed :=
    .ask (.note .done)
  refine .act (.control .resume) Target.Sample.reaches_started ⟨_, course⟩ ?_
  intro q s reply t mem
  simp only [List.mem_cons, List.not_mem_nil, or_false, reduceCtorEq] at mem
  cases mem
  exact .refl

/-- The model after a step that was entered and taken back. -/
def back (target : Target) : Target := (target.entered ⟨1⟩ ⟨.over, ⟨501⟩⟩).withdrawn ⟨1⟩

/-- What passes when a step is granted, its thread is not resumed and its request is deleted. -/
def passed (target : Target) : List (Exchange Target) := [
  .asked (.call (.requestStep ⟨1⟩ .over)) target (.ok ⟨501⟩) target,
  .told (.log (.stepRequested .over ⟨1⟩ ⟨501⟩)),
  .asked (.call (.resume ⟨1⟩)) (target.entered ⟨1⟩ ⟨.over, ⟨501⟩⟩) (.error (.notSupported "resume"))
    (target.entered ⟨1⟩ ⟨.over, ⟨501⟩⟩),
  .asked (.call (.deleteRequest ⟨501⟩)) (back target) (.ok ()) (back target)]

theorem alone (target : Target) : ∀ e ∈ passed target, e.LeavesAlone id := by
  simp [passed, Exchange.LeavesAlone]

theorem fails_started : (step ⟨1⟩ .over).run.Course Target.Sample.started (passed Target.Sample.started)
    (.error (.remote (.notSupported "resume"))) (back Target.Sample.started) :=
  .ask (.note (.ask (.ask .done)))

theorem fails_resumed : (step ⟨1⟩ .over).run.Course resumed (passed resumed)
    (.error (.remote (.notSupported "resume"))) (back resumed) :=
  .ask (.note (.ask (.ask .done)))

end Rollback.Sample

open Rollback.Sample in
/-- A suspended thread is left as it was. -/
theorem failed_step_suspended :
    Reaches { name := "sample" } Sample.started ∧
      (step ⟨1⟩ .over).run.Course Sample.started (passed Sample.started)
        (.error (.remote (.notSupported "resume"))) (back Sample.started) ∧
      (∀ e ∈ passed Sample.started, e.LeavesAlone id) ∧
      ¬ Strands Sample.started ⟨1⟩ (passed Sample.started) ∧ back Sample.started = Sample.started := by
  have spared : ¬ Strands Sample.started ⟨1⟩ (passed Sample.started) := by
    rintro ⟨-, thread, found, running⟩
    cases found
    cases running
  refine ⟨Sample.reaches_started, fails_started, alone _, spared, ?_⟩
  exact (failed_step Sample.reaches_started fails_started (alone _)).1 spared

open Rollback.Sample in
/-- The target refuses to resume a running thread for its step, and the model says that it is suspended. -/
theorem failed_step_strands :
    Reaches { name := "sample" } resumed ∧
      (step ⟨1⟩ .over).run.Course resumed (passed resumed) (.error (.remote (.notSupported "resume")))
        (back resumed) ∧
      (∀ e ∈ passed resumed, e.LeavesAlone id) ∧
      resumed.threads.get? ⟨1⟩ = some ⟨1, ⟨1⟩, .running, none, none⟩ ∧
      (back resumed).threads.get? ⟨1⟩ = some ⟨1, ⟨1⟩, .suspended, none, none⟩ ∧ back resumed ≠ resumed :=
  ⟨reaches_resumed, fails_resumed, alone _, rfl, rfl, by decide⟩

end RemoteDebug.Target
