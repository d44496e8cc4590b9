import RemoteDebug.Proofs.Keeping
import RemoteDebug.Proofs.TargetEnd

/-!
What can be done to the model of a target.

* `Target.Act` is whatever can be done to a model: its handlers apply events, its controls carry out the
  wishes of a user, and the focus can be moved.
* `Target.Change` lists the single changes that acts are made of, short of the end of the target.
  A condition that all of them keep is `Target.Stable`, and acts keep it (`Handler.keeps`,
  `Control.keeps`, `setFocus_keeps`).
* `Target.Reaches` joins acts to histories. Acts may run into each other: while one waits for the target
  or for the hook, others change the model under it.
-/

namespace RemoteDebug.Target

open Operation

/-! ### Acts -/

/-- The handlers of events. -/
inductive Handler where
  | vmStart (thread : ThreadRef)
  | vmDeath
  | vmDisconnect
  | threadStart (thread : ThreadRef)
  | threadDeath (thread : ThreadRef)
  | classLoad (thread : ThreadRef) (type : TypeRef) (name : String)
  | stepDone (thread : ThreadRef) (location : Location)
  | resumeThread (thread : ThreadRef)

/-- The target is gone for good. -/
def Handler.isEnd : Handler → Bool
  | .vmDeath | .vmDisconnect => true
  | _ => false

/-- A handler at work. -/
def Handler.handling : Handler → Handling Target Unit
  | .vmStart thread => Target.vmStart thread
  | .vmDeath => Target.vmDeath
  | .vmDisconnect => Target.vmDisconnect
  | .threadStart thread => Target.threadStart thread
  | .threadDeath thread => Target.threadDeath thread
  | .classLoad thread type name => Target.classLoad thread type name
  | .stepDone thread location => Target.stepDone thread location
  | .resumeThread thread => Target.resumeThread thread

/-- The wishes of a user. -/
inductive Control where
  | resume
  | suspend
  | step (thread : ThreadRef) (kind : StepKind)
  | terminate (exitCode : Int32)

/-- A control at work. -/
def Control.attempt : Control → Attempt Target Unit
  | .resume => Target.resume
  | .suspend => Target.suspend
  | .step thread kind => Target.step thread kind
  | .terminate exitCode => Target.terminate exitCode

/-- Whatever can be done to a model. -/
inductive Act where
  | handle (handler : Handler)
  | control (wish : Control)
  | focus (thread : ThreadRef)

/-- The courses that an act can take, to a good or a bad end. -/
def Act.Course (act : Act) (before : Target) (passed : List (Exchange Target)) (after : Target) :
    Prop :=
  match act with
  | .handle handler => ∃ r, handler.handling.run.Course before passed r after
  | .control wish => ∃ r, wish.attempt.run.Course before passed r after
  | .focus thread => ∃ r, (setFocus thread).run.Course before passed r after

/-- `start.Reaches target`: acts in sequence lead from `start` to `target`. While an act waits, others
may act in the same way; what is handed over to them is reached as well. -/
inductive Reaches : Target → Target → Prop where
  | refl {target : Target} : Reaches target target
  | act {start before after : Target} {passed : List (Exchange Target)} (act : Act) :
      Reaches start before → act.Course before passed after →
      (∀ q s reply t, .asked q s reply t ∈ passed → Reaches s t) → Reaches start after
  | waiting {start before after here there : Target} {passed : List (Exchange Target)} {q : Request}
      {reply : q.Reply} (act : Act) :
      Reaches start before → act.Course before passed after →
      (∀ q s reply t, .asked q s reply t ∈ passed → Reaches s t) →
      .asked q here reply there ∈ passed → Reaches start here

/-! ### Changes -/

/-- A single change of a model, other than its end. -/
inductive Change : Target → Target → Prop where
  | register {target : Target} (handle : ThreadRef) :
      Change target { target with threads := target.threads.register handle }
  | remove {target : Target} (handle : ThreadRef) :
      Change target { target with threads := target.threads.remove handle }
  | setFocus {target : Target} (handle : ThreadRef) :
      Change target { target with threads := target.threads.setFocus handle }
  | setStatusAll {target : Target} {status : ThreadStatus} : status = .running ∨ status = .suspended →
      Change target { target with threads := target.threads.setStatusAll status }
  | resumeThread {target : Target} (handle : ThreadRef) :
      Change target { target with threads := target.threads.modify handle (·.setStatus .running) }
  | startStep {target : Target} (handle : ThreadRef) (step : PendingStep) :
      Change target { target with threads := target.threads.modify handle (·.startStep step) }
  | stopAt {target : Target} (handle : ThreadRef) (location : Location) :
      Change target { target with threads := target.threads.modify handle (·.stopAt location) }
  /-- A step is taken back. -/
  | withdraw {target : Target} (handle : ThreadRef) :
      Change target { target with threads := target.threads.modify handle fun t =>
        { t with pendingStep := none, status := .suspended } }
  | prepare {target : Target} (type : PreparedType) :
      Change target { target with prepared := target.prepared ++ [type] }
  | setStatus {target : Target} {status : TargetStatus} : status.isFinal = false →
      Change target { target with status }

/-- A condition that single changes keep. -/
def Stable (I : Target → Prop) : Prop := ∀ before after, Change before after → I before → I after

theorem ensureAlive_keeps {I : Target → Prop} : ensureAlive.run.Keeps I := by
  refine .run_bind (.run_perform .read) fun target => ?_
  cases target.isTerminated with
  | true => exact .run_throw
  | false => exact .run_pure

section Stable

variable {I : Target → Prop} (stable : Stable I)

include stable

theorem setStatus_keeps {status : TargetStatus} (mild : status.isFinal = false) :
    (setStatus status).Keeps I :=
  .bind .read fun _ => .bind .tell fun _ => .update fun _ => stable _ _ (.setStatus mild)

theorem Stable.registerAll (handles : List ThreadRef) {target : Target} (holds : I target) :
    I { target with threads := handles.foldl .register target.threads } := by
  induction handles generalizing target with
  | nil => exact holds
  | cons handle rest ih => exact ih (stable _ _ (.register handle) holds)

theorem rollback_keeps {handle : ThreadRef} {request : RequestRef} :
    (rollback handle request).Keeps I := by
  refine .bind (.update fun _ => stable _ _ (.withdraw handle)) fun _ => .bind .ask fun answer => ?_
  cases answer with
  | ok answer => exact .pure
  | error failure => exact .tell

theorem Handler.keeps (handler : Handler) (lives : handler.isEnd = false) :
    handler.handling.run.Keeps I := by
  cases handler with
  | vmDeath | vmDisconnect => cases lives
  | vmStart thread =>
      refine .run_bind .handling_call fun existing => .run_bind (.run_perform (.update ?_)) fun _ =>
        .run_bind (.run_perform (setStatus_keeps stable rfl)) fun _ => .announce
      intro target holds
      have known := stable.registerAll (existing ++ [thread]) holds
      have suspended := stable _ _ (.setStatusAll (.inr rfl)) known
      exact stable _ _ (.setFocus thread) suspended
  | threadStart handle =>
      refine .run_bind (.run_perform (.update fun _ => stable _ _ (.register handle))) fun _ =>
        .run_bind (.run_perform .read) fun target => ?_
      cases target.threads.get? handle with
      | some thread => exact .run_bind (.run_perform .tell) fun _ => .announce
      | none => exact .run_pure
  | threadDeath handle =>
      refine .run_bind (.run_perform .read) fun target =>
        .run_bind (.run_perform (.update fun _ => stable _ _ (.remove handle))) fun _ => ?_
      cases target.threads.get? handle with
      | some thread => exact .run_bind (.run_perform .tell) fun _ => .announce
      | none => exact .run_perform .tell
  | classLoad thread type name =>
      exact .run_bind (.run_perform .tell) fun _ =>
        .run_bind (.run_perform (.update fun _ => stable _ _ (.prepare _))) fun _ => .announce
  | stepDone handle location =>
      refine .run_bind (.run_perform .read) fun target => ?_
      cases target.threads.get? handle with
      | none => exact .run_throw
      | some thread =>
          refine .run_bind (.run_perform (.update ?_)) fun _ => ?_
          · intro target holds
            have stopped := stable _ _ (.stopAt handle location) holds
            exact stable _ _ (.setFocus handle) stopped
          · cases thread.pendingStep with
            | none => exact .announce
            | some step => exact .run_bind .handling_call fun _ => .announce
  | resumeThread handle =>
      exact .run_bind .handling_call fun _ =>
        .run_perform (.update fun _ => stable _ _ (.resumeThread handle))

theorem Control.keeps (control : Control) : control.attempt.run.Keeps I := by
  cases control with
  | resume =>
      exact .run_bind ensureAlive_keeps fun _ => .run_bind .attempt_call fun _ =>
        .run_bind (.run_perform (.update fun _ => stable _ _ (.setStatusAll (.inl rfl)))) fun _ =>
        .run_perform (setStatus_keeps stable rfl)
  | suspend =>
      exact .run_bind ensureAlive_keeps fun _ => .run_bind .attempt_call fun _ =>
        .run_bind (.run_perform (.update fun _ => stable _ _ (.setStatusAll (.inr rfl)))) fun _ =>
        .run_perform (setStatus_keeps stable rfl)
  | step handle kind =>
      refine .run_bind ensureAlive_keeps fun _ => .run_bind (.run_perform .read) fun target => ?_
      cases target.threads.get? handle with
      | none => exact .run_throw
      | some thread =>
          dsimp only
          split
          · exact .run_throw
          · refine .run_bind .attempt_call fun request =>
              .run_bind (.run_perform (.update fun _ => stable _ _ (.startStep handle _))) fun _ =>
              .run_bind (.run_perform .tell) fun _ => .run_bind (.run_perform .ask) fun answer => ?_
            cases answer with
            | ok answer => exact .run_perform (setStatus_keeps stable rfl)
            | error failure =>
                exact .run_bind (.run_perform (rollback_keeps stable)) fun _ => .run_throw
  | terminate exitCode => exact .run_bind ensureAlive_keeps fun _ => .attempt_call

theorem setFocus_keeps {handle : ThreadRef} : (Target.setFocus handle).run.Keeps I := by
  refine .run_bind (.run_perform .read) fun target => ?_
  cases target.threads.contains handle with
  | true => exact .run_perform (.update fun _ => stable _ _ (.setFocus handle))
  | false => exact .run_throw

end Stable

/-- What is done about an event that has no listener is the work of handlers. -/
theorem heed_keeps {I : Target → Prop} (stable : Stable I) {event : Event}
    (lives : event.happening.isEnd = false) : (heed event).run.Keeps I := by
  obtain ⟨request, happening⟩ := event
  cases happening with
  | step thread location =>
      refine .run_bind (.run_perform .read) fun target => ?_
      cases target.threads.get? thread with
      | some found => exact Handler.keeps stable (.stepDone thread location) rfl
      | none =>
          refine .run_bind (.run_perform .tell) fun _ => ?_
          exact Handler.keeps stable (.resumeThread thread) rfl
  | threadStart thread => exact Handler.keeps stable (.threadStart thread) rfl
  | threadDeath thread => exact Handler.keeps stable (.threadDeath thread) rfl
  | classPrepare thread type name =>
      exact Handler.keeps stable (.classLoad thread type name) rfl
  | vmStart thread => exact Handler.keeps stable (.vmStart thread) rfl
  | vmDeath | vmDisconnect => cases lives
  | breakpoint | exception | methodEntry | methodExit | other => exact .run_perform .tell

/-- At the end of the target the model is released as a whole. -/
theorem Handler.keeps_of_end {I : Target → Prop}
    (released : ∀ target status, I target → I (target.released status)) (handler : Handler)
    (ends : handler.isEnd = true) : handler.handling.run.Keeps I := by
  have releases : ∀ status, (release status).Keeps I := by
    intro status target passed u target' course holds _
    obtain ⟨rfl, rfl⟩ := release_iff.mp course
    exact ⟨released target status holds, .told (.told .nil)⟩
  cases handler with
  | vmDeath | vmDisconnect => exact .run_bind (.run_perform (releases _)) fun _ => .announce
  | _ => cases ends

theorem heed_keeps_of_end {I : Target → Prop}
    (released : ∀ target status, I target → I (target.released status)) {event : Event}
    (ends : event.happening.isEnd = true) : (heed event).run.Keeps I := by
  obtain ⟨request, happening⟩ := event
  cases happening with
  | vmDeath => exact Handler.keeps_of_end released .vmDeath rfl
  | vmDisconnect => exact Handler.keeps_of_end released .vmDisconnect rfl
  | _ => cases ends

end RemoteDebug.Target
