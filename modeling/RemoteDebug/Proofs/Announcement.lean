import RemoteDebug.Proofs.Act

/-!
How the hook is asked.

Handlers ask the hook last (`Dialogue.HookLast`): whatever it replies, nothing follows but a report of its
failure, and the model stays as it comes back. `Dialogue.HookLast.course` says what that means for a course.
Controls ask no hook (`Dialogue.Hookless`). Both are `Dialogue.Blind`: they go on after the failure of a hook
as if there had been none.
-/

namespace RemoteDebug

open Operation

def Request.isHook : Request → Bool
  | .hook _ => true
  | _ => false

/-- What is told of a hook that failed. -/
def HookReply.complaint (problem : String) : Note := .report (.error .target (.hook problem))

theorem HookReply.not_asked_remarks {σ : Type} {told : HookReply} {q : Request} {s t : σ} {reply : q.Reply} :
    .asked q s reply t ∉ told.remarks := by
  cases told <;> simp [remarks]

namespace Dialogue

variable {σ τ ρ α β : Type}

/-- No hook is asked. -/
inductive Hookless : Dialogue σ α → Prop where
  | done {a : α} : Hookless (.done a)
  | note {n : Note} {rest : Unit → Dialogue σ α} : Hookless (rest ()) → Hookless (.note n rest)
  | ask {q : Request} {s : σ} {next : q.Reply → σ → Dialogue σ α} : q.isHook = false →
      (∀ reply t, Hookless (next reply t)) → Hookless (.ask q s next)

/-- A hook is asked last: what is left is the result that goes with its reply, and a report if it failed. -/
inductive HookLast : Dialogue σ (Except Interruption α × σ) → Prop where
  | done {r : Except Interruption α} {s : σ} : HookLast (.done (r, s))
  | note {n : Note} {rest : Unit → Dialogue σ (Except Interruption α × σ)} :
      HookLast (rest ()) → HookLast (.note n rest)
  | ask {q : Request} {s : σ} {next : q.Reply → σ → Dialogue σ (Except Interruption α × σ)} :
      q.isHook = false → (∀ reply t, HookLast (next reply t)) → HookLast (.ask q s next)
  | hook {notice : Notice} {s : σ} {next : HookReply → σ → Dialogue σ (Except Interruption α × σ)}
      (value : σ → α) : (∀ t, next .done t = .done (.ok (value t), t)) →
      (∀ problem t, next (.failed problem) t =
        .note (HookReply.complaint problem) fun _ => .done (.ok (value t), t)) →
      (∀ text t, next (.panicked text) t = .done (.error (.panic text), t)) →
      HookLast (.ask (.hook notice) s next)

/-- After the failure of a hook the dialogue goes on as if there had been none, but for the report. -/
inductive Blind : Dialogue σ α → Prop where
  | done {a : α} : Blind (.done a)
  | note {n : Note} {rest : Unit → Dialogue σ α} : Blind (rest ()) → Blind (.note n rest)
  | ask {q : Request} {s : σ} {next : q.Reply → σ → Dialogue σ α} : q.isHook = false →
      (∀ reply t, Blind (next reply t)) → Blind (.ask q s next)
  | hook {notice : Notice} {s : σ} {next : HookReply → σ → Dialogue σ α} :
      (∀ problem t, next (.failed problem) t =
        .note (HookReply.complaint problem) fun _ => next .done t) →
      (∀ t, Blind (next .done t)) → (∀ text t, Blind (next (.panicked text) t)) →
      Blind (.ask (.hook notice) s next)

namespace Hookless

theorem bind {d : Dialogue σ α} {f : α → Dialogue σ β} (hookless : d.Hookless) (next : ∀ a, (f a).Hookless) :
    (d.bind f).Hookless := by
  induction hookless with
  | done => exact next _
  | note _ ih => exact .note ih
  | ask other _ ih => exact .ask other ih

theorem embed {join : τ → ρ → σ} {split : σ → τ × ρ} {d : Dialogue τ α} (hookless : d.Hookless) (r : ρ) :
    (d.embed join split r).Hookless := by
  induction hookless generalizing r with
  | done => exact .done
  | note _ ih => exact .note (ih r)
  | ask other _ ih => exact .ask other fun reply s => ih reply _ _

theorem blind {d : Dialogue σ α} (hookless : d.Hookless) : d.Blind := by
  induction hookless with
  | done => exact .done
  | note _ ih => exact .note ih
  | ask other _ ih => exact .ask other ih

theorem last {d : Dialogue σ (Except Interruption α × σ)} (hookless : d.Hookless) : d.HookLast := by
  induction hookless with
  | done => exact .done
  | note _ ih => exact .note ih
  | ask other _ ih => exact .ask other ih

end Hookless

namespace HookLast

theorem blind {d : Dialogue σ (Except Interruption α × σ)} (last : d.HookLast) : d.Blind := by
  induction last with
  | done => exact .done
  | note _ ih => exact .note ih
  | ask other _ ih => exact .ask other ih
  | hook value done failed panicked =>
      refine .hook (fun problem t => ?_) (fun t => ?_) (fun text t => ?_)
      · rw [failed, done]
      · rw [done]
        exact .done
      · rw [panicked]
        exact .done

/-- What asks no hook can come before. -/
theorem of_hookless {d : Dialogue σ α} {f : α → Dialogue σ (Except Interruption β × σ)}
    (hookless : d.Hookless) (next : ∀ a, (f a).HookLast) : (d.bind f).HookLast := by
  induction hookless with
  | done => exact next _
  | note _ ih => exact .note ih
  | ask other _ ih => exact .ask other ih

/-- A result can be made of the one that goes with the reply. -/
theorem map {d : Dialogue σ (Except Interruption α × σ)}
    {f : Except Interruption α × σ → Dialogue σ (Except Interruption β × σ)} (value : α → σ → β)
    (last : d.HookLast) (ok : ∀ a s, f (.ok a, s) = .done (.ok (value a s), s))
    (error : ∀ i s, f (.error i, s) = .done (.error i, s)) : (d.bind f).HookLast := by
  induction last with
  | @done r s =>
      cases r with
      | ok a =>
          change HookLast (f (.ok a, s))
          rw [ok]
          exact .done
      | error i =>
          change HookLast (f (.error i, s))
          rw [error]
          exact .done
  | note _ ih => exact .note ih
  | ask other _ ih => exact .ask other ih
  | hook given done failed panicked =>
      refine .hook (fun t => value (given t) t) (fun t => ?_) (fun problem t => ?_) (fun text t => ?_)
      · rw [done]
        exact ok _ _
      · rw [failed]
        change Dialogue.note _ (fun _ => f (.ok (given t), t)) = _
        rw [ok]
      · rw [panicked]
        exact error _ _

/-- A dialogue on a part of the shared state does not touch the rest. -/
theorem embed {join : τ → ρ → σ} {split : σ → τ × ρ} (whole : ∀ s, join (split s).1 (split s).2 = s)
    {d : Dialogue τ (Except Interruption α × τ)} (last : d.HookLast) (r : ρ) :
    HookLast ((d.embed join split r).bind fun p => .done (p.1.1, join p.1.2 p.2)) := by
  induction last generalizing r with
  | done => exact .done
  | note _ ih => exact .note (ih r)
  | ask other _ ih => exact .ask other fun reply s => ih reply _ _
  | hook value done failed panicked =>
      refine .hook (fun s => value (split s).1) (fun s => ?_) (fun problem s => ?_) (fun text s => ?_)
      · dsimp only
        rw [done]
        change Dialogue.done (Except.ok _, join (split s).1 (split s).2) = _
        rw [whole]
      · dsimp only
        rw [failed]
        change Dialogue.note _ (fun _ => .done (Except.ok _, join (split s).1 (split s).2)) = _
        rw [whole]
      · dsimp only
        rw [panicked]
        change Dialogue.done (Except.error _, join (split s).1 (split s).2) = _
        rw [whole]

/-- What follows on the reply of a hook that is asked last. -/
theorem reply_iff {value : σ → α} {next : HookReply → σ → Dialogue σ (Except Interruption α × σ)}
    (done : ∀ t, next .done t = .done (.ok (value t), t))
    (failed : ∀ problem t, next (.failed problem) t =
      .note (HookReply.complaint problem) fun _ => .done (.ok (value t), t))
    (panicked : ∀ text t, next (.panicked text) t = .done (.error (.panic text), t))
    {reply : HookReply} {t t' : σ} {later : List (Exchange σ)} {r : Except Interruption α} :
    (next reply t).Course later (r, t') ↔
      later = reply.remarks ∧ r = reply.outcome.map (fun _ => value t) ∧ t' = t := by
  cases reply with
  | done =>
      rw [done, Course.done_iff, Prod.mk.injEq]
      rfl
  | failed problem =>
      simp only [failed, Course.note_iff, Course.done_iff, Prod.mk.injEq]
      constructor
      · rintro ⟨_, ⟨rfl, rfl, rfl⟩, rfl⟩
        exact ⟨rfl, rfl, rfl⟩
      · rintro ⟨rfl, rfl, rfl⟩
        exact ⟨[], ⟨rfl, rfl, rfl⟩, rfl⟩
  | panicked text =>
      rw [panicked, Course.done_iff, Prod.mk.injEq]
      rfl

/-- After the reply of a hook nothing happens but a report, and with another reply nothing but the report
and the result would be another. -/
theorem course {d : Dialogue σ (Except Interruption α × σ)} (last : d.HookLast)
    {earlier later : List (Exchange σ)} {notice : Notice} {s t t' : σ} {reply : HookReply}
    {r : Except Interruption α}
    (course : d.Course (earlier ++ .asked (.hook notice) s reply t :: later) (r, t')) :
    later = reply.remarks ∧ t' = t ∧ ∃ value : α, (r = reply.outcome.map fun _ => value) ∧
      ∀ other : HookReply, d.Course (earlier ++ .asked (.hook notice) s other t :: other.remarks)
        (other.outcome.map fun _ => value, t) := by
  induction last generalizing earlier with
  | done =>
      obtain ⟨impossible, -⟩ := Course.done_iff.mp course
      simp at impossible
  | note _ ih =>
      obtain ⟨rest, goes, split⟩ := Course.note_iff.mp course
      cases earlier with
      | nil => cases split
      | cons e earlier =>
          cases split
          obtain ⟨remarks, same, value, result, others⟩ := ih goes
          exact ⟨remarks, same, value, result, fun other => .note (others other)⟩
  | ask plain _ ih =>
      obtain ⟨answer, u, rest, goes, split⟩ := Course.ask_iff.mp course
      cases earlier with
      | nil =>
          cases split
          cases plain
      | cons e earlier =>
          cases split
          obtain ⟨remarks, same, value, result, others⟩ := ih answer u goes
          exact ⟨remarks, same, value, result, fun other => .ask (others other)⟩
  | hook value done failed panicked =>
      obtain ⟨answer, u, rest, goes, split⟩ := Course.ask_iff.mp course
      obtain ⟨remarks, result, same⟩ := (reply_iff done failed panicked).mp goes
      cases earlier with
      | nil =>
          cases split
          refine ⟨remarks, same, value t, result, fun other => ?_⟩
          exact .ask ((reply_iff done failed panicked).mpr ⟨rfl, rfl, rfl⟩)
      | cons e earlier =>
          -- No request follows on the last one.
          cases split
          have asked : .asked (.hook notice) s reply t ∈ answer.remarks :=
            remarks ▸ List.mem_append_right earlier List.mem_cons_self
          exact absurd asked HookReply.not_asked_remarks

end HookLast

end Dialogue

/-! ### Operations -/

/-- The operation asks no hook. -/
def Operation.Hookless {σ α : Type} (x : Operation σ α) : Prop := ∀ s, (x s).Hookless

/-- The handling asks a hook last, or none. -/
def Handling.HookLast {σ α : Type} (x : Handling σ α) : Prop := ∀ s, (x.run s).HookLast

section Parts

variable {σ α β ε : Type}

namespace Operation.Hookless

theorem pure {a : α} : (pure a : Operation σ α).Hookless := fun _ => .done

theorem bind {x : Operation σ α} {f : α → Operation σ β} (first : x.Hookless)
    (next : ∀ a, (f a).Hookless) : (x >>= f).Hookless :=
  fun s => (first s).bind fun p => next p.1 p.2

theorem read : (Operation.read : Operation σ σ).Hookless := fun _ => .done

theorem update {f : σ → σ} : (Operation.update f).Hookless := fun _ => .done

theorem tell {n : Note} : (Operation.tell n : Operation σ Unit).Hookless := fun _ => .note .done

theorem call {c : Call} : (Operation.call c : Operation σ (Except RemoteFailure c.Answer)).Hookless :=
  fun _ => .ask rfl fun _ _ => .done

theorem run_pure {b : β} : (ExceptT.run (Pure.pure b : ExceptT ε (Operation σ) β)).Hookless := .pure

theorem run_throw {e : ε} : (ExceptT.run (throw e : ExceptT ε (Operation σ) β)).Hookless := .pure

theorem run_bind {x : ExceptT ε (Operation σ) α} {f : α → ExceptT ε (Operation σ) β}
    (first : x.run.Hookless) (next : ∀ a, (f a).run.Hookless) : (x >>= f).run.Hookless := by
  rw [ExceptT.run_bind]
  refine first.bind fun r => ?_
  cases r with
  | ok a => exact next a
  | error e => exact .pure

theorem run_perform {x : Operation σ β} (hookless : x.Hookless) :
    (ExceptT.run (perform x : ExceptT ε (Operation σ) β)).Hookless :=
  hookless.bind fun _ => .pure

theorem handling_call {c : Call} : (Handling.call c : Handling σ c.Answer).run.Hookless := by
  refine .run_bind (.run_perform .call) fun answer => ?_
  cases answer with
  | ok answer => exact .run_pure
  | error failure => exact .run_throw

theorem attempt_call {c : Call} : (Attempt.call c : Attempt σ c.Answer).run.Hookless := by
  refine .run_bind (.run_perform .call) fun answer => ?_
  cases answer with
  | ok answer => exact .run_pure
  | error failure => exact .run_throw

end Operation.Hookless

namespace Handling.HookLast

theorem of_hookless {x : Handling σ α} (hookless : x.run.Hookless) : HookLast x :=
  fun s => (hookless s).last

theorem bind {x : Handling σ α} {f : α → Handling σ β} (first : x.run.Hookless) (next : ∀ a, HookLast (f a)) :
    HookLast (x >>= f) := by
  intro s
  refine .of_hookless (first s) ?_
  rintro ⟨e | a, t⟩
  · exact .done
  · exact next a t

theorem announce {notice : Notice} : HookLast (Handling.announce notice : Handling σ Unit) :=
  fun _ => .hook (fun _ => ()) (fun _ => rfl) (fun _ _ => rfl) fun _ _ => rfl

end Handling.HookLast

end Parts

/-! ### Handlers and controls -/

namespace Target

theorem setStatus_hookless {status : TargetStatus} : (setStatus status).Hookless :=
  .bind .read fun _ => .bind .tell fun _ => .update

theorem release_hookless {status : TargetStatus} : (release status).Hookless :=
  .bind .read fun _ => .bind .update fun _ => .bind .tell fun _ => setStatus_hookless

theorem ensureAlive_hookless : ensureAlive.run.Hookless := by
  refine .run_bind (.run_perform .read) fun target => ?_
  cases target.isTerminated with
  | true => exact .run_throw
  | false => exact .run_pure

theorem resumeThread_hookless {handle : ThreadRef} : (resumeThread handle).run.Hookless :=
  .run_bind .handling_call fun _ => .run_perform .update

/-- Every handler asks its hook last. -/
theorem Handler.hookLast (handler : Handler) : Handling.HookLast handler.handling := by
  cases handler with
  | vmStart thread =>
      exact .bind .handling_call fun _ => .bind (.run_perform .update) fun _ =>
        .bind (.run_perform setStatus_hookless) fun _ => .announce
  | vmDeath | vmDisconnect => exact .bind (.run_perform release_hookless) fun _ => .announce
  | threadStart handle =>
      refine .bind (.run_perform .update) fun _ => .bind (.run_perform .read) fun target => ?_
      cases target.threads.get? handle with
      | some thread => exact .bind (.run_perform .tell) fun _ => .announce
      | none => exact .of_hookless .run_pure
  | threadDeath handle =>
      refine .bind (.run_perform .read) fun target => .bind (.run_perform .update) fun _ => ?_
      cases target.threads.get? handle with
      | some thread => exact .bind (.run_perform .tell) fun _ => .announce
      | none => exact .of_hookless (.run_perform .tell)
  | classLoad thread type name =>
      exact .bind (.run_perform .tell) fun _ => .bind (.run_perform .update) fun _ => .announce
  | stepDone handle location =>
      refine .bind (.run_perform .read) fun target => ?_
      cases target.threads.get? handle with
      | none => exact .of_hookless .run_throw
      | some thread =>
          refine .bind (.run_perform .update) fun _ => ?_
          cases thread.pendingStep with
          | none => exact .announce
          | some step => exact .bind .handling_call fun _ => .announce
  | resumeThread handle => exact .of_hookless resumeThread_hookless

theorem rollback_hookless {handle : ThreadRef} {request : RequestRef} :
    (rollback handle request).Hookless := by
  refine .bind .update fun _ => .bind .call fun answer => ?_
  cases answer with
  | ok answer => exact .pure
  | error failure => exact .tell

theorem step_hookless {handle : ThreadRef} {kind : StepKind} : (step handle kind).run.Hookless := by
  refine .run_bind ensureAlive_hookless fun _ => .run_bind (.run_perform .read) fun target => ?_
  cases target.threads.get? handle with
  | none => exact .run_throw
  | some thread =>
      dsimp only
      split
      · exact .run_throw
      refine .run_bind .attempt_call fun request => .run_bind (.run_perform .update) fun _ =>
        .run_bind (.run_perform .tell) fun _ => .run_bind (.run_perform .call) fun answer => ?_
      cases answer with
      | ok answer => exact .run_perform setStatus_hookless
      | error failure => exact .run_bind (.run_perform rollback_hookless) fun _ => .run_throw

theorem Control.hookless (wish : Control) : wish.attempt.run.Hookless := by
  cases wish with
  | resume | suspend =>
      exact .run_bind ensureAlive_hookless fun _ => .run_bind .attempt_call fun _ =>
        .run_bind (.run_perform .update) fun _ => .run_perform setStatus_hookless
  | step handle kind => exact step_hookless
  | terminate exitCode => exact .run_bind ensureAlive_hookless fun _ => .attempt_call

theorem setFocus_hookless {handle : ThreadRef} : (setFocus handle).run.Hookless := by
  refine .run_bind (.run_perform .read) fun target => ?_
  cases target.threads.contains handle with
  | true => exact .run_perform .update
  | false => exact .run_throw

end Target

namespace Site

theorem onTarget_hookless {ε α : Type} {x : ExceptT ε (Operation Target) α} (hookless : x.run.Hookless) :
    (onTarget x).run.Hookless :=
  fun site => .bind (.embed (hookless site.target) _) fun _ => .done

theorem onTarget_hookLast {α : Type} {x : Handling Target α} (last : Handling.HookLast x) :
    Handling.HookLast (onTarget x) :=
  fun site => .embed (fun _ => rfl) (last site.target) _

/-- A vote can follow on the work of a handler. -/
theorem onTarget_vote_hookLast {x : Handling Target Unit} (vote : Site → Bool) (last : Handling.HookLast x) :
    Handling.HookLast (onTarget x >>= fun _ => perform .read >>= fun s => pure (vote s)) :=
  fun site => .map (fun _ s => vote s) (onTarget_hookLast last site) (fun _ _ => rfl) fun _ _ => rfl

/-- A hook is asked at the end of the routing of an event. -/
theorem route_hookLast (event : Event) : Handling.HookLast (route event) := by
  have handles (handler : Target.Handler) (vote : Site → Bool) :=
    onTarget_vote_hookLast vote handler.hookLast
  obtain ⟨request, happening⟩ := event
  cases happening with
  | step thread location =>
      refine .bind (.run_perform .read) fun site => ?_
      cases site.target.threads.get? thread with
      | some found => exact handles (.stepDone thread location) fun _ => false
      | none => exact .bind (.run_perform .tell) fun _ => handles (.resumeThread thread) fun _ => false
  | threadStart thread => exact handles (.threadStart thread) fun _ => false
  | threadDeath thread => exact handles (.threadDeath thread) fun _ => false
  | classPrepare thread type name =>
      exact handles (.classLoad thread type name) fun site => site.dispatcher.settings.classPrepareResumes
  | vmStart thread => exact handles (.vmStart thread) fun _ => false
  | vmDeath => exact .bind (.run_perform .update) fun _ => handles .vmDeath fun _ => false
  | vmDisconnect => exact .bind (.run_perform .update) fun _ => handles .vmDisconnect fun _ => false
  | breakpoint | exception | methodEntry | methodExit | other =>
      exact .of_hookless (.run_bind (.run_perform .tell) fun _ => .run_pure)

end Site

end RemoteDebug
