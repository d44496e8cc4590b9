import RemoteDebug.Dispatcher
import RemoteDebug.Proofs.Course

/-!
How handlers go about their work.

* `Handling.Orderly`: a handling ends early only where a call to the target is refused or a hook panics.
  It ends there and then, with just that failure or panic, and it makes none but routine requests.
* `Target.heed` is what the model of the target does about an event that has no listener, and
  `Dispatcher.heed` what the dispatcher does about it. `route_iff` splits the routing of an event into
  the two.
-/

namespace RemoteDebug

open Operation

/-! ### Hooks and calls -/

/-- What is told about the reply of a hook. -/
def HookReply.remarks {σ : Type} : HookReply → List (Exchange σ)
  | .failed problem => [.told (.report (.error .target (.hook problem)))]
  | .done | .panicked _ => []

/-- How the announcement ends that got this reply. -/
def HookReply.outcome : HookReply → Except Interruption Unit
  | .done | .failed _ => .ok ()
  | .panicked text => .error (.panic text)

namespace Handling

variable {σ α β : Type} {s t : σ} {passed : List (Exchange σ)}

theorem announce_iff {notice : Notice} {r : Except Interruption Unit} :
    (announce notice).run.Course s passed r t ↔
      ∃ reply, passed = .asked (.hook notice) s reply t :: reply.remarks ∧ r = reply.outcome := by
  refine Course.run_ask_bind_iff.trans ?_
  constructor
  · rintro ⟨reply, u, later, course, rfl⟩
    cases reply with
    | done =>
        obtain ⟨rfl, rfl, rfl⟩ := Course.run_pure_iff.mp course
        exact ⟨.done, rfl, rfl⟩
    | failed problem =>
        obtain ⟨u, told, rfl⟩ := Course.run_perform_iff.mp course
        obtain ⟨rfl, rfl⟩ := Course.tell_iff.mp told
        exact ⟨.failed problem, rfl, rfl⟩
    | panicked text =>
        obtain ⟨rfl, rfl, rfl⟩ := Course.run_throw_iff.mp course
        exact ⟨.panicked text, rfl, rfl⟩
  · rintro ⟨reply, rfl, rfl⟩
    refine ⟨reply, t, reply.remarks, ?_, rfl⟩
    cases reply with
    | done => exact Course.run_pure_iff.mpr ⟨rfl, rfl, rfl⟩
    | failed problem => exact Course.run_perform_iff.mpr ⟨(), Course.tell_iff.mpr ⟨rfl, rfl⟩, rfl⟩
    | panicked text => exact Course.run_throw_iff.mpr ⟨rfl, rfl, rfl⟩

theorem call_iff {c : Call} {r : Except Interruption c.Answer} :
    (Handling.call c).run.Course s passed r t ↔
      ∃ answer, passed = [.asked (.call c) s answer t] ∧
        r = answer.mapError fun failure => .fault (.remote failure) :=
  Course.run_call_iff _

end Handling

/-! ### Orderly handlings -/

/-- The calls that handlers make. -/
def Call.isRoutine : Call → Bool
  | .threads | .resume _ | .deleteRequest _ => true
  | _ => false

/-- `Orderly passed r`: on the way to `r` routine calls were answered and hooks came back, up to the call
or the hook that `r` blames. -/
inductive Orderly {σ α : Type} : List (Exchange σ) → Except Interruption α → Prop where
  | done {a : α} : Orderly [] (.ok a)
  | told {n : Note} {later : List (Exchange σ)} {r : Except Interruption α} :
      Orderly later r → Orderly (.told n :: later) r
  | answered {c : Call} {s t : σ} {answer : c.Answer} {later : List (Exchange σ)}
      {r : Except Interruption α} : c.isRoutine → Orderly later r →
      Orderly (.asked (.call c) s (.ok answer) t :: later) r
  | refused {c : Call} {s t : σ} {failure : RemoteFailure} : c.isRoutine →
      Orderly [.asked (.call c) s (.error failure) t] (.error (.fault (.remote failure)))
  | noticed {notice : Notice} {s t : σ} {reply : HookReply} {later : List (Exchange σ)}
      {r : Except Interruption α} : reply.outcome = .ok () → Orderly later r →
      Orderly (.asked (.hook notice) s reply t :: later) r
  | panicked {notice : Notice} {s t : σ} {text : String} :
      Orderly [.asked (.hook notice) s (.panicked text) t] (.error (.panic text))

namespace Orderly

variable {σ τ α β : Type} {passed : List (Exchange σ)}

theorem append {first second : List (Exchange σ)} {a : α} {r : Except Interruption β}
    (head : Orderly first (.ok a : Except Interruption α)) (tail : Orderly second r) :
    Orderly (first ++ second) r := by
  generalize ended : (Except.ok a : Except Interruption α) = r₀ at head
  induction head with
  | done => exact tail
  | told _ ih => exact .told (ih ended)
  | answered routine _ ih => exact .answered routine (ih ended)
  | noticed back _ ih => exact .noticed back (ih ended)
  | refused => cases ended
  | panicked => cases ended

/-- Only the interruption of a result matters, not its value. -/
theorem retype {r : Except Interruption α} {r' : Except Interruption β} (orderly : Orderly passed r)
    (same : ∀ i, r = .error i ↔ r' = .error i) : Orderly passed r' := by
  induction orderly with
  | done =>
      cases r' with
      | ok b => exact .done
      | error i => cases (same i).mpr rfl
  | told _ ih => exact .told (ih same)
  | answered routine _ ih => exact .answered routine (ih same)
  | noticed back _ ih => exact .noticed back (ih same)
  | refused routine =>
      rw [(same _).mp rfl]
      exact .refused routine
  | panicked =>
      rw [(same _).mp rfl]
      exact .panicked

/-- What is orderly on a part of the shared state is orderly on the whole. -/
theorem of_onPart {part : σ → τ} {r : Except Interruption α}
    (orderly : Orderly (passed.map (.onPart part)) r) : Orderly passed r := by
  generalize seen : passed.map (Exchange.onPart part) = view at orderly
  induction orderly generalizing passed with
  | done =>
      rw [List.map_eq_nil_iff.mp seen]
      exact .done
  | told _ ih =>
      obtain ⟨e, later, rfl, same, rest⟩ := List.map_eq_cons_iff.mp seen
      cases e with
      | asked => cases same
      | told n => exact .told (ih rest)
  | answered routine _ ih =>
      obtain ⟨e, later, rfl, same, rest⟩ := List.map_eq_cons_iff.mp seen
      cases e with
      | told => cases same
      | asked =>
          cases same
          exact .answered routine (ih rest)
  | noticed back _ ih =>
      obtain ⟨e, later, rfl, same, rest⟩ := List.map_eq_cons_iff.mp seen
      cases e with
      | told => cases same
      | asked =>
          cases same
          exact .noticed back (ih rest)
  | refused routine =>
      obtain ⟨e, later, rfl, same, rest⟩ := List.map_eq_cons_iff.mp seen
      rw [List.map_eq_nil_iff.mp rest]
      cases e with
      | told => cases same
      | asked =>
          cases same
          exact .refused routine
  | panicked =>
      obtain ⟨e, later, rfl, same, rest⟩ := List.map_eq_cons_iff.mp seen
      rw [List.map_eq_nil_iff.mp rest]
      cases e with
      | told => cases same
      | asked =>
          cases same
          exact .panicked

/-- Handlers call the target and the hook. They read no channel, call no listener and resume no set. -/
theorem request {r : Except Interruption α} (orderly : Orderly passed r) {q : Request} {s t : σ}
    {reply : q.Reply} (mem : .asked q s reply t ∈ passed) :
    (∃ notice, q = .hook notice) ∨ ∃ c, q = .call c ∧ c.isRoutine := by
  induction orderly with
  | done => cases mem
  | told _ ih => exact ih (by simpa using mem)
  | answered routine _ ih =>
      rcases List.mem_cons.mp mem with same | mem
      · cases same
        exact .inr ⟨_, rfl, routine⟩
      · exact ih mem
  | noticed _ _ ih =>
      rcases List.mem_cons.mp mem with same | mem
      · cases same
        exact .inl ⟨_, rfl⟩
      · exact ih mem
  | refused routine =>
      cases List.mem_singleton.mp mem
      exact .inr ⟨_, rfl, routine⟩
  | panicked =>
      cases List.mem_singleton.mp mem
      exact .inl ⟨_, rfl⟩

/-- The fault of a handler is the failure of a call that it made. -/
theorem fault {f : Fault} {r : Except Interruption α} (orderly : Orderly passed r)
    (ended : r = .error (.fault f)) :
    ∃ c s failure t, f = .remote failure ∧ .asked (.call c) s (.error failure) t ∈ passed := by
  induction orderly with
  | done => cases ended
  | told _ ih =>
      obtain ⟨c, s, failure, t, blame, mem⟩ := ih ended
      exact ⟨c, s, failure, t, blame, List.mem_cons_of_mem _ mem⟩
  | answered _ _ ih =>
      obtain ⟨c, s, failure, t, blame, mem⟩ := ih ended
      exact ⟨c, s, failure, t, blame, List.mem_cons_of_mem _ mem⟩
  | noticed _ _ ih =>
      obtain ⟨c, s, failure, t, blame, mem⟩ := ih ended
      exact ⟨c, s, failure, t, blame, List.mem_cons_of_mem _ mem⟩
  | refused =>
      cases ended
      exact ⟨_, _, _, _, rfl, List.mem_singleton_self _⟩
  | panicked => cases ended

/-- The panic of a handler is the panic of the hook that it called last. -/
theorem panic {text : String} {r : Except Interruption α} (orderly : Orderly passed r)
    (ended : r = .error (.panic text)) :
    ∃ notice s t, .asked (.hook notice) s (.panicked text) t ∈ passed := by
  induction orderly with
  | done => cases ended
  | told _ ih =>
      obtain ⟨notice, s, t, mem⟩ := ih ended
      exact ⟨notice, s, t, List.mem_cons_of_mem _ mem⟩
  | answered _ _ ih =>
      obtain ⟨notice, s, t, mem⟩ := ih ended
      exact ⟨notice, s, t, List.mem_cons_of_mem _ mem⟩
  | noticed _ _ ih =>
      obtain ⟨notice, s, t, mem⟩ := ih ended
      exact ⟨notice, s, t, List.mem_cons_of_mem _ mem⟩
  | refused => cases ended
  | panicked =>
      cases ended
      exact ⟨_, _, _, List.mem_singleton_self _⟩

end Orderly

/-- Operations that change the shared state and tell of it, and ask for nothing. -/
def Operation.Quiet {σ α : Type} (x : Operation σ α) : Prop :=
  ∀ s passed a t, x.Course s passed a t → ∀ e ∈ passed, ∃ n, e = .told n

namespace Operation.Quiet

variable {σ α β : Type}

theorem read : (Operation.read : Operation σ σ).Quiet := by
  intro s passed a t course
  cases course
  exact fun _ mem => nomatch mem

theorem update {f : σ → σ} : (Operation.update f).Quiet := by
  intro s passed a t course
  obtain ⟨rfl, _⟩ := Course.update_iff.mp course
  exact fun _ mem => nomatch mem

theorem tell {n : Note} : (Operation.tell n : Operation σ Unit).Quiet := by
  intro s passed a t course e mem
  obtain ⟨rfl, _⟩ := Course.tell_iff.mp course
  exact ⟨n, List.mem_singleton.mp mem⟩

theorem bind {x : Operation σ α} {f : α → Operation σ β} (quiet : x.Quiet)
    (next : ∀ a, (f a).Quiet) : (x >>= f).Quiet := by
  intro s passed b t course e mem
  obtain ⟨a, u, first, second, head, tail, rfl⟩ := Course.bind_iff.mp course
  rcases List.mem_append.mp mem with mem | mem
  · exact quiet _ _ _ _ head e mem
  · exact next a _ _ _ _ tail e mem

end Operation.Quiet

/-- A handling all of whose courses are orderly. -/
def Handling.Orderly {σ α : Type} (x : Handling σ α) : Prop :=
  ∀ s passed r t, x.run.Course s passed r t → RemoteDebug.Orderly passed r

namespace Handling.Orderly

variable {σ α β : Type}

theorem pure {a : α} : Handling.Orderly (pure a : Handling σ α) := by
  intro s passed r t course
  obtain ⟨rfl, rfl, _⟩ := Course.run_pure_iff.mp course
  exact .done

theorem bind {x : Handling σ α} {f : α → Handling σ β} (orderly : Handling.Orderly x)
    (next : ∀ a, Handling.Orderly (f a)) : Handling.Orderly (x >>= f) := by
  intro s passed r t course
  rcases Course.run_bind_iff.mp course with ⟨e, head, rfl⟩ | ⟨a, u, first, second, head, tail, rfl⟩
  · exact (orderly _ _ _ _ head).retype fun i => by simp
  · exact (orderly _ _ _ _ head).append (next a _ _ _ _ tail)

theorem perform {x : Operation σ α} (quiet : x.Quiet) :
    Handling.Orderly (RemoteDebug.perform x : Handling σ α) := by
  intro s passed r t course
  obtain ⟨a, done, rfl⟩ := Course.run_perform_iff.mp course
  have told := quiet _ _ _ _ done
  clear course done
  induction passed with
  | nil => exact .done
  | cons e later ih =>
      obtain ⟨n, rfl⟩ := told e List.mem_cons_self
      exact .told (ih fun e mem => told e (List.mem_cons_of_mem _ mem))

theorem call {c : Call} (routine : c.isRoutine) :
    Handling.Orderly (Handling.call c : Handling σ c.Answer) := by
  intro s passed r t course
  obtain ⟨answer, rfl, rfl⟩ := call_iff.mp course
  cases answer with
  | ok answer => exact .answered routine .done
  | error failure => exact .refused routine

theorem announce {notice : Notice} :
    Handling.Orderly (Handling.announce notice : Handling σ Unit) := by
  intro s passed r t course
  obtain ⟨reply, rfl, rfl⟩ := announce_iff.mp course
  cases reply with
  | done => exact .noticed rfl .done
  | failed problem => exact .noticed rfl (.told .done)
  | panicked text => exact .panicked

end Handling.Orderly

/-! ### Handlers of the target model -/

namespace Target

theorem setStatus_quiet {status : TargetStatus} : (setStatus status).Quiet :=
  .bind .read fun _ => .bind .tell fun _ => .update

theorem release_quiet {status : TargetStatus} : (release status).Quiet :=
  .bind .read fun _ => .bind .update fun _ => .bind .tell fun _ => setStatus_quiet

theorem vmStart_orderly {thread : ThreadRef} : (vmStart thread).Orderly :=
  .bind (.call rfl) fun _ => .bind (.perform .update) fun _ =>
    .bind (.perform setStatus_quiet) fun _ => .announce

theorem vmDeath_orderly : vmDeath.Orderly :=
  .bind (.perform release_quiet) fun _ => .announce

theorem vmDisconnect_orderly : vmDisconnect.Orderly :=
  .bind (.perform release_quiet) fun _ => .announce

theorem threadStart_orderly {handle : ThreadRef} : (threadStart handle).Orderly := by
  refine .bind (.perform .update) fun _ => .bind (.perform .read) fun target => ?_
  cases target.threads.get? handle with
  | some thread => exact .bind (.perform .tell) fun _ => .announce
  | none => exact .pure

theorem threadDeath_orderly {handle : ThreadRef} : (threadDeath handle).Orderly := by
  refine .bind (.perform .read) fun target => .bind (.perform .update) fun _ => ?_
  cases target.threads.get? handle with
  | some thread => exact .bind (.perform .tell) fun _ => .announce
  | none => exact .perform .tell

theorem classLoad_orderly {thread : ThreadRef} {type : TypeRef} {name : String} :
    (classLoad thread type name).Orderly :=
  .bind (.perform .tell) fun _ => .bind (.perform .update) fun _ => .announce

theorem resumeThread_orderly {handle : ThreadRef} : (resumeThread handle).Orderly :=
  .bind (.call rfl) fun _ => .perform .update

/-- The end of a step of a known thread; of an unknown one there is nothing to tell. -/
theorem stepDone_orderly {handle : ThreadRef} {location : Location} {target target' : Target}
    {passed : List (Exchange Target)} {r : Except Interruption Unit} {thread : Thread}
    (known : target.threads.get? handle = some thread)
    (course : (stepDone handle location).run.Course target passed r target') : Orderly passed r := by
  unfold stepDone at course
  rw [Course.run_read_bind_iff, known] at course
  refine Handling.Orderly.bind (.perform .update) (fun _ => ?_) _ _ _ _ course
  cases thread.pendingStep with
  | none => exact .announce
  | some step => exact .bind (.call rfl) fun _ => .announce

/-- What the model does about an event that has no listener. -/
def heed (event : Event) : Handling Target Unit :=
  match event.happening with
  | .step thread location => do
    match (← perform .read).threads.get? thread with
    | some _ => stepDone thread location
    | none =>
      perform (.log (.staleStep thread))
      resumeThread thread
  | .threadStart thread => threadStart thread
  | .threadDeath thread => threadDeath thread
  | .classPrepare thread type name => classLoad thread type name
  | .vmStart thread => vmStart thread
  | .vmDeath => vmDeath
  | .vmDisconnect => vmDisconnect
  | .breakpoint .. | .exception .. | .methodEntry .. | .methodExit .. | .other _ =>
    perform (.log (.unhandled event))

theorem heed_orderly {event : Event} : (heed event).Orderly := by
  obtain ⟨request, happening⟩ := event
  cases happening with
  | step handle location =>
      intro target passed r target' course
      have course := Course.run_read_bind_iff.mp course
      cases known : target.threads.get? handle with
      | some thread =>
          rw [known] at course
          exact stepDone_orderly known course
      | none =>
          rw [known] at course
          exact Handling.Orderly.bind (.perform .tell) (fun _ => resumeThread_orderly) _ _ _ _ course
  | threadStart => exact threadStart_orderly
  | threadDeath => exact threadDeath_orderly
  | classPrepare => exact classLoad_orderly
  | vmStart => exact vmStart_orderly
  | vmDeath => exact vmDeath_orderly
  | vmDisconnect => exact vmDisconnect_orderly
  | breakpoint | exception | methodEntry | methodExit | other => exact .perform .tell

/-- Nothing is called while a loaded type is noted, so nothing can be refused. -/
theorem classLoad_not_fault {thread : ThreadRef} {type : TypeRef} {name : String}
    {target target' : Target} {passed : List (Exchange Target)} {fault : Fault} :
    ¬ (classLoad thread type name).run.Course target passed (.error (.fault fault)) target' := by
  intro course
  obtain ⟨later, rest, rfl⟩ := Course.run_tell_bind_iff.mp course
  have announced := Course.run_update_bind_iff.mp rest
  obtain ⟨reply, rfl, ended⟩ := Handling.announce_iff.mp announced
  cases reply <;> cases ended

end Target

/-! ### Routing -/

/-- The target is gone for good. -/
def Happening.isEnd : Happening → Bool
  | .vmDeath | .vmDisconnect => true
  | _ => false

/-- What the dispatcher does about an event that has no listener: after the end of the target it reads
no more. -/
def Dispatcher.heed (dispatcher : Dispatcher) (event : Event) : Dispatcher :=
  if event.happening.isEnd then { dispatcher with keepReading := false } else dispatcher

/-- The vote of an event that has no listener: only loaded types can vote, and only if the settings let
them. -/
def Event.votesAlone (event : Event) (settings : DispatcherSettings) : Bool :=
  match event.happening with
  | .classPrepare .. => settings.classPrepareResumes
  | _ => false

/-- What votes alone never fails. -/
theorem Event.votesAlone_of_fault {event : Event} {settings : DispatcherSettings}
    {target target' : Target} {passed : List (Exchange Target)} {fault : Fault}
    (course : (Target.heed event).run.Course target passed (.error (.fault fault)) target') :
    event.votesAlone settings = false := by
  obtain ⟨request, happening⟩ := event
  cases happening with
  | classPrepare => exact absurd course Target.classLoad_not_fault
  | _ => rfl

namespace Site

theorem onTarget_iff {ε α : Type} {x : ExceptT ε (Operation Target) α} {site site' : Site}
    {passed : List (Exchange Site)} {r : Except ε α} :
    (onTarget x).run.Course site passed r site' ↔
      x.run.Course site.target (passed.map (.onPart Site.target)) r site'.target ∧
        Carries Site.dispatcher site.dispatcher passed site'.dispatcher :=
  Course.embed_iff (fun _ => rfl) fun _ _ => rfl

theorem onTarget_vote_iff {x : Handling Target Unit} {vote : Site → Bool} {site site' : Site}
    {passed : List (Exchange Site)} {r : Except Interruption Bool} :
    (ExceptT.run (onTarget x >>= fun _ => perform .read >>= fun s => pure (vote s))).Course site
        passed r site' ↔
      ∃ r₀, x.run.Course site.target (passed.map (.onPart Site.target)) r₀ site'.target ∧
        Carries Site.dispatcher site.dispatcher passed site'.dispatcher ∧
        r = r₀.map fun _ => vote site' := by
  simp only [Course.run_bind_iff (x := onTarget x), Course.run_read_bind_iff, onTarget_iff,
    Course.run_pure_iff]
  constructor
  · rintro (⟨e, ⟨course, carries⟩, rfl⟩ | ⟨_, u, first, second, ⟨course, carries⟩, ⟨rfl, rfl, rfl⟩, rfl⟩)
    · exact ⟨.error e, course, carries, rfl⟩
    · rw [List.append_nil]
      exact ⟨.ok (), course, carries, rfl⟩
  · rintro ⟨r₀, course, carries, rfl⟩
    cases r₀ with
    | error e => exact .inl ⟨e, ⟨course, carries⟩, rfl⟩
    | ok u => exact .inr ⟨u, site', passed, [], ⟨course, carries⟩, ⟨rfl, rfl, rfl⟩, by simp⟩

/-- Routing is the work of the model and of the dispatcher side by side: the handlers leave the
dispatcher to others. -/
theorem route_iff {event : Event} {site site' : Site} {passed : List (Exchange Site)}
    {r : Except Interruption Bool} :
    (route event).run.Course site passed r site' ↔
      ∃ r₀, (Target.heed event).run.Course site.target (passed.map (.onPart Site.target)) r₀
          site'.target ∧
        Carries Site.dispatcher (site.dispatcher.heed event) passed site'.dispatcher ∧
        r = r₀.map fun _ => event.votesAlone site'.dispatcher.settings := by
  obtain ⟨request, happening⟩ := event
  unfold route Target.heed Event.votesAlone
  cases happening with
  | step handle location =>
      simp only [Course.run_read_bind_iff]
      cases site.target.threads.get? handle with
      | some thread => exact onTarget_vote_iff
      | none =>
          exact onTarget_vote_iff (x := do
            perform (.log (.staleStep handle))
            Target.resumeThread handle)
  | threadStart | threadDeath | vmStart | classPrepare => exact onTarget_vote_iff
  | vmDeath | vmDisconnect => exact Course.run_update_bind_iff.trans onTarget_vote_iff
  | breakpoint | exception | methodEntry | methodExit | other =>
      exact onTarget_vote_iff (x := perform (.log (.unhandled _)))

theorem route_orderly {event : Event} : (route event).Orderly := by
  intro site passed r site' course
  obtain ⟨r₀, heeded, -, rfl⟩ := route_iff.mp course
  have orderly : Orderly passed r₀ := (Target.heed_orderly _ _ _ _ heeded).of_onPart
  apply orderly.retype
  intro i
  cases r₀ <;> simp [Except.map]

end Site

end RemoteDebug
