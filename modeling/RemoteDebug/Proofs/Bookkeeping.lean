import RemoteDebug.Proofs.Act
import RemoteDebug.Proofs.Evaluation
import RemoteDebug.Proofs.Pending
import RemoteDebug.Proofs.Undertaking

/-!
What operations enter into the books of pending steps.

Remarks, requests and replies are entries: a request for a step is issued with its reply, and it is deleted
when that is asked for. `Books.Along` follows the books through what passes in an operation: the books that
are handed over with a request are those of the model at that moment, and what others do to the model while
the operation waits is their business.

`Operation.Tracks` says that the books after a course of an operation are those of the model that it leaves.
The laws follow the ways in which operations are put together; only the handlers and controls that touch a
pending step are looked into.
-/

namespace RemoteDebug

open Operation

/-! ### Entries -/

/-- What a remark enters. -/
def Note.booked? : Note → Option Books.Entry
  | .log (.threadDied thread) => some (.died thread.handle thread.pendingStep)
  | _ => none

/-- What a request enters that is put while the model is as given. -/
def Request.booked? (request : Request) (target : Target) : Option Books.Entry :=
  match request with
  | .call (.deleteRequest request) => some (.deleted request)
  | .hook .exit | .hook .disconnect => if target.isTerminated then some .released else none
  | _ => none

/-- What a reply enters. -/
def Request.settled? : (request : Request) → request.Reply → Option Books.Entry
  | .call (.requestStep thread kind), .ok request => some (.issued thread ⟨kind, request⟩)
  | _, _ => none

/-- Neither the request nor a reply to it enters anything. -/
structure Request.Idle (request : Request) : Prop where
  booked : ∀ target, request.booked? target = none
  settled : ∀ reply, request.settled? reply = none

/-- The calls about the requests of steps. -/
def Call.isBooked : Call → Bool
  | .requestStep .. | .deleteRequest _ => true
  | _ => false

/-- The notices of the end. -/
def Notice.isEnd : Notice → Bool
  | .exit | .disconnect => true
  | _ => false

namespace Request.Idle

theorem call {c : Call} (other : c.isBooked = false) : (Request.call c).Idle where
  booked target := by
    cases c with
    | deleteRequest request => cases other
    | _ => rfl
  settled reply := by
    cases c with
    | requestStep thread kind => cases other
    | _ => rfl

theorem hook {notice : Notice} (lives : notice.isEnd = false) : (Request.hook notice).Idle where
  booked target := by
    cases notice with
    | exit => cases lives
    | disconnect => cases lives
    | _ => rfl
  settled _ := rfl

theorem listen {listener : Listener} {event : Event} : (Request.listen listener event).Idle :=
  ⟨fun _ => rfl, fun _ => rfl⟩

theorem read {delivered : Except ChannelFailure EventSet} : (Request.read delivered).Idle :=
  ⟨fun _ => rfl, fun _ => rfl⟩

end Request.Idle

/-- Nothing that is told or asked for enters anything. -/
def Exchange.Idle {σ : Type} : Exchange σ → Prop
  | .told n => n.booked? = none
  | .asked q _ _ _ => q.Idle

/-- The steps that are pending in a model. -/
def Target.books (target : Target) : Books := target.threads.pending

namespace Books

variable {σ : Type}

/-- `Along model books passed books'`: the books take what passes, and go by the model wherever it is
handed over. -/
def Along (model : σ → Target) : Books → List (Exchange σ) → Books → Prop
  | books, [], books' => books' = books
  | books, .told n :: later, books' =>
    ∃ next, books.Follows n.booked?.toList next ∧ Along model next later books'
  | books, .asked q s reply t :: later, books' =>
    books.Follows (q.booked? (model s)).toList (model s).books ∧
      ∃ next, (model t).books.Follows (q.settled? reply).toList next ∧ Along model next later books'

variable {model : σ → Target} {books between books' : Books}

theorem along_append_iff {first second : List (Exchange σ)} :
    Along model books (first ++ second) books' ↔
      ∃ between, Along model books first between ∧ Along model between second books' := by
  induction first generalizing books with
  | nil =>
      constructor
      · intro along
        exact ⟨books, rfl, along⟩
      · rintro ⟨between, rfl, along⟩
        exact along
  | cons e first ih =>
      cases e with
      | told n =>
          simp only [List.cons_append, Along, ih]
          constructor
          · rintro ⟨next, told, between, head, tail⟩
            exact ⟨between, ⟨next, told, head⟩, tail⟩
          · rintro ⟨between, ⟨next, told, head⟩, tail⟩
            exact ⟨next, told, between, head, tail⟩
      | asked q s reply t =>
          simp only [List.cons_append, Along, ih]
          constructor
          · rintro ⟨asked, next, replied, between, head, tail⟩
            exact ⟨between, ⟨asked, next, replied, head⟩, tail⟩
          · rintro ⟨between, ⟨asked, next, replied, head⟩, tail⟩
            exact ⟨asked, next, replied, between, head, tail⟩

theorem along_onPart_iff {passed : List (Exchange σ)} :
    Along id books (passed.map (Exchange.onPart model)) books' ↔ Along model books passed books' := by
  induction passed generalizing books with
  | nil => exact Iff.rfl
  | cons e later ih =>
      cases e with
      | told n => simp only [List.map_cons, Exchange.onPart, Along, ih]
      | asked q s reply t => simp only [List.map_cons, Exchange.onPart, Along, ih, id]

theorem Along.told {n : Note} {later : List (Exchange σ)} (plain : n.booked? = none)
    (along : Along model books later books') : Along model books (.told n :: later) books' := by
  refine ⟨books, ?_, along⟩
  rw [plain]
  rfl

/-- A request that enters nothing finds the books as they are. -/
theorem Along.asked {q : Request} {s t : σ} {reply : q.Reply} {later : List (Exchange σ)} (idle : q.Idle)
    (along : Along model (model t).books later books') :
    Along model (model s).books (.asked q s reply t :: later) books' := by
  refine ⟨?_, (model t).books, ?_, along⟩
  · rw [idle.booked]
    rfl
  · rw [idle.settled]
    rfl

/-- A pending step is crossed out and its request is deleted. -/
theorem Along.deleted {s t : σ} {step : PendingStep} {thread : ThreadRef}
    {reply : (Request.call (.deleteRequest step.request)).Reply} {later : List (Exchange σ)}
    (pending : books thread = some step) (crossed : (model s).books = Function.update books thread none)
    (along : Along model (model t).books later books') :
    Along model books (.asked (.call (.deleteRequest step.request)) s reply t :: later) books' := by
  refine ⟨?_, (model t).books, rfl, along⟩
  rw [crossed]
  exact (Takes.delete pending).follows

end Books

open Books

/-! ### Operations -/

/-- While somebody waited for anything but the channel, the records of the threads were left alone. -/
def Exchange.Spares {σ : Type} (model : σ → Target) : Exchange σ → Prop
  | .told _ => True
  | .asked q s _ t => q.isRead = false → (model t).threads.threads = (model s).threads.threads

theorem Exchange.spares_onPart {passed : List (Exchange Site)}
    (spares : ∀ e ∈ passed, e.Spares Site.target) :
    ∀ e ∈ passed.map (Exchange.onPart Site.target), e.Spares id := by
  intro e mem
  obtain ⟨whole, here, rfl⟩ := List.mem_map.mp mem
  cases whole with
  | told n => trivial
  | asked q s reply t => exact spares (.asked q s reply t) here

theorem Target.books_congr {target target' : Target}
    (same : target'.threads.threads = target.threads.threads) : target'.books = target.books :=
  ThreadRegistry.pending_congr same

/-- The books after a course of the operation are those of the model that it leaves. -/
def Operation.Tracks {σ α : Type} (model : σ → Target) (x : Operation σ α) : Prop :=
  ∀ s passed a t, x.Course s passed a t → (∀ e ∈ passed, e.Spares model) →
    Along model (model s).books passed (model t).books

namespace Operation.Tracks

variable {σ α β ε : Type} {model : σ → Target}

theorem pure {a : α} : (pure a : Operation σ α).Tracks model := by
  intro s passed b t course _
  obtain ⟨rfl, rfl, rfl⟩ := Course.pure_iff.mp course
  rfl

theorem bind {x : Operation σ α} {f : α → Operation σ β} (tracks : x.Tracks model)
    (next : ∀ a, (f a).Tracks model) : (x >>= f).Tracks model := by
  intro s passed b t course spares
  obtain ⟨a, u, first, second, head, tail, rfl⟩ := Course.bind_iff.mp course
  refine along_append_iff.mpr ⟨(model u).books, ?_, ?_⟩
  · exact tracks _ _ _ _ head fun e mem => spares e (List.mem_append_left _ mem)
  · exact next a _ _ _ _ tail fun e mem => spares e (List.mem_append_right _ mem)

theorem read : (Operation.read : Operation σ σ).Tracks model := by
  intro s passed a t course _
  cases course
  rfl

theorem update {f : σ → σ} (same : ∀ s, (model (f s)).books = (model s).books) :
    (Operation.update f).Tracks model := by
  intro s passed a t course _
  obtain ⟨rfl, rfl⟩ := Course.update_iff.mp course
  exact same s

theorem tell {n : Note} (plain : n.booked? = none) : (Operation.tell n : Operation σ Unit).Tracks model := by
  intro s passed a t course _
  obtain ⟨rfl, rfl⟩ := Course.tell_iff.mp course
  exact .told plain rfl

theorem ask {q : Request} (idle : q.Idle) : (Operation.ask q : Operation σ q.Reply).Tracks model := by
  intro s passed reply t course _
  obtain rfl := Course.ask_iff.mp course
  exact .asked idle rfl

theorem run_pure {b : β} : (ExceptT.run (Pure.pure b : ExceptT ε (Operation σ) β)).Tracks model :=
  Tracks.pure

theorem run_throw {e : ε} : (ExceptT.run (throw e : ExceptT ε (Operation σ) β)).Tracks model :=
  Tracks.pure

theorem run_bind {x : ExceptT ε (Operation σ) α} {f : α → ExceptT ε (Operation σ) β}
    (tracks : x.run.Tracks model) (next : ∀ a, (f a).run.Tracks model) : (x >>= f).run.Tracks model := by
  rw [ExceptT.run_bind]
  refine tracks.bind fun r => ?_
  cases r with
  | ok a => exact next a
  | error e => exact .pure

theorem run_perform {x : Operation σ β} (tracks : x.Tracks model) :
    (ExceptT.run (perform x : ExceptT ε (Operation σ) β)).Tracks model :=
  tracks.bind fun _ => .pure

theorem handling_call {c : Call} (idle : (Request.call c).Idle) :
    (Handling.call c : Handling σ c.Answer).run.Tracks model := by
  refine .run_bind (.run_perform (.ask idle)) fun answer => ?_
  cases answer with
  | ok answer => exact .run_pure
  | error failure => exact .run_throw

theorem attempt_call {c : Call} (idle : (Request.call c).Idle) :
    (Attempt.call c : Attempt σ c.Answer).run.Tracks model := by
  refine .run_bind (.run_perform (.ask idle)) fun answer => ?_
  cases answer with
  | ok answer => exact .run_pure
  | error failure => exact .run_throw

theorem announce {notice : Notice} (idle : (Request.hook notice).Idle) :
    (Handling.announce notice : Handling σ Unit).run.Tracks model := by
  refine .run_bind (.run_perform (.ask idle)) fun reply => ?_
  cases reply with
  | done => exact .run_pure
  | failed problem => exact .run_perform (.tell rfl)
  | panicked text => exact .run_throw

end Operation.Tracks

/-! ### Handlers and controls -/

namespace Target

variable {target target' : Target} {passed : List (Exchange Target)} {handle : ThreadRef}

theorem setStatus_tracks {status : TargetStatus} : (setStatus status).Tracks id :=
  .bind .read fun _ => .bind (.tell rfl) fun _ => .update fun _ => rfl

theorem ensureAlive_tracks : ensureAlive.run.Tracks id := by
  refine .run_bind (.run_perform .read) fun target => ?_
  cases target.isTerminated with
  | true => exact .run_throw
  | false => exact .run_pure

theorem vmStart_tracks {thread : ThreadRef} : (vmStart thread).run.Tracks id := by
  refine .run_bind (.handling_call (.call rfl)) fun existing =>
    .run_bind (.run_perform (.update fun target => ?_)) fun _ =>
    .run_bind (.run_perform setStatus_tracks) fun _ => .announce (.hook rfl)
  simp [books]

theorem threadStart_tracks : (threadStart handle).run.Tracks id := by
  refine .run_bind (.run_perform (.update fun _ => ThreadRegistry.pending_register)) fun _ =>
    .run_bind (.run_perform .read) fun target => ?_
  cases target.threads.get? handle with
  | some thread => exact .run_bind (.run_perform (.tell rfl)) fun _ => .announce (.hook rfl)
  | none => exact .run_pure

/-- A thread that dies takes its step with it. -/
theorem threadDeath_tracks : (threadDeath handle).run.Tracks id := by
  intro target passed r target' course spares
  have course := Course.run_update_bind_iff.mp (Course.run_read_bind_iff.mp course)
  have removed : ({ target with threads := target.threads.remove handle } : Target).books =
      Function.update target.books handle none := ThreadRegistry.pending_remove
  cases known : target.threads.get? handle with
  | none =>
      rw [known] at course
      obtain ⟨_, told, -⟩ := Course.run_perform_iff.mp course
      obtain ⟨rfl, rfl⟩ := Course.tell_iff.mp told
      have unknown : target.books handle = none := by simp [books, ThreadRegistry.pending, known]
      rw [← unknown, Function.update_eq_self] at removed
      exact .told rfl removed
  | some thread =>
      rw [known] at course
      obtain ⟨later, announces, rfl⟩ := Course.run_tell_bind_iff.mp course
      obtain ⟨-, rfl⟩ := ThreadRegistry.get?_eq_some known
      have lost : target.books thread.handle = thread.pendingStep := ThreadRegistry.pending_of_get? known
      have died : target.books.Takes (.died thread.handle (target.books thread.handle))
          (Function.update target.books thread.handle none) := .die
      rw [lost, ← removed] at died
      exact ⟨_, died.follows, Operation.Tracks.announce (.hook rfl) _ _ _ _ announces fun e mem =>
        spares e (List.mem_cons_of_mem _ mem)⟩

theorem classLoad_tracks {thread : ThreadRef} {type : TypeRef} {name : String} :
    (classLoad thread type name).run.Tracks id :=
  .run_bind (.run_perform (.tell rfl)) fun _ => .run_bind (.run_perform (.update fun _ => rfl)) fun _ =>
    .announce (.hook rfl)

/-- The step of a thread that stopped is crossed out before its request is deleted. -/
theorem stepDone_tracks {location : Location} : (stepDone handle location).run.Tracks id := by
  intro target passed r target' course spares
  have course := Course.run_read_bind_iff.mp course
  cases known : target.threads.get? handle with
  | none =>
      rw [known] at course
      obtain ⟨rfl, -, rfl⟩ := Course.run_throw_iff.mp course
      rfl
  | some thread =>
      rw [known] at course
      have course := Course.run_update_bind_iff.mp course
      have pending : target.books handle = thread.pendingStep := ThreadRegistry.pending_of_get? known
      have stopped : ({ target with threads :=
          (target.threads.modify handle (·.stopAt location)).setFocus handle } : Target).books =
          Function.update target.books handle none := by
        simp [books, ThreadRegistry.pending_modify, Thread.stopAt]
      cases step : thread.pendingStep with
      | none =>
          rw [step] at pending course
          rw [← pending, Function.update_eq_self] at stopped
          rw [id, ← stopped]
          exact Operation.Tracks.announce (.hook rfl) _ _ _ _ course spares
      | some step =>
          rw [step] at pending course
          rcases Course.run_bind_iff.mp course with
            ⟨i, deletes, -⟩ | ⟨_, u, first, second, deletes, announces, rfl⟩
          · obtain ⟨answer, rfl, -⟩ := Handling.call_iff.mp deletes
            exact .deleted pending stopped rfl
          · obtain ⟨answer, rfl, -⟩ := Handling.call_iff.mp deletes
            exact .deleted pending stopped <| Operation.Tracks.announce (.hook rfl) _ _ _ _ announces
              fun e mem => spares e (List.mem_append_right _ mem)

theorem resumeThread_tracks : (resumeThread handle).run.Tracks id := by
  refine .run_bind (.handling_call (.call rfl)) fun _ => .run_perform (.update fun target => ?_)
  refine (ThreadRegistry.pending_modify (·.setStatus_handle .running)).trans ?_
  simp only [Thread.setStatus_pendingStep]
  exact Function.update_eq_self handle target.books

/-- The model is released before the hook hears of the end. -/
theorem heed_tracks_of_end {event : Event} {status : TargetStatus} {notice : Notice}
    (ends : event.happening.ending? = some (status, notice)) : (heed event).run.Tracks id := by
  intro target passed r target' course _
  obtain ⟨reply, rfl, -⟩ := heed_of_end ends course
  have entered : (Request.hook notice).booked? (target.released status) = some .released := by
    obtain ⟨request, happening⟩ := event
    cases happening with
    | vmDeath | vmDisconnect => cases ends; rfl
    | _ => cases ends
  have told : Along id target'.books (reply.remarks : List (Exchange Target)) target'.books := by
    cases reply with
    | failed problem => exact .told rfl rfl
    | done | panicked => rfl
  refine .told rfl (.told rfl ⟨?_, target'.books, rfl, told⟩)
  have released : target.books.Follows [.released] (target.released status).books :=
    Takes.release.follows
  simp only [id, entered]
  exact released

theorem heed_tracks {event : Event} : (heed event).run.Tracks id := by
  obtain ⟨request, happening⟩ := event
  cases happening with
  | step thread location =>
      refine .run_bind (.run_perform .read) fun target => ?_
      cases target.threads.get? thread with
      | some found => exact stepDone_tracks
      | none => exact .run_bind (.run_perform (.tell rfl)) fun _ => resumeThread_tracks
  | threadStart thread => exact threadStart_tracks
  | threadDeath thread => exact threadDeath_tracks
  | classPrepare thread type name => exact classLoad_tracks
  | vmStart thread => exact vmStart_tracks
  | vmDeath => exact heed_tracks_of_end rfl
  | vmDisconnect => exact heed_tracks_of_end rfl
  | breakpoint | exception | methodEntry | methodExit | other => exact .run_perform (.tell rfl)

/-- A step that is taken back is crossed out before its request is deleted. -/
theorem rollback_along {step : PendingStep} {u : Unit} (pending : target.books handle = some step)
    (course : (rollback handle step.request).Course target passed u target') :
    Along id target.books passed target'.books := by
  have course := Course.update_bind_iff.mp course
  obtain ⟨reply, asked, later, rest, rfl⟩ := Course.ask_bind_iff.mp course
  have crossed : ({ target with threads := target.threads.modify handle fun t =>
      { t with pendingStep := none, status := .suspended } } : Target).books =
      Function.update target.books handle none := by
    simp [books, ThreadRegistry.pending_modify]
  have told : Along id asked.books later target'.books := by
    cases reply with
    | ok answer =>
        obtain ⟨rfl, -, rfl⟩ := Course.pure_iff.mp rest
        rfl
    | error failure =>
        obtain ⟨rfl, rfl⟩ := Course.tell_iff.mp rest
        exact .told rfl rfl
  exact .deleted pending crossed told

/-- A step that was granted is entered in the model before its thread is resumed, and it is taken back if
that fails. -/
theorem starts_along {kind : StepKind} {request : RequestRef} {thread : Thread} {r : Except Fault Unit}
    (known : target.threads.get? handle = some thread)
    (course : (ExceptT.run (do
      perform (updateThreads (·.modify handle (·.startStep ⟨kind, request⟩)))
      perform (.log (.stepRequested kind handle request))
      match ← perform (.call (.resume handle)) with
      | .ok _ => perform (setStatus .running)
      | .error failure =>
        perform (rollback handle request)
        throw (.remote failure) : Attempt Target Unit)).Course target passed r target')
    (spares : ∀ e ∈ passed, e.Spares id) :
    Along id (Function.update target.books handle (some ⟨kind, request⟩)) passed target'.books := by
  have started : ({ target with threads :=
        (target.threads.modify handle (·.startStep ⟨kind, request⟩)) } : Target).books =
      Function.update target.books handle (some ⟨kind, request⟩) := by
    simp [books, ThreadRegistry.pending_modify, known, Thread.startStep]
  obtain ⟨_, told, rfl⟩ := Course.run_tell_bind_iff.mp (Course.run_update_bind_iff.mp course)
  obtain ⟨reply, resumed, later, rest, rfl⟩ := Course.run_ask_bind_iff.mp told
  have spared : resumed.books = Function.update target.books handle (some ⟨kind, request⟩) := by
    rw [← started]
    exact books_congr (spares _ (List.mem_cons_of_mem _ List.mem_cons_self) rfl)
  rw [← started]
  refine .told rfl (.asked (.call rfl) ?_)
  cases reply with
  | ok answer =>
      obtain ⟨_, sets, -⟩ := Course.run_perform_iff.mp rest
      exact setStatus_tracks _ _ _ _ sets fun e mem =>
        spares e (List.mem_cons_of_mem _ (List.mem_cons_of_mem _ mem))
  | error failure =>
      obtain ⟨_, back, first, last, takes, fails, rfl⟩ := Course.run_perform_bind_iff.mp rest
      obtain ⟨rfl, -, rfl⟩ := Course.run_throw_iff.mp fails
      have pending : resumed.books handle = some ⟨kind, request⟩ := by
        rw [spared, Function.update_self]
      rw [List.append_nil]
      exact rollback_along pending takes

/-- A step is entered when its request is granted. The records have to be left alone meanwhile: a thread
that is no longer known could not be given the step. -/
theorem step_tracks {kind : StepKind} : (step handle kind).run.Tracks id := by
  refine .run_bind ensureAlive_tracks fun _ => ?_
  intro target passed r target' course spares
  have course := Course.run_read_bind_iff.mp course
  cases known : target.threads.get? handle with
  | none =>
      rw [known] at course
      obtain ⟨rfl, -, rfl⟩ := Course.run_throw_iff.mp course
      rfl
  | some thread =>
      rw [known] at course
      cases stepping : thread.isStepping with
      | true =>
          simp only [stepping, if_true] at course
          obtain ⟨rfl, -, rfl⟩ := Course.run_throw_iff.mp course
          rfl
      | false =>
          simp only [stepping, Bool.false_eq_true, if_false] at course
          have idle : target.books handle = none := by
            have pending : target.books handle = thread.pendingStep := ThreadRegistry.pending_of_get? known
            rw [pending]
            simpa [Thread.isStepping] using stepping
          rcases Attempt.call_bind_iff.mp course with
            ⟨failure, rfl, -⟩ | ⟨request, granted, later, starts, rfl⟩
          · exact ⟨rfl, _, rfl, rfl⟩
          · have spared : granted.threads.threads = target.threads.threads := spares _ List.mem_cons_self rfl
            have waits : granted.books handle = none := by
              rw [books_congr spared]
              exact idle
            have known : granted.threads.get? handle = some thread := by
              simp only [ThreadRegistry.get?, spared]
              exact known
            have others := fun e mem => spares e (List.mem_cons_of_mem _ mem)
            exact ⟨rfl, _, (Takes.issue waits).follows, starts_along known starts others⟩

theorem Control.tracks (wish : Control) : wish.attempt.run.Tracks id := by
  have all : ∀ {status}, (updateThreads (·.setStatusAll status)).Tracks id := fun {status} =>
    .update fun _ => ThreadRegistry.pending_setStatusAll
  cases wish with
  | resume =>
      exact .run_bind ensureAlive_tracks fun _ => .run_bind (.attempt_call (.call rfl)) fun _ =>
        .run_bind (.run_perform all) fun _ => .run_perform setStatus_tracks
  | suspend =>
      exact .run_bind ensureAlive_tracks fun _ => .run_bind (.attempt_call (.call rfl)) fun _ =>
        .run_bind (.run_perform all) fun _ => .run_perform setStatus_tracks
  | step thread kind => exact step_tracks
  | terminate exitCode =>
      exact .run_bind ensureAlive_tracks fun _ => .attempt_call (.call rfl)

end Target

end RemoteDebug
