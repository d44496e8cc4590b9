import RemoteDebug.Proofs.Coherence
import RemoteDebug.Proofs.Dispatch
import RemoteDebug.Proofs.Pending

/-!
The completion of steps.

A thread that stops is through with whatever step it waited for. The request that a step event comes from is
looked at once, when a listener is sought; after that the event is known by its thread, and a step is completed
by the event of any request.

* `Target.StepEnds` lists the ways in which the handler of a known thread can go.
* `Turn.Completes` is what a step event does that finds no listener and a thread with a pending step, and
  `step_event_completes` says that every such event of a dispatch does it.
-/

namespace RemoteDebug

open Operation

/-- The request whose deletion is asked for. -/
def Exchange.deletion? {σ : Type} : Exchange σ → Option RequestRef
  | .asked (.call (.deleteRequest request)) _ _ _ => some request
  | _ => none

namespace Target

/-! ### The handler of steps -/

/-- The model after a thread stopped at a location: the thread waits for no step and has the focus. -/
def stopped (target : Target) (handle : ThreadRef) (location : Location) : Target :=
  { target with threads := (target.threads.modify handle (·.stopAt location)).setFocus handle }

section Stopped

variable {target : Target} {handle : ThreadRef} {location : Location} {thread : Thread}

theorem get?_stopped (known : target.threads.get? handle = some thread) :
    (target.stopped handle location).threads.get? handle = some (thread.stopAt location) := by
  simp only [stopped, ThreadRegistry.get?, ThreadRegistry.threads_setFocus]
  exact ThreadRegistry.get?_modify (fun _ => rfl) known

theorem focus_stopped (known : target.threads.get? handle = some thread) :
    (target.stopped handle location).threads.focus = some handle := by
  have found : (target.threads.modify handle (·.stopAt location)).get? handle = some (thread.stopAt location) :=
    ThreadRegistry.get?_modify (fun _ => rfl) known
  have registered : (target.threads.modify handle (·.stopAt location)).contains handle = true := by
    rw [ThreadRegistry.contains, found]
    rfl
  simp [stopped, ThreadRegistry.setFocus, registered]

end Stopped

/-- `StepEnds target thread location passed r target'`: the handler of a thread that stopped can go along
`passed` and end with `r`. -/
inductive StepEnds (target : Target) (thread : Thread) (location : Location) :
    List (Exchange Target) → Except Interruption Unit → Target → Prop where
  /-- The thread waited for no step. -/
  | idle {reply : HookReply} {after : Target} : thread.pendingStep = none →
      StepEnds target thread location
        (.asked (.hook (.step (thread.stopAt location))) (target.stopped thread.handle location) reply after ::
          reply.remarks)
        reply.outcome after
  /-- The request of the step cannot be deleted. -/
  | refused {step : PendingStep} {failure : RemoteFailure} {after : Target} : thread.pendingStep = some step →
      StepEnds target thread location
        [.asked (.call (.deleteRequest step.request)) (target.stopped thread.handle location) (.error failure)
          after]
        (.error (.fault (.remote failure))) after
  | completed {step : PendingStep} {reply : HookReply} {between after : Target} :
      thread.pendingStep = some step →
      StepEnds target thread location
        (.asked (.call (.deleteRequest step.request)) (target.stopped thread.handle location) (.ok ()) between ::
          .asked (.hook (.step (thread.stopAt location))) between reply after :: reply.remarks)
        reply.outcome after

section Ends

variable {target target' : Target} {thread : Thread} {location : Location} {passed : List (Exchange Target)}
  {r : Except Interruption Unit}

theorem stepDone_ends (known : target.threads.get? thread.handle = some thread)
    (course : (stepDone thread.handle location).run.Course target passed r target') :
    StepEnds target thread location passed r target' := by
  have course := Course.run_read_bind_iff.mp course
  rw [known] at course
  have course := Course.run_update_bind_iff.mp course
  cases pending : thread.pendingStep with
  | none =>
      rw [pending] at course
      obtain ⟨reply, rfl, rfl⟩ := Handling.announce_iff.mp course
      exact .idle pending
  | some step =>
      rw [pending] at course
      rcases Course.run_bind_iff.mp course with
        ⟨i, deletes, rfl⟩ | ⟨_, between, first, second, deletes, announces, rfl⟩
      · obtain ⟨answer, rfl, ends⟩ := Handling.call_iff.mp deletes
        cases answer with
        | ok u => cases ends
        | error failure =>
            cases ends
            exact .refused pending
      · obtain ⟨answer, rfl, ends⟩ := Handling.call_iff.mp deletes
        obtain ⟨reply, rfl, rfl⟩ := Handling.announce_iff.mp announces
        cases answer with
        | ok u => exact .completed pending
        | error failure => cases ends

/-- What is done about a step event of a known thread is the work of the handler of steps. -/
theorem heed_ends {event : Event} (step : event.happening = .step thread.handle location)
    (known : target.threads.get? thread.handle = some thread)
    (course : (heed event).run.Course target passed r target') :
    StepEnds target thread location passed r target' := by
  obtain ⟨request, happening⟩ := event
  subst step
  have course := Course.run_read_bind_iff.mp course
  rw [known] at course
  exact stepDone_ends known course

/-- Whatever comes of the calls, the thread has stopped. -/
theorem StepEnds.left (ends : StepEnds target thread location passed r target')
    (alone : ∀ e ∈ passed, e.LeavesAlone id) : target' = target.stopped thread.handle location := by
  cases ends with
  | idle => exact alone _ (.head _)
  | refused => exact alone _ (.head _)
  | completed =>
      have deletes := alone _ (.head _)
      have announces := alone _ (.tail _ (.head _))
      exact announces.trans deletes

/-- The request of a pending step is deleted once. -/
theorem StepEnds.deletions {step : PendingStep} (ends : StepEnds target thread location passed r target')
    (pending : thread.pendingStep = some step) : passed.filterMap Exchange.deletion? = [step.request] := by
  cases ends with
  | idle idle => cases pending.symm.trans idle
  | refused waited =>
      cases pending.symm.trans waited
      rfl
  | @completed _ reply _ _ waited =>
      cases pending.symm.trans waited
      cases reply <;> rfl

end Ends

end Target

/-! ### Turns -/

theorem Exchange.filterMap_deletion_onPart {σ τ : Type} {part : σ → τ} (passed : List (Exchange σ)) :
    (passed.map (Exchange.onPart part)).filterMap Exchange.deletion? = passed.filterMap Exchange.deletion? := by
  rw [List.filterMap_map]
  congr 1
  funext e
  cases e with
  | told n => rfl
  | asked q s reply t =>
      cases q with
      | call c => cases c <;> rfl
      | hook | listen | read => rfl

namespace Turn

variable {turn : Turn}

/-- In the turn of an event that finds no listener the model does its part about the event. -/
theorem heeded (unbound : turn.recipient? = none) :
    ∃ r waited, (Target.heed turn.event).run.Course turn.before.target (waited.map (.onPart Site.target)) r
      turn.after.target ∧ turn.passed = waited ++ turn.care.remarks := by
  obtain ⟨result, waited, site, -, course, passed, after⟩ := handled_of_recipient unbound
  obtain ⟨r, heeded, -, -⟩ := Site.route_iff.mp course
  refine ⟨r, waited, ?_, passed⟩
  rw [after, Site.settle_target]
  exact heeded

/-- The step that a thread waited for is completed at a location. -/
structure Completes (turn : Turn) (thread : Thread) (step : PendingStep) (location : Location) : Prop where
  deleted : turn.passed.filterMap Exchange.deletion? = [step.request]
  record : turn.after.target.threads.get? thread.handle =
    some { thread with status := .suspended, location := some location, pendingStep := none }
  focus : turn.after.target.threads.focus = some thread.handle
  /-- Nothing else is changed. -/
  whole : turn.after.target = turn.before.target.stopped thread.handle location

theorem completes {thread : Thread} {step : PendingStep} {location : Location}
    (stops : turn.event.happening = .step thread.handle location) (unbound : turn.recipient? = none)
    (known : turn.before.target.threads.get? thread.handle = some thread)
    (pending : thread.pendingStep = some step) (alone : ∀ e ∈ turn.passed, e.LeavesAlone Site.target) :
    turn.Completes thread step location := by
  obtain ⟨r, waited, course, passed⟩ := heeded unbound
  have ends := Target.heed_ends stops known course
  have whole : turn.after.target = turn.before.target.stopped thread.handle location :=
    ends.left <| Exchange.leavesAlone_onPart fun e mem =>
      alone e (by rw [passed]; exact List.mem_append_left _ mem)
  constructor
  case deleted =>
    rw [passed, List.filterMap_append, Care.filterMap_remarks _ fun _ => rfl, List.append_nil,
      ← Exchange.filterMap_deletion_onPart, ends.deletions pending]
  case record =>
    rw [whole]
    exact Target.get?_stopped known
  case focus =>
    rw [whole]
    exact Target.focus_stopped known
  case whole => exact whole

end Turn

/-! ### Dispatches -/

/-- A delivery leaves what its last turn leaves. -/
theorem Delivery.left {events : List Event} {site site' : Site} {turns : List Turn} {turn : Turn}
    (delivery : Delivery events site turns site') (last : turns.getLast? = some turn) : site' = turn.after := by
  obtain ⟨earlier, rfl⟩ := List.getLast?_eq_some_iff.mp last
  obtain ⟨rest, delivery⟩ := delivery.from_turn
  cases delivery with
  | last => rfl
  | onward _ _ _ _ nothing => cases nothing <;> rfl

/-- When the turns are over the model is changed by others only. -/
theorem Ending.target_eq {set : EventSet} {turns : List Turn} {delivered site' : Site}
    {ending : List (Exchange Site)} {r : Except Interruption DispatchOutcome}
    (ends : Ending set turns delivered ending r site') (alone : ∀ e ∈ ending, e.LeavesAlone Site.target) :
    site'.target = delivered.target := by
  cases ends with
  | unwound => rfl
  | closed _ closing =>
      cases closing with
      | left => rfl
      | resumed => exact alone _ (.head _)
      | refused =>
          refine (Site.settle_target _ _).trans ?_
          exact alone _ (.head _)

/-- Whatever request it comes from, a step event without a listener completes the step that its thread waits
for: the request of the step is deleted, and the thread is suspended at the location of the event and in focus.
If no event follows, the dispatch leaves the model so. -/
theorem step_event_completes {set : EventSet} {site site' : Site} {passed : List (Exchange Site)}
    {r : Except Interruption DispatchOutcome}
    (course : (Site.dispatch set).run.Course site passed r site') :
    ∃ account : Account set site passed r site', ∀ turn ∈ account.turns, ∀ thread location step,
      turn.event.happening = .step thread.handle location → turn.recipient? = none →
      turn.before.target.threads.get? thread.handle = some thread → thread.pendingStep = some step →
      (∀ e ∈ turn.passed, e.LeavesAlone Site.target) →
      turn.Completes thread step location ∧
        (account.turns.getLast? = some turn → (∀ e ∈ account.ending, e.LeavesAlone Site.target) →
          site'.target = turn.after.target) := by
  obtain ⟨account⟩ := Site.dispatch_course course
  refine ⟨account, ?_⟩
  intro turn _ thread location step stops unbound known pending alone
  refine ⟨turn.completes stops unbound known pending alone, fun last others => ?_⟩
  rw [account.ends.target_eq others, account.delivery.left last]

/-! ### A completion to look at -/

namespace Completion.Sample

/-- A site whose first thread steps by request 501; the focus is on the second thread. -/
def site : Site := ⟨Target.Sample.running, {}⟩

def place : Location := ⟨⟨10⟩, 2, 14⟩

/-- A set with the step event of the first thread by some request. -/
def set (request : RequestRef) : EventSet := ⟨.eventThread, [⟨some request, .step ⟨1⟩ place⟩]⟩

/-- The thread while it steps. -/
def thread : Thread := ⟨1, ⟨1⟩, .stepping, some ⟨.over, ⟨501⟩⟩, none⟩

def stopped : Target := Target.Sample.running.stopped ⟨1⟩ place

/-- The site while a set of one event is dispatched. -/
def during : Site := ⟨stopped, { state := .dispatching }⟩

/-- What passes when the request is deleted and the hook returns. -/
def passed (request : RequestRef) : List (Exchange Site) := [
  .told (.log (.dispatching (set request))),
  .asked (.call (.deleteRequest ⟨501⟩)) during (.ok ()) during,
  .asked (.hook (.step (thread.stopAt place))) during .done during,
  .told (.log (.dispatched 1 0 false))]

def outcome : DispatchOutcome where
  voted := false
  resumed := false
  dispatched := 1
  skipped := 0

theorem course (request : RequestRef) :
    (Site.dispatch (set request)).run.Course site (passed request) (.ok outcome) ⟨stopped, {}⟩ :=
  .note (.ask (.ask (.note .done)))

theorem alone (request : RequestRef) : ∀ e ∈ passed request, e.LeavesAlone Site.target := by
  simp [passed, Exchange.LeavesAlone]

/-- The event of a set has a turn. -/
theorem exists_turn {request : RequestRef} {passed : List (Exchange Site)}
    {r : Except Interruption DispatchOutcome} {site' : Site} (account : Account (set request) site passed r site') :
    ∃ turn ∈ account.turns, turn.event = ⟨some request, .step ⟨1⟩ place⟩ ∧
      turn.before = site.opened (set request) := by
  obtain ⟨turns, delivered, ending, delivery, ends, same⟩ := account
  cases delivery with
  | stopped stopped => cases stopped
  | last event before => exact ⟨_, .head _, event, before⟩
  | onward event before => exact ⟨_, .head _, event, before⟩

end Completion.Sample

open Completion.Sample in
/-- A step is completed by an event of its own request. -/
theorem step_event_completes_own :
    (Site.dispatch (set ⟨501⟩)).run.Course site (passed ⟨501⟩) (.ok outcome) ⟨stopped, {}⟩ ∧
      ∃ account : Account (set ⟨501⟩) site (passed ⟨501⟩) (.ok outcome) ⟨stopped, {}⟩, ∃ turn ∈ account.turns,
        turn.event = ⟨some ⟨501⟩, .step ⟨1⟩ place⟩ ∧ turn.Completes thread ⟨.over, ⟨501⟩⟩ place := by
  obtain ⟨account, completes⟩ := step_event_completes (course ⟨501⟩)
  obtain ⟨turn, mem, event, before⟩ := exists_turn account
  have unbound : turn.recipient? = none := by
    rw [Turn.recipient?, event, before]
    rfl
  have known : turn.before.target.threads.get? thread.handle = some thread := by
    rw [before]
    rfl
  have finished := completes turn mem thread place ⟨.over, ⟨501⟩⟩ (by rw [event]; rfl) unbound known rfl
    (account.forall_turns (alone _) turn mem)
  exact ⟨course _, account, turn, mem, event, finished.1⟩

open Completion.Sample in
/-- A step event of request 999 completes the step of request 501: the step is no longer pending and its
request is deleted. -/
theorem foreign_event_completes :
    Target.Reaches { name := "sample" } site.target ∧
      (Site.dispatch (set ⟨999⟩)).run.Course site (passed ⟨999⟩) (.ok outcome) ⟨stopped, {}⟩ ∧
      (∀ e ∈ passed ⟨999⟩, e.LeavesAlone Site.target) ∧ site.dispatcher.listeners.get? ⟨999⟩ = none ∧
      (site.target.threads.get? ⟨1⟩).bind Thread.pendingStep = some ⟨.over, ⟨501⟩⟩ ∧
      (stopped.threads.get? ⟨1⟩).bind Thread.pendingStep = none ∧
      (passed ⟨999⟩).filterMap Exchange.deletion? = [⟨501⟩] :=
  ⟨Target.Sample.reaches_running, course _, alone _, rfl, rfl, rfl, rfl⟩

end RemoteDebug
