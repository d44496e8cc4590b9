import RemoteDebug.Proofs.Completion
import RemoteDebug.Proofs.TargetEnd

/-!
What the hook hears of changes.

Every handler changes the model first and calls the hook last, with the record as the change left it. Only one
handler asks for something in between: a thread that stopped is suspended in the model before the request of
its step is deleted, and if that is refused the hook does not hear of the stop.

* `Announces` says which notice tells of what an event did to the model.
* `Unheard` is the case of the request that is not deleted.
* `changes_announced`: apart from that case, an event that changes the model is announced once, after the change.
-/

namespace RemoteDebug

open Operation

/-- The notice that the hook was given, with the shared state at that moment. -/
def Exchange.notice? {σ : Type} : Exchange σ → Option (Notice × σ)
  | .asked (.hook notice) here _ _ => some (notice, here)
  | _ => none

/-- `Announces before after happening notice`: the notice tells how the happening brought the model from
`before` to `after`. -/
inductive Announces (before after : Target) : Happening → Notice → Prop where
  | start {thread : ThreadRef} : after.threads.contains thread = true → after.status = .suspended →
      Announces before after (.vmStart thread) (.start thread)
  | gone {happening : Happening} {status : TargetStatus} {notice : Notice} :
      happening.ending? = some (status, notice) → after = before.released status →
      Announces before after happening notice
  | threadStart {handle : ThreadRef} {thread : Thread} : after.threads.get? handle = some thread →
      Announces before after (.threadStart handle) (.threadStart thread)
  /-- The record is shown as it left the registry. -/
  | threadDeath {handle : ThreadRef} {thread : Thread} : before.threads.get? handle = some thread →
      after.threads.get? handle = none →
      Announces before after (.threadDeath handle) (.threadDeath { thread with status := .terminated })
  | classPrepare {thread : ThreadRef} {type : TypeRef} {name : String} :
      after.prepared = before.prepared ++ [⟨type, name, thread⟩] →
      Announces before after (.classPrepare thread type name) (.classPrepare type name)
  | step {handle : ThreadRef} {location : Location} {thread : Thread} :
      after.threads.get? handle = some thread → thread.location = some location →
      Announces before after (.step handle location) (.step thread)

/-- A thread stopped that waited for a step, and all that passed is that the request of the step was not
deleted. -/
def Unheard {σ : Type} (target : Target) (happening : Happening) (passed : List (Exchange σ)) : Prop :=
  ∃ thread location step failure s t, happening = .step thread.handle location ∧
    target.threads.get? thread.handle = some thread ∧ thread.pendingStep = some step ∧
    passed = [.asked (.call (.deleteRequest step.request)) s (.error failure) t]

/-! ### Handlers -/

section Notices

variable {σ τ : Type} {s t : σ} {passed : List (Exchange σ)}

@[simp] theorem notices_told {n : Note} :
    (Exchange.told n :: passed).filterMap Exchange.notice? = passed.filterMap Exchange.notice? := rfl

@[simp] theorem notices_called {c : Call} {answer : Except RemoteFailure c.Answer} :
    (Exchange.asked (.call c) s answer t :: passed).filterMap Exchange.notice? =
      passed.filterMap Exchange.notice? := rfl

/-- An announcement is one notice. -/
@[simp] theorem notices_announced {notice : Notice} {reply : HookReply} :
    (Exchange.asked (.hook notice) s reply t :: reply.remarks).filterMap Exchange.notice? = [(notice, s)] := by
  cases reply <;> rfl

/-- The hook is called once, and it finds what is left. -/
theorem Handling.announce_notices {notice : Notice} {r : Except Interruption Unit}
    (course : (announce notice).run.Course s passed r t) (alone : ∀ e ∈ passed, e.LeavesAlone id) :
    t = s ∧ passed.filterMap Exchange.notice? = [(notice, t)] := by
  obtain ⟨reply, rfl, -⟩ := Handling.announce_iff.mp course
  obtain rfl : t = s := alone _ (.head _)
  exact ⟨rfl, notices_announced⟩

theorem notices_onPart {part : σ → τ} (passed : List (Exchange σ)) :
    (passed.map (Exchange.onPart part)).filterMap Exchange.notice? =
      (passed.filterMap Exchange.notice?).map fun (notice, here) => (notice, part here) := by
  rw [List.filterMap_map, List.map_filterMap]
  congr 1
  funext e
  cases e with
  | told n => rfl
  | asked q s reply t => cases q <;> rfl

end Notices

namespace Target

variable {target target' : Target} {passed : List (Exchange Target)} {r : Except Interruption Unit}

/-- What a handler did to the model is told to the hook once, and the hook finds the model as it is left. -/
def Tells (target : Target) (happening : Happening) (passed : List (Exchange Target)) (target' : Target) : Prop :=
  ∃ notice, Announces target target' happening notice ∧ passed.filterMap Exchange.notice? = [(notice, target')]

theorem vmStart_tells {thread : ThreadRef} (course : (vmStart thread).run.Course target passed r target')
    (alone : ∀ e ∈ passed, e.LeavesAlone id) :
    target' = target ∨ Tells target (.vmStart thread) passed target' := by
  rcases Course.run_bind_iff.mp course with
    ⟨i, called, rfl⟩ | ⟨existing, between, first, second, called, goes, rfl⟩
  · obtain ⟨answer, rfl, -⟩ := Handling.call_iff.mp called
    exact .inl (alone _ (.head _))
  · obtain ⟨answer, rfl, -⟩ := Handling.call_iff.mp called
    obtain rfl : between = target := alone _ (.head _)
    obtain ⟨_, known, told, announces, sets, hears, rfl⟩ :=
      Course.run_perform_bind_iff.mp (Course.run_update_bind_iff.mp goes)
    obtain ⟨rfl, rfl⟩ := setStatus_iff.mp sets
    obtain ⟨rfl, notices⟩ := Handling.announce_notices hears fun e mem => alone e (by simp [mem])
    refine .inr ⟨.start thread, .start ?_ rfl, notices⟩
    obtain ⟨record, mem, same⟩ := ThreadRegistry.contains_iff.mp <|
      (existing.foldl ThreadRegistry.register between.threads).contains_register thread
    refine ThreadRegistry.contains_iff.mpr ⟨record.setStatus .suspended, ?_, by simpa using same⟩
    rw [ThreadRegistry.threads_setFocus, List.foldl_append]
    exact List.mem_map_of_mem mem

theorem threadStart_tells {handle : ThreadRef} (course : (threadStart handle).run.Course target passed r target')
    (alone : ∀ e ∈ passed, e.LeavesAlone id) : Tells target (.threadStart handle) passed target' := by
  have course := Course.run_read_bind_iff.mp (Course.run_update_bind_iff.mp course)
  obtain ⟨thread, known⟩ := Option.isSome_iff_exists.mp (target.threads.contains_register handle)
  simp only [known] at course
  obtain ⟨later, announces, rfl⟩ := Course.run_tell_bind_iff.mp course
  obtain ⟨rfl, notices⟩ := Handling.announce_notices announces fun e mem => alone e (.tail _ mem)
  exact ⟨.threadStart thread, .threadStart known, notices⟩

/-- The death of an unknown thread changes nothing: the focus is on a known one. -/
theorem threadDeath_tells {handle : ThreadRef} (sound : target.Sound)
    (course : (threadDeath handle).run.Course target passed r target') (alone : ∀ e ∈ passed, e.LeavesAlone id) :
    target' = target ∨ Tells target (.threadDeath handle) passed target' := by
  have course := Course.run_update_bind_iff.mp (Course.run_read_bind_iff.mp course)
  cases known : target.threads.get? handle with
  | none =>
      simp only [known] at course
      obtain ⟨_, told, -⟩ := Course.run_perform_iff.mp course
      obtain ⟨rfl, rfl⟩ := Course.tell_iff.mp told
      refine .inl ?_
      have same : target.threads.remove handle = target.threads := sound.ordered.remove_of_unknown known
      rw [same]
  | some thread =>
      simp only [known] at course
      obtain ⟨later, announces, rfl⟩ := Course.run_tell_bind_iff.mp course
      obtain ⟨rfl, notices⟩ := Handling.announce_notices announces fun e mem => alone e (.tail _ mem)
      exact .inr ⟨_, .threadDeath known ThreadRegistry.get?_remove_self, notices⟩

theorem classLoad_tells {thread : ThreadRef} {type : TypeRef} {name : String}
    (course : (classLoad thread type name).run.Course target passed r target')
    (alone : ∀ e ∈ passed, e.LeavesAlone id) : Tells target (.classPrepare thread type name) passed target' := by
  obtain ⟨later, updates, rfl⟩ := Course.run_tell_bind_iff.mp course
  obtain ⟨rfl, notices⟩ := Handling.announce_notices (Course.run_update_bind_iff.mp updates)
    fun e mem => alone e (.tail _ mem)
  exact ⟨_, .classPrepare rfl, notices⟩

/-- The hook hears of the end when the model is released. -/
theorem heed_tells_of_end {event : Event} {status : TargetStatus} {notice : Notice}
    (ends : event.happening.ending? = some (status, notice))
    (course : (heed event).run.Course target passed r target') (alone : ∀ e ∈ passed, e.LeavesAlone id) :
    Tells target event.happening passed target' := by
  obtain ⟨reply, rfl, -⟩ := heed_of_end ends course
  obtain rfl : target' = target.released status := alone _ (List.mem_append_right _ (.head _))
  refine ⟨notice, .gone ends rfl, ?_⟩
  simp [releaseRemarks]

/-- The hook hears of a stop, unless a pending step has a request that is not deleted. -/
theorem StepEnds.tells {thread : Thread} {location : Location}
    (ends : StepEnds target thread location passed r target')
    (known : target.threads.get? thread.handle = some thread) (alone : ∀ e ∈ passed, e.LeavesAlone id) :
    Tells target (.step thread.handle location) passed target' ∨
      Unheard target (.step thread.handle location) passed := by
  obtain rfl := ends.left alone
  have announces : Announces target (target.stopped thread.handle location) (.step thread.handle location)
      (.step (thread.stopAt location)) := .step (get?_stopped known) rfl
  cases ends with
  | idle => exact .inl ⟨_, announces, by simp⟩
  | refused pending => exact .inr ⟨thread, location, _, _, _, _, rfl, known, pending, rfl⟩
  | completed =>
      simp only [List.forall_mem_cons, Exchange.LeavesAlone, id] at alone
      obtain ⟨rfl, -, -⟩ := alone
      exact .inl ⟨_, announces, by simp⟩

/-- A thread that is resumed without a record leaves the model as it is. -/
theorem resumeThread_of_unknown {handle : ThreadRef} (unknown : target.threads.get? handle = none)
    (course : (resumeThread handle).run.Course target passed r target')
    (alone : ∀ e ∈ passed, e.LeavesAlone id) : target' = target := by
  rcases Course.run_bind_iff.mp course with
    ⟨i, called, rfl⟩ | ⟨_, between, first, second, called, updates, rfl⟩
  · obtain ⟨answer, rfl, -⟩ := Handling.call_iff.mp called
    exact alone _ (.head _)
  · obtain ⟨answer, rfl, -⟩ := Handling.call_iff.mp called
    obtain rfl : between = target := alone _ (.head _)
    obtain ⟨_, updates, -⟩ := Course.run_perform_iff.mp updates
    obtain ⟨-, rfl⟩ := Course.update_iff.mp updates
    simp only [ThreadRegistry.modify_of_unknown unknown]

/-- Whatever is done about an event that has no listener, the model stays as it is, or the hook is told. -/
theorem heed_tells {event : Event} (sound : target.Sound)
    (course : (heed event).run.Course target passed r target') (alone : ∀ e ∈ passed, e.LeavesAlone id) :
    target' = target ∨ Tells target event.happening passed target' ∨ Unheard target event.happening passed := by
  obtain ⟨request, happening⟩ := event
  cases happening with
  | step handle location =>
      cases known : target.threads.get? handle with
      | some thread =>
          obtain ⟨-, rfl⟩ := ThreadRegistry.get?_eq_some known
          exact .inr ((heed_ends rfl known course).tells known alone)
      | none =>
          have course := Course.run_read_bind_iff.mp course
          rw [known] at course
          obtain ⟨later, resumes, rfl⟩ := Course.run_tell_bind_iff.mp course
          exact .inl (resumeThread_of_unknown known resumes fun e mem => alone e (.tail _ mem))
  | vmStart thread => exact (vmStart_tells course alone).imp_right .inl
  | threadDeath handle => exact (threadDeath_tells sound course alone).imp_right .inl
  | threadStart handle => exact .inr (.inl (threadStart_tells course alone))
  | classPrepare thread type name => exact .inr (.inl (classLoad_tells course alone))
  | vmDeath => exact .inr (.inl (heed_tells_of_end rfl course alone))
  | vmDisconnect => exact .inr (.inl (heed_tells_of_end rfl course alone))
  | breakpoint | exception | methodEntry | methodExit | other =>
      obtain ⟨_, told, -⟩ := Course.run_perform_iff.mp course
      exact .inl (Course.tell_iff.mp told).2

end Target

/-! ### The result -/

/-- Every change of the model by a handler is announced, with one exception. If the model changes where an event
is routed that has no listener, then the hook was given one notice, it tells of the change, and the hook found the
model as it is left; or else a thread stopped, the request of its step was not deleted, and nobody was told. -/
theorem changes_announced {name : String} {event : Event} {site site' : Site} {passed : List (Exchange Site)}
    {r : Except Interruption Bool} (reached : Target.Reaches { name } site.target)
    (course : (Site.route event).run.Course site passed r site')
    (alone : ∀ e ∈ passed, e.LeavesAlone Site.target) (changed : site'.target ≠ site.target) :
    (∃ notice here, Announces site.target site'.target event.happening notice ∧ here.target = site'.target ∧
        passed.filterMap Exchange.notice? = [(notice, here)]) ∨
      Unheard site.target event.happening passed := by
  obtain ⟨r₀, heeded, -, -⟩ := Site.route_iff.mp course
  have told := Target.heed_tells (reached.sound .empty) heeded (Exchange.leavesAlone_onPart alone)
  rcases told with same | ⟨notice, announces, notices⟩ | ⟨thread, location, step, failure, s, t, stops, known,
    pending, only⟩
  · exact absurd same changed
  · rw [notices_onPart] at notices
    obtain ⟨⟨notice', here⟩, given, same⟩ := List.map_eq_singleton_iff.mp notices
    obtain ⟨rfl, found⟩ := Prod.mk.injEq .. ▸ same
    exact .inl ⟨_, here, announces, found, given⟩
  · obtain ⟨e, rfl, same⟩ := List.map_eq_singleton_iff.mp only
    cases e with
    | told n => cases same
    | asked q u reply v =>
        cases same
        exact .inr ⟨thread, location, step, failure, u, v, stops, known, pending, rfl⟩

namespace Notification.Sample

open Completion.Sample

/-- The site without the thread that steps. -/
def bereft : Site := ⟨{ Target.Sample.running with threads := Target.Sample.running.threads.remove ⟨1⟩ }, {}⟩

/-- The record of the thread when it died. -/
def dead : Thread := { thread with status := .terminated }

/-- What passes at the death of the thread. -/
def dying : List (Exchange Site) := [
  .told (.log (.threadDied dead)), .asked (.hook (.threadDeath dead)) bereft .done bereft]

theorem dies : (Site.route ⟨none, .threadDeath ⟨1⟩⟩).run.Course site dying (.ok false) bereft :=
  .note (.ask .done)

/-- What passes when the request of the step is not deleted. -/
def refused : List (Exchange Site) := [
  .asked (.call (.deleteRequest ⟨501⟩)) ⟨stopped, {}⟩ (.error (.notSupported "delete")) ⟨stopped, {}⟩]

theorem stops : (Site.route ⟨some ⟨501⟩, .step ⟨1⟩ place⟩).run.Course site refused
    (.error (.fault (.remote (.notSupported "delete")))) ⟨stopped, {}⟩ :=
  .ask .done

end Notification.Sample

open Completion.Sample Notification.Sample in
/-- The death of a thread that steps is announced with the record that left. -/
theorem changes_announced_dying :
    Target.Reaches { name := "sample" } site.target ∧
      (Site.route ⟨none, .threadDeath ⟨1⟩⟩).run.Course site dying (.ok false) bereft ∧
      (∀ e ∈ dying, e.LeavesAlone Site.target) ∧ bereft.target ≠ site.target ∧
      ∃ here, here.target = bereft.target ∧
        dying.filterMap Exchange.notice? = [(.threadDeath { thread with status := .terminated }, here)] := by
  have alone : ∀ e ∈ dying, e.LeavesAlone Site.target := by simp [dying, Exchange.LeavesAlone]
  have changed : bereft.target ≠ site.target := by decide
  refine ⟨Target.Sample.reaches_running, dies, alone, changed, ?_⟩
  rcases changes_announced Target.Sample.reaches_running dies alone changed with
    ⟨notice, here, announces, found, given⟩ | ⟨_, _, _, _, _, _, impossible, -⟩
  · cases announces with
    | gone ends => cases ends
    | threadDeath known =>
        cases known
        exact ⟨here, found, given⟩
  · cases impossible

open Completion.Sample Notification.Sample in
/-- The request of a step is not deleted: the model changes, and the hook does not hear that the thread
stopped. -/
theorem stop_unheard :
    Target.Reaches { name := "sample" } site.target ∧
      (Site.route ⟨some ⟨501⟩, .step ⟨1⟩ place⟩).run.Course site refused
        (.error (.fault (.remote (.notSupported "delete")))) ⟨stopped, {}⟩ ∧
      (∀ e ∈ refused, e.LeavesAlone Site.target) ∧ stopped ≠ site.target ∧
      refused.filterMap Exchange.notice? = [] :=
  ⟨Target.Sample.reaches_running, stops, by simp [refused, Exchange.LeavesAlone], by decide, rfl⟩

end RemoteDebug
