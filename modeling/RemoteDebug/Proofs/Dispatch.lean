import RemoteDebug.Proofs.Delivery

/-!
The dispatch of an event set.

* `Closing` is what happens to a set once its events are delivered: it is left as it is, or it is
  resumed, or the resumption is refused.
* `Account` divides what passes in a dispatch into the turns of its events and the ending.
  `dispatch_course` gives an account of every course of `Site.dispatch`.
* `Exchange.listen?` and `Exchange.resumption?` pick out what dispatching is about: which listeners are
  called with what, and which sets are resumed.
-/

namespace RemoteDebug

open Operation

/-- The listener that was called, with the event it was given. -/
def Exchange.listen? {σ : Type} : Exchange σ → Option (Listener × Event)
  | .asked (.listen listener event) _ _ _ => some (listener, event)
  | _ => none

/-- The set whose resumption was asked for. -/
def Exchange.resumption? {σ : Type} : Exchange σ → Option EventSet
  | .asked (.call (.resumeSet set)) _ _ _ => some set
  | _ => none

namespace Dispatcher

variable (dispatcher : Dispatcher) (state : DispatcherState)

@[simp] theorem enter_keepReading : (dispatcher.enter state).keepReading = dispatcher.keepReading := by
  unfold enter
  split <;> rfl

@[simp] theorem enter_settings : (dispatcher.enter state).settings = dispatcher.settings := by
  unfold enter
  split <;> rfl

@[simp] theorem enter_pending : (dispatcher.enter state).pending = dispatcher.pending := by
  unfold enter
  split <;> rfl

theorem enter_state_of_ne (live : dispatcher.state ≠ .stopped) :
    (dispatcher.enter state).state = state := by
  rw [enter, if_neg live]

end Dispatcher

namespace Site

/-- The site when the delivery of a set begins. -/
def opened (site : Site) (set : EventSet) : Site :=
  { site with dispatcher := { site.dispatcher.enter .dispatching with pending := set.size } }

@[simp] theorem opened_keepReading (site : Site) (set : EventSet) :
    (site.opened set).dispatcher.keepReading = site.dispatcher.keepReading :=
  site.dispatcher.enter_keepReading _

/-- The site when the delivery of a set is over: nothing waits any more. -/
def cleared (site : Site) : Site :=
  { site with dispatcher := { site.dispatcher with pending := 0 } }

/-- The site when the dispatch of a set is over. -/
def closed (site : Site) : Site :=
  { site with dispatcher := site.dispatcher.enter .idle }

end Site

/-- The count and the dispatcher allow to resume the set. -/
def Tally.allows (tally : Tally) (dispatcher : Dispatcher) : Bool :=
  tally.voted && tally.agreed && !tally.failed && dispatcher.keepReading

/-- What happens to a set after the delivery of its events. -/
inductive Closing (set : EventSet) (tally : Tally) (site : Site) :
    List (Exchange Site) → Bool → Site → Prop where
  | left : tally.allows site.dispatcher = false → Closing set tally site [] false site
  | resumed {after : Site} : tally.allows site.dispatcher = true →
      Closing set tally site [.asked (.call (.resumeSet set)) site (.ok ()) after] true after
  | refused {failure : RemoteFailure} {after : Site} : tally.allows site.dispatcher = true →
      Closing set tally site
        (.asked (.call (.resumeSet set)) site (.error failure) after ::
          (Care.handled (.error (.fault (.remote failure)))).remarks)
        false (after.settle (.handled (.error (.fault (.remote failure)))))

/-- How a dispatch ends when its turns are over: it is unwound by a panic, or the set is closed. -/
inductive Ending (set : EventSet) (turns : List Turn) (delivered : Site) :
    List (Exchange Site) → Except Interruption DispatchOutcome → Site → Prop where
  | unwound {text : String} : Tally.result {} turns = .error (.panic text) →
      Ending set turns delivered [] (.error (.panic text)) delivered
  | closed {tally : Tally} {closing : List (Exchange Site)} {resumed : Bool} {site : Site} :
      Tally.result {} turns = .ok tally →
      Closing set tally delivered.cleared closing resumed site →
      Ending set turns delivered
        (closing ++
          [.told (.log (.dispatched tally.dispatched delivered.dispatcher.pending resumed))])
        (.ok {
          voted := tally.voted, resumed, dispatched := tally.dispatched,
          skipped := delivered.dispatcher.pending })
        site.closed

/-- An account of the dispatch of a set: the turns of its events, and the ending. -/
structure Account (set : EventSet) (site : Site) (passed : List (Exchange Site))
    (r : Except Interruption DispatchOutcome) (site' : Site) where
  turns : List Turn
  /-- The site after the turns. -/
  delivered : Site
  ending : List (Exchange Site)
  delivery : Delivery set.events (site.opened set) turns delivered
  ends : Ending set turns delivered ending r site'
  passed_eq : passed = .told (.log (.dispatching set)) :: (turns.flatMap Turn.passed ++ ending)

namespace Site

variable {set : EventSet} {site site' : Site} {passed : List (Exchange Site)}

theorem resumeSet_course {tally : Tally} {resumed : Bool}
    (course : (resumeSet set tally).Course site passed resumed site') :
    Closing set tally site passed resumed site' := by
  have started := Course.read_bind_iff.mp course
  cases allowed : tally.allows site.dispatcher with
  | false =>
      have refused := allowed
      unfold Tally.allows at refused
      simp only [refused] at started
      obtain ⟨rfl, rfl, rfl⟩ := Course.pure_iff.mp started
      exact .left allowed
  | true =>
      have granted := allowed
      unfold Tally.allows at granted
      simp only [granted, if_true] at started
      obtain ⟨answer, after, later, answered, rfl⟩ := Course.ask_bind_iff.mp started
      cases answer with
      | ok u =>
          obtain ⟨rfl, rfl, rfl⟩ := Course.pure_iff.mp answered
          exact .resumed allowed
      | error failure =>
          obtain ⟨_, reported, remarks, nothing, told, finished, rfl⟩ := Course.bind_iff.mp answered
          obtain ⟨rfl, rfl⟩ := reportFault_iff.mp told
          obtain ⟨rfl, rfl, rfl⟩ := Course.pure_iff.mp finished
          rw [List.append_nil]
          exact .refused allowed

theorem dispatch_course {r : Except Interruption DispatchOutcome}
    (course : (dispatch set).run.Course site passed r site') :
    Nonempty (Account set site passed r site') := by
  have entered := Course.run_update_bind_iff.mp course
  obtain ⟨later, logged, rfl⟩ := Course.run_tell_bind_iff.mp entered
  have opened := Course.run_update_bind_iff.mp logged
  rcases Course.run_bind_iff.mp opened with
    ⟨i, delivers, rfl⟩ | ⟨tally, delivered, first, second, delivers, closes, rfl⟩
  · obtain ⟨turns, delivery, rfl, counted⟩ := deliver_course delivers
    cases i with
    | panic text =>
        exact ⟨turns, site', [], delivery, .unwound counted.symm, by rw [List.append_nil]⟩
    | fault fault => exact absurd counted.symm Tally.result_ne_fault
  · obtain ⟨turns, delivery, rfl, counted⟩ := deliver_course delivers
    have cleared := Course.run_update_bind_iff.mp (Course.run_read_bind_iff.mp closes)
    obtain ⟨resumed, closed, closing, rest, resumes, told, rfl⟩ :=
      Course.run_perform_bind_iff.mp cleared
    obtain ⟨nothing, idles, rfl⟩ := Course.run_tell_bind_iff.mp told
    have finished := Course.run_update_bind_iff.mp idles
    obtain ⟨rfl, rfl, rfl⟩ := Course.run_pure_iff.mp finished
    exact ⟨turns, delivered, _, delivery, .closed counted.symm (resumeSet_course resumes), rfl⟩

end Site

/-! ### Laws of closings -/

namespace Closing

variable {set : EventSet} {tally : Tally} {site site' : Site} {passed : List (Exchange Site)}
  {resumed : Bool}

/-- All that is asked for is the resumption of the set, and that only if it is allowed. -/
theorem asked (closing : Closing set tally site passed resumed site') {q : Request}
    {before after : Site} {reply : q.Reply} (mem : .asked q before reply after ∈ passed) :
    q = .call (.resumeSet set) ∧ before = site := by
  cases closing with
  | left => cases mem
  | resumed =>
      cases List.mem_singleton.mp mem
      exact ⟨rfl, rfl⟩
  | refused =>
      rcases List.mem_cons.mp mem with same | mem
      · cases same
        exact ⟨rfl, rfl⟩
      · exact absurd mem Care.not_asked_remarks

/-- The set is asked to be resumed once, if that is allowed. -/
theorem resumptions (closing : Closing set tally site passed resumed site') :
    passed.filterMap Exchange.resumption? = if tally.allows site.dispatcher then [set] else [] := by
  cases closing with
  | left refused => simp [refused]
  | resumed allowed => simp [allowed, Exchange.resumption?]
  | refused allowed => simp [allowed, Exchange.resumption?, Care.remarks]

theorem resumed_iff (closing : Closing set tally site passed resumed site') :
    resumed = true ↔ ∃ before after, .asked (.call (.resumeSet set)) before (.ok ()) after ∈ passed := by
  cases closing with
  | left => simp
  | resumed => simp
  | refused => simp [Care.remarks]

theorem interlude (closing : Closing set tally site passed resumed site')
    (undisturbed : ∀ e ∈ passed, e.Undisturbed) : site.dispatcher.Interlude site'.dispatcher := by
  cases closing with
  | left => exact .refl _
  | resumed => exact undisturbed _ List.mem_cons_self
  | @refused failure after =>
      have waited : site.dispatcher.Interlude after.dispatcher := undisturbed _ List.mem_cons_self
      exact waited.trans (Site.settle_interlude _ _)

/-- A closing ends the reading if somebody asks for a stop or the connection is lost. -/
theorem keepReading_iff (closing : Closing set tally site passed resumed site')
    (undisturbed : ∀ e ∈ passed, e.Undisturbed) :
    site'.dispatcher.keepReading = true ↔
      site.dispatcher.keepReading = true ∧ (¬ ∃ e ∈ passed, e.Stops) ∧
        ¬ ∃ before after,
          .asked (.call (.resumeSet set)) before (.error .disconnected) after ∈ passed := by
  cases closing with
  | left => simp
  | resumed allowed =>
      have carries : Carries Site.dispatcher site.dispatcher
          [.asked (.call (.resumeSet set)) site (.ok ()) site'] site'.dispatcher := ⟨rfl, rfl⟩
      rw [carries.keepReading_iff undisturbed]
      simp
  | @refused failure after allowed =>
      have carries : Carries Site.dispatcher site.dispatcher
          (.asked (.call (.resumeSet set)) site (.error failure) after ::
            (Care.handled (.error (.fault (.remote failure)))).remarks) after.dispatcher :=
        ⟨rfl, rfl⟩
      rw [Site.settle_keepReading_iff, carries.keepReading_iff undisturbed, and_assoc]
      cases failure <;> simp [Care.isFatal, Fault.isFatal, Care.remarks]

end Closing

/-- No set is resumed in a turn. -/
theorem Turn.resumption {turn : Turn} {e : Exchange Site} (mem : e ∈ turn.passed) :
    e.resumption? = none := by
  cases e with
  | told => rfl
  | asked q before reply after =>
      rcases turn.request mem with ⟨request, listener, -, rfl⟩ | ⟨-, ⟨notice, rfl⟩ | ⟨c, rfl, routine⟩⟩
      · rfl
      · rfl
      · cases c <;> first | rfl | cases routine

/-! ### Laws of accounts -/

/-- A dispatch that does not come to its end was unwound by a panic in its last turn. -/
theorem Ending.of_error {set : EventSet} {turns : List Turn} {delivered site' : Site}
    {ending : List (Exchange Site)} {i : Interruption}
    (ends : Ending set turns delivered ending (.error i) site') :
    ∃ text, i = .panic text ∧ Tally.result {} turns = .error (.panic text) ∧ ending = [] ∧
      site' = delivered := by
  cases ends with
  | unwound panicked => exact ⟨_, rfl, panicked, rfl, rfl⟩

/-- When the turns are over nothing is asked for but the resumption of the set. -/
theorem Ending.asked {set : EventSet} {turns : List Turn} {delivered site' : Site}
    {ending : List (Exchange Site)} {r : Except Interruption DispatchOutcome}
    (ends : Ending set turns delivered ending r site') {q : Request} {before after : Site}
    {reply : q.Reply} (mem : .asked q before reply after ∈ ending) :
    q = .call (.resumeSet set) ∧ before = delivered.cleared := by
  cases ends with
  | unwound => cases mem
  | closed _ closing =>
      rcases List.mem_append.mp mem with mem | mem
      · exact closing.asked mem
      · cases List.mem_singleton.mp mem

/-- The count of some turns. -/
def Tally.of (turns : List Turn) : Tally := (turns.map Turn.care).foldl Tally.count {}

namespace Account

variable {set : EventSet} {site site' : Site} {passed : List (Exchange Site)}
  {r : Except Interruption DispatchOutcome}

theorem mem_of_turn (account : Account set site passed r site') {turn : Turn} {e : Exchange Site}
    (mem : turn ∈ account.turns) (here : e ∈ turn.passed) : e ∈ passed := by
  rw [account.passed_eq]
  exact List.mem_cons_of_mem _ (List.mem_append_left _ (List.mem_flatMap.mpr ⟨turn, mem, here⟩))

theorem mem_of_ending (account : Account set site passed r site') {e : Exchange Site}
    (mem : e ∈ account.ending) : e ∈ passed := by
  rw [account.passed_eq]
  exact List.mem_cons_of_mem _ (List.mem_append_right _ mem)

theorem mem_of_closing (account : Account set site passed r site')
    {closing last : List (Exchange Site)} (ending : account.ending = closing ++ last)
    {e : Exchange Site} (mem : e ∈ closing) : e ∈ passed := by
  refine account.mem_of_ending ?_
  rw [ending]
  exact List.mem_append_left _ mem

/-- What is promised of all that passes is promised of what passes in the turns. -/
theorem forall_turns (account : Account set site passed r site') {P : Exchange Site → Prop}
    (promise : ∀ e ∈ passed, P e) : ∀ turn ∈ account.turns, ∀ e ∈ turn.passed, P e :=
  fun _ mem e here => promise e (account.mem_of_turn mem here)

/-- The turns of a dispatch take waiting events off the count; otherwise they are an interlude. -/
theorem interlude (account : Account set site passed r site')
    (undisturbed : ∀ e ∈ passed, e.Undisturbed) :
    ((site.opened set).dispatcher.advance account.turns.length).Interlude
        account.delivered.dispatcher ∧
      ∀ i turn, account.turns[i]? = some turn →
        ((site.opened set).dispatcher.advance i).Interlude turn.before.dispatcher :=
  account.delivery.interlude (account.forall_turns undisturbed)

theorem delivered_keepReading_iff (account : Account set site passed r site')
    (undisturbed : ∀ e ∈ passed, e.Undisturbed) :
    account.delivered.dispatcher.keepReading = true ↔
      site.dispatcher.keepReading = true ∧ ∀ turn ∈ account.turns, ¬ turn.Stops := by
  rw [account.delivery.keepReading_iff (account.forall_turns undisturbed), Site.opened_keepReading]

/-- The turns are taken under the settings that the dispatch began with. -/
theorem turn_settings (account : Account set site passed r site')
    (undisturbed : ∀ e ∈ passed, e.Undisturbed) {turn : Turn} (mem : turn ∈ account.turns) :
    turn.before.dispatcher.settings = site.dispatcher.settings := by
  obtain ⟨i, found⟩ := List.mem_iff_getElem?.mp mem
  rw [((account.interlude undisturbed).2 i turn found).settings]
  exact site.dispatcher.enter_settings _

theorem turn_or_ending (account : Account set site passed r site') {q : Request}
    {before after : Site} {reply : q.Reply} (mem : .asked q before reply after ∈ passed) :
    (∃ turn ∈ account.turns, .asked q before reply after ∈ turn.passed) ∨
      .asked q before reply after ∈ account.ending := by
  rw [account.passed_eq] at mem
  rcases List.mem_cons.mp mem with impossible | mem
  · cases impossible
  · rcases List.mem_append.mp mem with mem | mem
    · exact .inl (List.mem_flatMap.mp mem)
    · exact .inr mem

/-- Unless a hook panics every dispatch comes to its end. -/
theorem result_ok (account : Account set site passed r site') (calm : ∀ e ∈ passed, e.Calm) :
    ∃ outcome, r = .ok outcome := by
  cases r with
  | ok outcome => exact ⟨outcome, rfl⟩
  | error i =>
      obtain ⟨text, -, panicked, -⟩ := account.ends.of_error
      obtain ⟨turn, mem, care⟩ := Tally.panic_of_result panicked
      exact absurd care (turn.care_ne_panic (account.forall_turns calm turn mem))

/-- A dispatch that comes to its end closes the set by the count of all its turns. -/
theorem closes {outcome : DispatchOutcome} (account : Account set site passed (.ok outcome) site') :
    ∃ closing closed,
      Closing set (.of account.turns) account.delivered.cleared closing outcome.resumed closed ∧
      account.ending = closing ++
        [.told (.log (.dispatched outcome.dispatched outcome.skipped outcome.resumed))] ∧
      outcome.voted = (Tally.of account.turns).voted ∧
      outcome.dispatched = (Tally.of account.turns).dispatched ∧
      outcome.skipped = account.delivered.dispatcher.pending ∧ site' = closed.closed := by
  obtain ⟨turns, delivered, ending, delivery, ends, passed_eq⟩ := account
  cases ends with
  | closed counted closing =>
      cases Tally.eq_foldl_of_result counted
      exact ⟨_, _, closing, rfl, rfl, rfl, rfl, rfl⟩

/-- A set is resumed when the turns are over, or not at all. -/
theorem resumptions (account : Account set site passed r site') :
    passed.filterMap Exchange.resumption? = account.ending.filterMap Exchange.resumption? := by
  have turns : (account.turns.flatMap Turn.passed).filterMap Exchange.resumption? = [] := by
    apply List.filterMap_eq_nil_iff.mpr
    intro e mem
    obtain ⟨turn, -, here⟩ := List.mem_flatMap.mp mem
    exact turn.resumption here
  refine (congrArg _ account.passed_eq).trans ?_
  rw [List.filterMap_cons_none rfl, List.filterMap_append, turns, List.nil_append]

end Account

/-! ### Dispatches to look at -/

namespace Sample

/-- A set of four events: two by requests, and two that are left to handlers. -/
def set : EventSet where
  policy := .all
  events := [
    ⟨some ⟨1⟩, .breakpoint ⟨1⟩ ⟨⟨1⟩, 0, 0⟩⟩,
    ⟨none, .threadStart ⟨2⟩⟩,
    ⟨some ⟨2⟩, .methodEntry ⟨2⟩ ⟨⟨1⟩, 0, 0⟩⟩,
    ⟨none, .other "more"⟩]

/-- A site with a listener for request 1, in some state of its dispatcher. -/
def site (state : DispatcherState) : Site where
  target := { name := "sample" }
  dispatcher := { listeners := ⟨[(⟨1⟩, ⟨0⟩)]⟩, state }

/-- The site after that listener bound another one to request 2. -/
def joined (state : DispatcherState) : Site :=
  { site state with
    dispatcher.listeners := (site state).dispatcher.listeners.add ⟨2⟩ ⟨1⟩ }

/-- The site after a thread started as well. -/
def grown (state : DispatcherState) : Site :=
  { joined state with target.threads := (joined state).target.threads.register ⟨2⟩ }

/-- A site while some events of a set wait. -/
def waiting (pending : Nat) (site : Site) : Site := { site with dispatcher.pending := pending }

/-- How the dispatch ends once the second listener replied. A panic leaves the last event without a turn. -/
def ending : ListenerReply → List (Exchange Site)
  | .vote true => [
    .told (.log (.unhandled ⟨none, .other "more"⟩)),
    .asked (.call (.resumeSet set)) (grown .dispatching) (.ok ()) (grown .dispatching),
    .told (.log (.dispatched 4 0 true))]
  | .vote false => [
    .told (.log (.unhandled ⟨none, .other "more"⟩)),
    .told (.log (.dispatched 4 0 false))]
  | .panicked => [
    .told (.report (.error .dispatcher (.listenerPanicked ⟨2⟩))),
    .told (.log (.dispatched 3 1 false))]

/-- What passes when the first listener is for resuming. It binds the second one before that one's event
has its turn. -/
def passed (reply : ListenerReply) : List (Exchange Site) := [
  .told (.log (.dispatching set)),
  .asked (.listen ⟨0⟩ ⟨some ⟨1⟩, .breakpoint ⟨1⟩ ⟨⟨1⟩, 0, 0⟩⟩) (waiting 3 (site .dispatching)) (.vote true)
    (waiting 3 (joined .dispatching)),
  .told (.log (.threadStarted (.appear 1 ⟨2⟩))),
  .asked (.hook (.threadStart (.appear 1 ⟨2⟩))) (waiting 2 (grown .dispatching)) .done
    (waiting 2 (grown .dispatching)),
  .asked (.listen ⟨1⟩ ⟨some ⟨2⟩, .methodEntry ⟨2⟩ ⟨⟨1⟩, 0, 0⟩⟩) (waiting 1 (grown .dispatching)) reply
    (waiting 1 (grown .dispatching))] ++ ending reply

/-- What becomes of the set. -/
def outcome : ListenerReply → DispatchOutcome
  | .vote resume => { voted := true, resumed := resume, dispatched := 4, skipped := 0 }
  | .panicked => { voted := true, resumed := false, dispatched := 3, skipped := 1 }

theorem course (reply : ListenerReply) :
    (Site.dispatch set).run.Course (site .idle) (passed reply) (.ok (outcome reply)) (grown .idle) := by
  refine .note (.ask (.note (.ask (.ask ?_))))
  rcases reply with (_ | _) | _
  · exact .note (.note .done)
  · exact .note (.ask (.note .done))
  · exact .note (.note .done)

theorem undisturbed (reply : ListenerReply) : ∀ e ∈ passed reply, e.Undisturbed := by
  have bound : (waiting 3 (site .dispatching)).dispatcher.Interlude
      (waiting 3 (joined .dispatching)).dispatcher := .rebind _
  rcases reply with (_ | _) | _ <;>
    simp [passed, ending, Exchange.Undisturbed, bound, Dispatcher.Interlude.refl]

theorem calm (reply : ListenerReply) : ∀ e ∈ passed reply, e.Calm := by
  rcases reply with (_ | _) | _ <;> simp [passed, ending, Exchange.Calm, HookReply.outcome]

end Sample

end RemoteDebug
