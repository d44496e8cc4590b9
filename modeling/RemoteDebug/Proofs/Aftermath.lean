import RemoteDebug.Proofs.Undertaking

/-!
After the end of a target.

Handlers do not look whether the target is still alive: one that is called after its end would bring the
model back to life. What prevents this is the dispatcher, which stops reading before it lets a target
end. `Site.Settled` ties the stop of the dispatcher to the end of the model, and `Site.Passage` says what
undertakings do to it: nobody revokes a stop, a settled site stays settled, and while the mutation domain
is taken nobody else ends the target. So an ended target is left alone for good (`gone_for_good`).
-/

namespace RemoteDebug

open Operation

namespace Target

theorem stable_alive : Stable fun target => target.isTerminated = false := by
  intro before after change alive
  cases change with
  | setStatus mild => exact mild
  | _ => exact alive

/-- No thread is known. -/
def Vacant (target : Target) : Prop := target.threads.threads = [] ∧ target.threads.focus = none

theorem currentThread?_of_vacant {target : Target} (vacant : target.Vacant) :
    target.currentThread? = none := by
  obtain ⟨threads, focus⟩ := vacant
  simp [currentThread?, ThreadRegistry.current?, ThreadRegistry.firstSuspended?, threads, focus]

theorem setFocus_iff {handle : ThreadRef} {target target' : Target} {passed : List (Exchange Target)}
    {r : Except Fault Unit} :
    (setFocus handle).run.Course target passed r target' ↔
      passed = [] ∧
        r = (if target.threads.contains handle then .ok () else .error (.threadNotFound handle)) ∧
        target' = { target with threads := target.threads.setFocus handle } := by
  refine Course.run_read_bind_iff.trans ?_
  cases known : target.threads.contains handle with
  | true =>
      constructor
      · intro course
        obtain ⟨_, moves, rfl⟩ := Course.run_perform_iff.mp course
        obtain ⟨rfl, rfl⟩ := Course.update_iff.mp moves
        exact ⟨rfl, rfl, rfl⟩
      · rintro ⟨rfl, rfl, rfl⟩
        exact Course.run_perform_iff.mpr ⟨(), Course.update_iff.mpr ⟨rfl, rfl⟩, rfl⟩
  | false =>
      have same : target.threads.setFocus handle = target.threads := by
        simp [ThreadRegistry.setFocus, known]
      rw [same]
      exact Course.run_throw_iff

theorem setFocus_of_vacant {target : Target} (vacant : target.Vacant) (handle : ThreadRef) :
    target.threads.setFocus handle = target.threads := by
  have unknown : target.threads.contains handle = false := by
    simp [ThreadRegistry.contains, ThreadRegistry.get?, vacant.1]
  simp [ThreadRegistry.setFocus, unknown]

theorem ensureAlive_bind_of_gone {α : Type} {f : Unit → Attempt Target α} {target : Target}
    (gone : target.isTerminated = true) :
    (ExceptT.run (ensureAlive >>= f)) target = .done (.error .targetTerminated, target) := by
  have refused : ensureAlive.run target = .done (.error .targetTerminated, target) := by
    change (if target.isTerminated then _ else _ : Attempt Target Unit).run target = _
    rw [gone]
    rfl
  rw [ExceptT.run_bind]
  change Dialogue.bind (ensureAlive.run target) _ = _
  rw [refused]
  rfl

/-- A target that is gone takes no wishes. -/
theorem Control.attempt_of_gone {target : Target} (gone : target.isTerminated = true)
    (wish : Control) : wish.attempt.run target = .done (.error .targetTerminated, target) := by
  cases wish with
  | resume => exact ensureAlive_bind_of_gone gone
  | suspend => exact ensureAlive_bind_of_gone gone
  | step thread kind => exact ensureAlive_bind_of_gone gone
  | terminate exitCode => exact ensureAlive_bind_of_gone gone

end Target

namespace Site

/-- A target that has ended left no threads, and its dispatcher reads no more. -/
def Settled (site : Site) : Prop :=
  site.target.isTerminated = true → site.target.Vacant ∧ site.dispatcher.keepReading = false

theorem Settled.of_alive {site : Site} (alive : site.target.isTerminated = false) : site.Settled :=
  fun gone => nomatch alive.symm.trans gone

/-- Where a dispatcher still reads, the target is alive. -/
theorem Settled.alive {site : Site} (settled : site.Settled)
    (reading : site.dispatcher.keepReading = true) : site.target.isTerminated = false := by
  rw [← Bool.not_eq_true]
  intro gone
  exact nomatch reading.symm.trans (settled gone).2

/-- What may come of a site, while the mutation domain of its target is taken or free. -/
structure Passage (taken : Bool) (before after : Site) : Prop where
  stopped : before.dispatcher.keepReading = false → after.dispatcher.keepReading = false
  settled : before.Settled → after.Settled
  alive : taken = true → before.target.isTerminated = false → after.target.isTerminated = false

namespace Passage

variable {taken : Bool} {first second third : Site}

theorem refl (site : Site) : Passage taken site site := ⟨id, id, fun _ => id⟩

theorem trans (head : Passage taken first second) (tail : Passage taken second third) :
    Passage taken first third where
  stopped stopped := tail.stopped (head.stopped stopped)
  settled settled := tail.settled (head.settled settled)
  alive holds alive := tail.alive holds (head.alive holds alive)

/-- What cannot happen while the domain is taken can happen even less where it was taken all along. -/
theorem weaken {held : Bool} (passage : Passage taken first second) (kept : held = true → taken = true) :
    Passage held first second where
  stopped := passage.stopped
  settled := passage.settled
  alive holds := passage.alive (kept holds)

/-- What leaves the model as it is and revokes no stop. -/
theorem of_target {before after : Site} (same : after.target = before.target)
    (stopped : before.dispatcher.keepReading = false → after.dispatcher.keepReading = false) :
    Passage taken before after where
  stopped := stopped
  settled settled := by
    intro gone
    rw [same] at gone ⊢
    exact ⟨(settled gone).1, stopped (settled gone).2⟩
  alive _ alive := by
    rw [same]
    exact alive

end Passage

theorem settle_passage (taken : Bool) (site : Site) (care : Care) :
    Passage taken site (site.settle care) := by
  refine .of_target (site.settle_target care) ?_
  intro stopped
  rw [← Bool.not_eq_true, settle_keepReading_iff, stopped]
  exact nofun

theorem opened_passage (taken : Bool) (site : Site) (set : EventSet) :
    Passage taken site (site.opened set) :=
  .of_target rfl (site.opened_keepReading set).trans

theorem awaiting_passage (taken : Bool) (site : Site) : Passage taken site site.awaiting :=
  .of_target rfl (site.dispatcher.enter_keepReading _).trans

theorem closed_passage (taken : Bool) (site : Site) : Passage taken site site.closed :=
  .of_target rfl (site.dispatcher.enter_keepReading _).trans

theorem finished_passage (taken : Bool) (site : Site) : Passage taken site site.finished :=
  .of_target rfl fun _ => rfl

end Site

/-- What others do while somebody waits for a reply, with the mutation domain taken or free. -/
def Exchange.Passes (taken : Request → Bool) : Exchange Site → Prop
  | .told _ => True
  | .asked q before _ after => Site.Passage (taken q) before after

theorem Carries.stopped {taken : Request → Bool} {dispatcher dispatcher' : Dispatcher}
    {passed : List (Exchange Site)} (carries : Carries Site.dispatcher dispatcher passed dispatcher')
    (others : ∀ e ∈ passed, e.Passes taken) :
    (dispatcher.keepReading = false → dispatcher'.keepReading = false) ∧
      ∀ q before reply after, .asked q before reply after ∈ passed →
        dispatcher.keepReading = false → before.dispatcher.keepReading = false := by
  refine carries.rel (R := fun first last => first.keepReading = false → last.keepReading = false)
    (fun _ => id) ?_ ?_
  · intro first second third head tail stopped
    exact tail (head stopped)
  · intro q before reply after mem
    exact Site.Passage.stopped (others (.asked q before reply after) mem)

theorem Shown.of_told {σ : Type} {I : σ → Prop} {passed : List (Exchange σ)}
    (told : ∀ e ∈ passed, ∃ n, e = .told n) : Shown I passed := by
  intro q before reply after mem
  obtain ⟨n, impossible⟩ := told _ mem
  cases impossible

/-! ### Dispatching -/

section Dispatching

variable {site site' : Site} {passed : List (Exchange Site)}

/-- The end of a target stops its dispatcher first; any other event leaves the target alive. -/
theorem Site.route_settled {event : Event} {r : Except Interruption Bool}
    (course : (route event).run.Course site passed r site')
    (others : ∀ e ∈ passed, e.Passes fun _ => true) (alive : site.target.isTerminated = false) :
    site'.Settled ∧ Shown Settled passed := by
  obtain ⟨r₀, heeded, carries, -⟩ := route_iff.mp course
  by_cases ends : event.happening.isEnd = true
  · have stopped : (site.dispatcher.heed event).keepReading = false := by
      simp [Dispatcher.heed, ends]
    obtain ⟨last, each⟩ := carries.stopped others
    have promised : ∀ e ∈ passed.map (Exchange.onPart Site.target),
        e.Keeps fun target => target.isTerminated = true → target.Vacant := by
      refine Exchange.keeps_onPart fun q before reply after mem vacant gone => ?_
      have settled : before.Settled := fun gone => ⟨vacant gone, each q before reply after mem stopped⟩
      have passage : Passage true before after := others (.asked q before reply after) mem
      exact (passage.settled settled gone).1
    obtain ⟨vacant, shown⟩ := Target.heed_keeps_of_end (fun _ _ _ _ => ⟨rfl, rfl⟩) ends
      _ _ _ _ heeded (fun gone => nomatch alive.symm.trans gone) promised
    refine ⟨fun gone => ⟨vacant gone, last stopped⟩, ?_⟩
    intro q before reply after mem gone
    exact ⟨Shown.onPart_iff.mp shown q before reply after mem gone,
      each q before reply after mem stopped⟩
  · have promised : ∀ e ∈ passed.map (Exchange.onPart Site.target),
        e.Keeps fun target => target.isTerminated = false :=
      Exchange.keeps_onPart fun q before reply after mem =>
        Passage.alive (others (.asked q before reply after) mem) rfl
    rw [Bool.not_eq_true] at ends
    obtain ⟨last, shown⟩ :=
      Target.heed_keeps Target.stable_alive ends _ _ _ _ heeded alive promised
    exact ⟨.of_alive last, fun q before reply after mem =>
      .of_alive (Shown.onPart_iff.mp shown q before reply after mem)⟩

theorem Turn.settled {turn : Turn} (others : ∀ e ∈ turn.passed, e.Passes fun _ => true)
    (alive : turn.before.target.isTerminated = false) :
    turn.after.Settled ∧ Shown Site.Settled turn.passed := by
  have begun : turn.before.begun.target.isTerminated = false := alive
  cases found : turn.recipient? with
  | some recipient =>
      obtain ⟨request, listener⟩ := recipient
      obtain ⟨reply, -, passed⟩ := heard_of_recipient found
      rw [passed] at others ⊢
      have passage : Site.Passage true turn.before.begun turn.after := others _ List.mem_cons_self
      have later : turn.after.target.isTerminated = false := passage.alive rfl begun
      exact ⟨.of_alive later, .asked (.of_alive begun) (.of_told fun e mem => Care.remarks_told mem)⟩
  | none =>
      obtain ⟨result, waited, site, -, course, passed, after⟩ := handled_of_recipient found
      rw [passed] at others ⊢
      obtain ⟨settled, shown⟩ := Site.route_settled course
        (fun e mem => others e (List.mem_append_left _ mem)) begun
      rw [after]
      exact ⟨(site.settle_passage true turn.care).settled settled,
        shown.append (.of_told fun e mem => Care.remarks_told mem)⟩

/-- After a turn that ends the target none is taken. -/
theorem Delivery.settled {events : List Event} {turns : List Turn}
    (delivery : Delivery events site turns site') (settled : site.Settled)
    (others : ∀ turn ∈ turns, ∀ e ∈ turn.passed, e.Passes fun _ => true) :
    site'.Settled ∧ ∀ turn ∈ turns, Shown Site.Settled turn.passed := by
  induction delivery with
  | done => exact ⟨settled, by simp⟩
  | stopped => exact ⟨settled, by simp⟩
  | last _ at_site reading =>
      rw [← at_site] at settled reading
      obtain ⟨last, shown⟩ := Turn.settled (others _ List.mem_cons_self) (settled.alive reading)
      exact ⟨last, by simpa using shown⟩
  | onward _ at_site reading _ _ ih =>
      rw [← at_site] at settled reading
      obtain ⟨next, shown⟩ := Turn.settled (others _ List.mem_cons_self) (settled.alive reading)
      obtain ⟨last, rest⟩ := ih next fun turn mem => others turn (List.mem_cons_of_mem _ mem)
      exact ⟨last, List.forall_mem_cons.mpr ⟨shown, rest⟩⟩

theorem Closing.settled {set : EventSet} {tally : Tally} {resumed : Bool}
    (closing : Closing set tally site passed resumed site') (settled : site.Settled)
    (others : ∀ e ∈ passed, e.Passes fun _ => true) : site'.Settled ∧ Shown Site.Settled passed := by
  cases closing with
  | left => exact ⟨settled, .nil⟩
  | resumed =>
      have passage : Site.Passage true site site' := others _ List.mem_cons_self
      exact ⟨passage.settled settled, .asked settled .nil⟩
  | @refused failure after =>
      have passage : Site.Passage true site after := others _ List.mem_cons_self
      exact ⟨(after.settle_passage true _).settled (passage.settled settled),
        .asked settled (.of_told fun e mem => Care.remarks_told mem)⟩

theorem Ending.settled {set : EventSet} {turns : List Turn} {delivered : Site}
    {r : Except Interruption DispatchOutcome} (ends : Ending set turns delivered passed r site')
    (settled : delivered.Settled) (others : ∀ e ∈ passed, e.Passes fun _ => true) :
    site'.Settled ∧ Shown Site.Settled passed := by
  cases ends with
  | unwound => exact ⟨settled, .nil⟩
  | closed _ closing =>
      obtain ⟨closed, shown⟩ := closing.settled settled fun e mem =>
        others e (List.mem_append_left _ mem)
      exact ⟨(Site.closed_passage true _).settled closed, shown.append (.told .nil)⟩

namespace Site

theorem dispatch_settled {set : EventSet} {r : Except Interruption DispatchOutcome}
    (course : (dispatch set).run.Course site passed r site')
    (others : ∀ e ∈ passed, e.Passes fun _ => true) (settled : site.Settled) :
    site'.Settled ∧ Shown Settled passed := by
  obtain ⟨account⟩ := dispatch_course course
  obtain ⟨delivered, shown⟩ := account.delivery.settled
    ((site.opened_passage true set).settled settled) (account.forall_turns others)
  have turns : Shown Settled (account.turns.flatMap Turn.passed) := by
    intro q before reply after mem
    obtain ⟨turn, found, here⟩ := List.mem_flatMap.mp mem
    exact shown turn found q before reply after here
  obtain ⟨ended, asked⟩ := account.ends.settled delivered fun e mem =>
    others e (account.mem_of_ending mem)
  rw [account.passed_eq]
  exact ⟨ended, .told (turns.append asked)⟩

/-- Once reading has ended, a dispatch and a run say something and do nothing. -/
theorem dispatch_silent {set : EventSet} {r : Except Interruption DispatchOutcome}
    (stopped : site.dispatcher.keepReading = false)
    (course : (dispatch set).run.Course site passed r site') :
    (∀ e ∈ passed, ∃ n, e = .told n) ∧ site'.target = site.target ∧
      site'.dispatcher.keepReading = false := by
  obtain ⟨-, rfl, rfl⟩ := dispatch_of_stopped stopped course
  refine ⟨by simp, rfl, ?_⟩
  exact (Dispatcher.enter_keepReading _ _).trans ((site.opened_keepReading set).trans stopped)

theorem run_silent {channel : Channel} {r : Except Interruption Unit}
    (stopped : site.dispatcher.keepReading = false)
    (course : (run channel).run.Course site passed r site') :
    (∀ e ∈ passed, ∃ n, e = .told n) ∧ site'.target = site.target ∧
      site'.dispatcher.keepReading = false := by
  obtain ⟨rfl, rfl⟩ := run_of_stopped stopped course
  exact ⟨by simp [farewell], rfl, rfl⟩

/-- The end of the loop, with or without a last read. -/
theorem failedRead_passage (taken : Bool) {failure : ChannelFailure} {u : Unit}
    (course : (failedRead failure).Course site passed u site')
    (others : ∀ e ∈ passed, e.Passes fun q => taken || !q.isRead) :
    Passage taken site site' ∧ Shown (Passage taken site) passed := by
  have rounds : Rounds [.error failure] site [] passed site' := failedRead_course rfl course
  cases rounds with
  | stopped => exact ⟨site.finished_passage taken, .told .nil⟩
  | @failed _ _ after failure =>
      have waited : Passage (taken || false) site.awaiting after := others _ List.mem_cons_self
      rw [Bool.or_false] at waited
      exact ⟨((site.awaiting_passage taken).trans waited).trans (after.finished_passage taken),
        .asked (site.awaiting_passage taken) (.told (.told .nil))⟩

/-- What a dispatch asks for is asked for in the mutation domain. -/
theorem passes_of_dispatch {set : EventSet} {r : Except Interruption DispatchOutcome}
    (course : (dispatch set).run.Course site passed r site')
    (others : ∀ e ∈ passed, e.Passes fun q => !q.isRead) : ∀ e ∈ passed, e.Passes fun _ => true := by
  obtain ⟨account⟩ := dispatch_course course
  intro e mem
  have passes := others e mem
  have other := account.not_read mem
  cases e with
  | told n => trivial
  | asked q before reply after =>
      cases q with
      | read delivered => cases other
      | _ => exact passes

theorem failedRead_settled {failure : ChannelFailure} {u : Unit}
    (course : (failedRead failure).Course site passed u site')
    (others : ∀ e ∈ passed, e.Passes fun q => !q.isRead) (settled : site.Settled) :
    site'.Settled ∧ Shown Settled passed := by
  obtain ⟨last, shown⟩ := failedRead_passage false course others
  exact ⟨last.settled settled, fun q before reply after mem =>
    (shown q before reply after mem).settled settled⟩

theorem run_settled {channel : Channel} {r : Except Interruption Unit}
    (course : (run channel).run.Course site passed r site')
    (others : ∀ e ∈ passed, e.Passes fun q => !q.isRead) (settled : site.Settled) :
    site'.Settled ∧ Shown Settled passed := by
  induction channel generalizing site passed with
  | nil =>
      obtain ⟨_, fails, -⟩ := Course.run_perform_iff.mp course
      exact failedRead_settled fails others settled
  | cons item rest ih =>
      cases item with
      | error failure =>
          obtain ⟨_, fails, -⟩ := Course.run_perform_iff.mp course
          exact failedRead_settled fails others settled
      | ok set =>
          by_cases reading : site.dispatcher.keepReading = true
          · obtain ⟨reads, begun, first, later, begins, goesOn, rfl⟩ :=
              Course.run_perform_bind_iff.mp course
            obtain ⟨rfl, rfl, rfl⟩ := beginRead_iff.mp begins
            rw [reading] at goesOn
            obtain ⟨_, ready, dispatches, answered, rfl⟩ := Course.run_ask_bind_iff.mp goesOn
            have awaiting := (site.awaiting_passage false).settled settled
            have waited : Passage false site.awaiting ready := others _ List.mem_cons_self
            have following := fun e mem => others e (List.mem_cons_of_mem _ mem)
            rcases Course.run_bind_iff.mp answered with
              ⟨i, dispatches, -⟩ | ⟨outcome, after, dispatched, looped, dispatches, loops, rfl⟩
            · obtain ⟨last, shown⟩ := dispatch_settled dispatches
                (passes_of_dispatch dispatches following) (waited.settled awaiting)
              exact ⟨last, .asked awaiting shown⟩
            · have during := fun e mem => following e (List.mem_append_left _ mem)
              obtain ⟨between, shown⟩ := dispatch_settled dispatches
                (passes_of_dispatch dispatches during) (waited.settled awaiting)
              obtain ⟨last, later⟩ := ih loops
                (fun e mem => following e (List.mem_append_right _ mem)) between
              exact ⟨last, .asked awaiting (shown.append later)⟩
          · rw [Bool.not_eq_true] at reading
            obtain ⟨rfl, rfl⟩ := run_of_stopped reading course
            exact ⟨(site.finished_passage false).settled settled, .told .nil⟩

end Site

end Dispatching

/-! ### Undertakings -/

namespace Site

variable {site site' : Site} {passed : List (Exchange Site)} {taken : Bool}

/-- What comes of a site while the mutation domain is free: others may end the target. -/
theorem Passage.of_free
    (stopped : site.dispatcher.keepReading = false →
      site'.dispatcher.keepReading = false ∧ Shown (·.dispatcher.keepReading = false) passed)
    (settled : site.Settled → site'.Settled ∧ Shown Settled passed) :
    Passage false site site' ∧ Shown (Passage false site) passed := by
  refine ⟨⟨fun h => (stopped h).1, fun h => (settled h).1, nofun⟩, ?_⟩
  intro q before reply after mem
  exact ⟨fun h => (stopped h).2 q before reply after mem,
    fun h => (settled h).2 q before reply after mem, nofun⟩

theorem control_iff_of_gone (gone : site.target.isTerminated = true) {wish : Target.Control}
    {r : Except Fault Unit} :
    (onTarget wish.attempt).run.Course site passed r site' ↔
      passed = [] ∧ r = .error .targetTerminated ∧ site' = site := by
  rw [onTarget_iff, Course, Target.Control.attempt_of_gone gone, Dialogue.Course.done_iff]
  constructor
  · rintro ⟨⟨nothing, same⟩, carries⟩
    have none := List.map_eq_nil_iff.mp nothing
    subst none
    obtain ⟨rfl, target⟩ := Prod.mk.inj same
    have dispatcher : site'.dispatcher = site.dispatcher := carries
    refine ⟨rfl, rfl, ?_⟩
    cases site'
    simp_all
  · rintro ⟨rfl, rfl, rfl⟩
    exact ⟨⟨rfl, rfl⟩, rfl⟩

theorem evaluate_iff_of_gone (gone : site.target.isTerminated = true) {interpreter : Interpreter}
    {fuel : Nat} {frame : Frame} {shared : List (Exchange (Site × Bool))}
    {result : (Outcome × Interpreter) × Site} :
    (evaluate interpreter fuel frame site).Course shared result ↔
      shared = [] ∧ result = ((.failed .targetTerminated, interpreter), site) := by
  unfold evaluate
  rw [Interpreter.run_of_gone gone]
  exact Dialogue.Course.done_iff

theorem focus_course {handle : ThreadRef} {r : Except Fault Unit}
    (course : (onTarget (Target.setFocus handle)).run.Course site passed r site') :
    passed = [] ∧ site' = { site with target :=
      { site.target with threads := site.target.threads.setFocus handle } } := by
  obtain ⟨moves, carries⟩ := onTarget_iff.mp course
  obtain ⟨nothing, -, target⟩ := Target.setFocus_iff.mp moves
  have none := List.map_eq_nil_iff.mp nothing
  subst none
  have dispatcher : site'.dispatcher = site.dispatcher := carries
  refine ⟨rfl, ?_⟩
  rw [← target, ← dispatcher]

theorem focus_passage (taken : Bool) (site : Site) (handle : ThreadRef) :
    Passage taken site { site with target :=
      { site.target with threads := site.target.threads.setFocus handle } } where
  stopped := id
  settled settled := by
    intro gone
    obtain ⟨vacant, stopped⟩ := settled gone
    have same := Target.setFocus_of_vacant vacant handle
    simp only [same]
    exact ⟨vacant, stopped⟩
  alive _ := id

theorem control_passage {wish : Target.Control} {r : Except Fault Unit}
    (course : (onTarget wish.attempt).run.Course site passed r site')
    (others : ∀ e ∈ passed, e.Passes fun _ => true) :
    Passage false site site' ∧ Shown (Passage false site) passed := by
  obtain ⟨-, carries⟩ := onTarget_iff.mp course
  obtain ⟨last, each⟩ := carries.stopped others
  apply Passage.of_free
  · intro stopped
    exact ⟨last stopped, fun q before reply after mem => each q before reply after mem stopped⟩
  · intro settled
    cases alive : site.target.isTerminated with
    | true =>
        obtain ⟨rfl, -, rfl⟩ := (control_iff_of_gone alive).mp course
        exact ⟨settled, .nil⟩
    | false =>
        have keeps := onTarget_keeps (wish.keeps Target.stable_alive)
        have promised : ∀ e ∈ passed, e.Keeps fun site => site.target.isTerminated = false := by
          intro e mem
          cases e with
          | told n => trivial
          | asked q before reply after =>
              exact Passage.alive (others (.asked q before reply after) mem) rfl
        obtain ⟨last, shown⟩ := keeps _ _ _ _ course alive promised
        exact ⟨.of_alive last, fun q before reply after mem => .of_alive (shown q before reply after mem)⟩

/-- An evaluation leaves the site to others. -/
theorem evaluate_passage {interpreter : Interpreter} {fuel : Nat} {frame : Frame}
    {shared : List (Exchange (Site × Bool))} {result : Outcome × Interpreter}
    (course : (evaluate interpreter fuel frame site).Course shared (result, site'))
    (others : ∀ e ∈ shared.map (Exchange.onPart Prod.fst), e.Passes fun _ => taken) :
    Passage taken site site' ∧
      Shown (Passage taken site) (shared.map (Exchange.onPart Prod.fst)) := by
  obtain ⟨-, carries⟩ := evaluate_iff.mp course
  obtain ⟨last, each⟩ := carries.rel (R := Passage taken) .refl .trans
    fun q before reply after mem =>
      others (Exchange.asked q before.1 reply after.1)
        (List.mem_map_of_mem (f := Exchange.onPart Prod.fst) mem)
  exact ⟨last, Shown.onPart_iff.mpr each⟩

/-- A loop that leaves the mutation domain alone reads no set. -/
theorem run_passage_of_not_enters {channel : Channel} {r : Except Interruption Unit}
    (course : (run channel).run.Course site passed r site')
    (outside : ¬ (Undertaking.run channel).Enters site)
    (others : ∀ e ∈ passed, e.Passes fun q => taken || !q.isRead) :
    Passage taken site site' ∧ Shown (Passage taken site) passed := by
  by_cases reading : site.dispatcher.keepReading = true
  · rcases channel with _ | ⟨failure | set, rest⟩
    · obtain ⟨_, fails, -⟩ := Course.run_perform_iff.mp course
      exact failedRead_passage taken fails others
    · obtain ⟨_, fails, -⟩ := Course.run_perform_iff.mp course
      exact failedRead_passage taken fails others
    · exact absurd ⟨reading, set, rfl⟩ outside
  · rw [Bool.not_eq_true] at reading
    obtain ⟨told, target, stopped⟩ := run_silent reading course
    exact ⟨.of_target target fun _ => stopped, .of_told told⟩

/-- What comes of a site in an undertaking, if no more than that comes of it while others have it. -/
theorem Undertaking.passage {undertaking : Undertaking} (course : undertaking.Course site passed site')
    (allowed : taken = true → ¬ undertaking.Enters site)
    (others : ∀ e ∈ passed, e.Passes fun q => taken || undertaking.holds q) :
    Passage taken site site' ∧ Shown (Passage taken site) passed := by
  cases undertaking with
  | dispatch set =>
      obtain ⟨r, course⟩ := course
      cases taken with
      | true => exact absurd trivial (allowed rfl)
      | false =>
          refine Passage.of_free ?_ (dispatch_settled course others)
          intro stopped
          obtain ⟨told, -, last⟩ := dispatch_silent stopped course
          exact ⟨last, .of_told told⟩
  | run channel =>
      obtain ⟨r, course⟩ := course
      cases taken with
      | true => exact run_passage_of_not_enters course (allowed rfl) others
      | false =>
          refine Passage.of_free ?_ (run_settled course others)
          intro stopped
          obtain ⟨told, -, last⟩ := run_silent stopped course
          exact ⟨last, .of_told told⟩
  | control wish =>
      obtain ⟨r, course⟩ := course
      cases taken with
      | true => exact absurd trivial (allowed rfl)
      | false => exact control_passage course others
  | focus thread =>
      obtain ⟨r, course⟩ := course
      obtain ⟨rfl, rfl⟩ := focus_course course
      exact ⟨focus_passage taken site thread, .nil⟩
  | evaluate interpreter fuel frame =>
      obtain ⟨shared, result, course, rfl⟩ := course
      refine evaluate_passage course fun e mem => ?_
      have passes := others e mem
      simpa only [holds, Bool.or_false] using passes
  | subscribe change =>
      obtain ⟨_, course⟩ := course
      obtain ⟨rfl, rfl⟩ := Course.update_iff.mp course
      exact ⟨.of_target rfl id, .nil⟩
  | shutdown =>
      obtain ⟨_, course⟩ := course
      obtain ⟨later, updated, rfl⟩ := Course.tell_bind_iff.mp course
      obtain ⟨rfl, rfl⟩ := Course.update_iff.mp updated
      exact ⟨.of_target rfl fun _ => rfl, .told .nil⟩

/-- What comes of a site along a history; a domain that was taken at its start stays taken. -/
theorem Reaches.passage {start moment : Moment} (reached : Reaches start moment) :
    Passage start.taken start.site moment.site ∧ (start.taken = true → moment.taken = true) := by
  have passes : ∀ {undertaking : Undertaking} {taken : Bool} {passed : List (Exchange Site)},
      (∀ q before reply after, .asked q before reply after ∈ passed →
        Passage (taken || undertaking.holds q) before after ∧
          ((taken || undertaking.holds q) = true → (taken || undertaking.holds q) = true)) →
      ∀ e ∈ passed, e.Passes fun q => taken || undertaking.holds q := by
    intro undertaking taken passed each e mem
    cases e with
    | told n => trivial
    | asked q before reply after => exact (each q before reply after mem).1
  induction reached with
  | refl => exact ⟨.refl _, id⟩
  | done _ _ allowed course _ before others =>
      obtain ⟨passage, kept⟩ := before
      obtain ⟨last, -⟩ := Undertaking.passage course allowed (passes others)
      exact ⟨passage.trans (last.weaken kept), kept⟩
  | waiting _ _ allowed course _ mem before others =>
      obtain ⟨passage, kept⟩ := before
      obtain ⟨-, shown⟩ := Undertaking.passage course allowed (passes others)
      have here := shown _ _ _ _ mem
      refine ⟨passage.trans (here.weaken kept), ?_⟩
      intro held
      rw [Bool.or_eq_true]
      exact .inl (kept held)

/-! ### After the end -/

/-- What is undertaken after the end asks nobody for anything and does nothing to the model. -/
theorem Undertaking.silent {undertaking : Undertaking} (course : undertaking.Course site passed site')
    (gone : site.target.isTerminated = true) (settled : site.Settled) :
    (∀ e ∈ passed, ∃ n, e = .told n) ∧ site'.target = site.target := by
  obtain ⟨vacant, stopped⟩ := settled gone
  have nothing : ∀ e ∈ ([] : List (Exchange Site)), ∃ n, e = .told n := by simp
  cases undertaking with
  | dispatch set =>
      obtain ⟨r, course⟩ := course
      obtain ⟨told, target, -⟩ := dispatch_silent stopped course
      exact ⟨told, target⟩
  | run channel =>
      obtain ⟨r, course⟩ := course
      obtain ⟨told, target, -⟩ := run_silent stopped course
      exact ⟨told, target⟩
  | control wish =>
      obtain ⟨r, course⟩ := course
      obtain ⟨rfl, -, rfl⟩ := (control_iff_of_gone gone).mp course
      exact ⟨nothing, rfl⟩
  | focus thread =>
      obtain ⟨r, course⟩ := course
      obtain ⟨rfl, rfl⟩ := focus_course course
      have same := Target.setFocus_of_vacant vacant thread
      exact ⟨nothing, by rw [same]⟩
  | evaluate interpreter fuel frame =>
      obtain ⟨shared, result, course, rfl⟩ := course
      obtain ⟨rfl, same⟩ := (evaluate_iff_of_gone gone).mp course
      cases same
      exact ⟨nothing, rfl⟩
  | subscribe change =>
      obtain ⟨_, course⟩ := course
      obtain ⟨rfl, rfl⟩ := Course.update_iff.mp course
      exact ⟨nothing, rfl⟩
  | shutdown =>
      obtain ⟨_, course⟩ := course
      obtain ⟨later, updated, rfl⟩ := Course.tell_bind_iff.mp course
      obtain ⟨rfl, rfl⟩ := Course.update_iff.mp updated
      exact ⟨fun e mem => ⟨_, List.mem_singleton.mp mem⟩, rfl⟩

theorem Reaches.target_eq_of_gone {start moment : Moment} (reached : Reaches start moment)
    (gone : start.site.target.isTerminated = true) (settled : start.site.Settled) :
    moment.site.target = start.site.target := by
  induction reached with
  | refl => rfl
  | done _ reached _ course _ before _ =>
      have same := before gone settled
      have between := reached.passage.1.settled settled
      rw [← same] at gone
      exact (Undertaking.silent course gone between).2.trans same
  | waiting _ reached _ course _ mem before _ =>
      have same := before gone settled
      have between := reached.passage.1.settled settled
      rw [← same] at gone
      obtain ⟨n, impossible⟩ := (Undertaking.silent course gone between).1 _ mem
      cases impossible

/-- A site whose target is gone and is left alone. -/
structure Gone (site : Site) : Prop where
  threads : site.target.threads.threads = []
  focus : site.target.threads.focus = none
  current : site.target.currentThread? = none
  /-- Whatever is undertaken, nothing is called, read or announced, and the model stays as it is. -/
  silent : ∀ (undertaking : Undertaking) passed after, undertaking.Course site passed after →
    (∀ e ∈ passed, ∃ n, e = .told n) ∧ after.target = site.target
  controls : ∀ (wish : Target.Control) passed r after,
    (onTarget wish.attempt).run.Course site passed r after ↔
      passed = [] ∧ r = .error .targetTerminated ∧ after = site
  evaluations : ∀ interpreter fuel frame shared result,
    (evaluate interpreter fuel frame site).Course shared result ↔
      shared = [] ∧ result = ((.failed .targetTerminated, interpreter), site)
  /-- It stays so for good. -/
  lasting : ∀ taken moment, Reaches ⟨site, taken⟩ moment → moment.site.target = site.target

/-- Whatever has been undertaken since the start of a model: once its target has ended it is never talked
to again. -/
theorem gone_for_good {name : String} {dispatcher : Dispatcher} {moment : Moment}
    (reached : Reaches ⟨⟨{ name }, dispatcher⟩, false⟩ moment)
    (gone : moment.site.target.isTerminated = true) : moment.site.Gone := by
  have settled : moment.site.Settled := reached.passage.1.settled (.of_alive rfl)
  obtain ⟨vacant, -⟩ := settled gone
  constructor
  case threads => exact vacant.1
  case focus => exact vacant.2
  case current => exact Target.currentThread?_of_vacant vacant
  case silent =>
    intro undertaking passed after course
    exact Undertaking.silent course gone settled
  case controls =>
    intro wish passed r after
    exact control_iff_of_gone gone
  case evaluations =>
    intro interpreter fuel frame shared result
    exact evaluate_iff_of_gone gone
  case lasting =>
    intro taken later further
    exact further.target_eq_of_gone gone settled

end Site

namespace Sample

/-- A set that brings the start of the target. -/
def startSet : EventSet := ⟨.all, [⟨none, .vmStart ⟨1⟩⟩]⟩

/-- What passes when the target names two threads. -/
def starting : List (Exchange Site) := [
  .told (.log (.dispatching startSet)),
  .asked (.call .threads) (site .dispatching) (.ok [⟨1⟩, ⟨2⟩]) (site .dispatching),
  .told (.log (.statusSet "sample" .suspended)),
  .asked (.hook (.start ⟨1⟩)) (started .dispatching) .done (started .dispatching),
  .told (.log (.dispatched 1 0 false))]

end Sample

namespace Site

/-- Where nobody does anything while an undertaking waits, nothing is reached but what is handed over. -/
theorem Reaches.of_untouched {passed : List (Exchange Site)} {taken : Request → Bool}
    (untouched : ∀ q s reply t, .asked q s reply t ∈ passed → t = s) :
    ∀ q s reply t, .asked q s reply t ∈ passed → Reaches ⟨s, taken q⟩ ⟨t, taken q⟩ := by
  intro q s reply t mem
  rw [untouched q s reply t mem]
  exact .refl

/-- The threads of a target become known when it starts. -/
theorem reaches_started : Reaches ⟨Sample.site .idle, false⟩ ⟨Sample.started .idle, false⟩ := by
  have course : (Site.dispatch Sample.startSet).run.Course (Sample.site .idle) Sample.starting
      (.ok { voted := false, resumed := false, dispatched := 1, skipped := 0 }) (Sample.started .idle) :=
    .note (.ask (.note (.ask (.note .done))))
  refine .done (.dispatch Sample.startSet) .refl (absurd · Bool.false_ne_true) ⟨_, course⟩ (.of_untouched ?_)
  intro q before reply after mem
  simp only [Sample.starting, List.mem_cons, List.not_mem_nil, or_false, reduceCtorEq, false_or] at mem
  rcases mem with same | same <;> cases same <;> rfl

/-- The hook hears of the end while the dispatch that leads to it still waits. -/
theorem reaches_gone : Reaches ⟨Sample.site .idle, false⟩ ⟨Sample.gone, true⟩ := by
  have course : (Site.dispatch (Sample.lastSet none)).run.Course (Sample.started .idle) Sample.unheard
      (.ok { voted := false, resumed := false, dispatched := 1, skipped := 1 })
      Sample.gone.cleared.closed := .note (.note (.note (.ask (.note .done))))
  have heard : .asked (.hook .exit) Sample.gone .done Sample.gone ∈ Sample.unheard := by
    simp [Sample.unheard]
  refine .waiting (.dispatch (Sample.lastSet none)) reaches_started (absurd · Bool.false_ne_true)
    ⟨_, course⟩ (.of_untouched ?_) heard
  intro q before reply after mem
  simp only [Sample.unheard, List.mem_cons, List.not_mem_nil, or_false, reduceCtorEq, false_or] at mem
  cases mem
  rfl

theorem gone_for_good_unheard :
    Reaches ⟨⟨{ name := "sample" }, (Sample.site .idle).dispatcher⟩, false⟩ ⟨Sample.started .idle, false⟩ ∧
      (Sample.started .idle).target.currentThread? = some ⟨1⟩ ∧
      (Sample.started .idle).target.threads.threads.length = 2 ∧
      Reaches ⟨⟨{ name := "sample" }, (Sample.site .idle).dispatcher⟩, false⟩ ⟨Sample.gone, true⟩ ∧
      Sample.gone.target.isTerminated = true ∧ Sample.gone.Gone :=
  ⟨reaches_started, rfl, rfl, reaches_gone, rfl, gone_for_good reaches_gone rfl⟩

end Site

end RemoteDebug
