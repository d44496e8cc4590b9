import RemoteDebug.Proofs.Reading

/-!
The end of the target.

A target reports its end in an event like any other. One that finds no listener ends everything: the
model is released before the hook hears of it, and no event, no resumption and no read follows
(`end_concludes`). One that finds a listener is the business of that listener alone, and it ends nothing
(`heard_end_goes_on`).
-/

namespace RemoteDebug

open Operation

/-- The status in which the end of a target leaves its model, and the notice about it. -/
def Happening.ending? : Happening → Option (TargetStatus × Notice)
  | .vmDeath => some (.terminated, .exit)
  | .vmDisconnect => some (.disconnected, .disconnect)
  | _ => none

namespace Happening

variable {happening : Happening}

theorem ending_of_isEnd (isEnd : happening.isEnd = true) :
    ∃ status notice, happening.ending? = some (status, notice) ∧ status.isFinal = true := by
  cases happening with
  | vmDeath => exact ⟨_, _, rfl, rfl⟩
  | vmDisconnect => exact ⟨_, _, rfl, rfl⟩
  | _ => cases isEnd

end Happening

namespace Target

/-- The model without its threads, in a final status. -/
def released (target : Target) (status : TargetStatus) : Target :=
  { target with threads := target.threads.clear, status }

/-- What is told of the release. -/
def releaseRemarks {σ : Type} (target : Target) (status : TargetStatus) : List (Exchange σ) := [
  .told (.log (.threadsReleased target.name status target.threads.threads.length)),
  .told (.log (.statusSet target.name status))]

variable {target target' : Target} {status : TargetStatus} {passed : List (Exchange Target)}

theorem setStatus_iff {u : Unit} :
    (setStatus status).Course target passed u target' ↔
      passed = [.told (.log (.statusSet target.name status))] ∧ target' = { target with status } := by
  refine Course.read_bind_iff.trans (Course.tell_bind_iff.trans ?_)
  constructor
  · rintro ⟨last, updates, rfl⟩
    obtain ⟨rfl, rfl⟩ := Course.update_iff.mp updates
    exact ⟨rfl, rfl⟩
  · rintro ⟨rfl, rfl⟩
    exact ⟨[], Course.update_iff.mpr ⟨rfl, rfl⟩, rfl⟩

theorem release_iff {u : Unit} :
    (release status).Course target passed u target' ↔
      passed = target.releaseRemarks status ∧ target' = target.released status := by
  refine Course.read_bind_iff.trans (Course.update_bind_iff.trans (Course.tell_bind_iff.trans ?_))
  constructor
  · rintro ⟨later, sets, rfl⟩
    obtain ⟨rfl, rfl⟩ := setStatus_iff.mp sets
    exact ⟨rfl, rfl⟩
  · rintro ⟨rfl, rfl⟩
    exact ⟨_, setStatus_iff.mpr ⟨rfl, rfl⟩, rfl⟩

/-- The model is released before the hook hears of the end, and nobody else is asked for anything. -/
theorem heed_of_end {event : Event} {notice : Notice} {r : Except Interruption Unit}
    (ends : event.happening.ending? = some (status, notice))
    (course : (heed event).run.Course target passed r target') :
    ∃ reply, passed = target.releaseRemarks status ++
        .asked (.hook notice) (target.released status) reply target' :: reply.remarks ∧
      r = reply.outcome := by
  have follows : ∀ {status notice} {passed : List (Exchange Target)},
      (ExceptT.run (perform (release status) >>= fun _ => Handling.announce notice)).Course target
        passed r target' →
      ∃ reply, passed = target.releaseRemarks status ++
          .asked (.hook notice) (target.released status) reply target' :: reply.remarks ∧
        r = reply.outcome := by
    intro status notice passed course
    obtain ⟨_, middle, first, later, releases, announces, rfl⟩ := Course.run_perform_bind_iff.mp course
    obtain ⟨rfl, rfl⟩ := release_iff.mp releases
    obtain ⟨reply, rfl, rfl⟩ := Handling.announce_iff.mp announces
    exact ⟨reply, rfl, rfl⟩
  obtain ⟨request, happening⟩ := event
  cases happening with
  | vmDeath =>
      cases ends
      exact follows course
  | vmDisconnect =>
      cases ends
      exact follows course
  | _ => cases ends

end Target

namespace Turn

variable {turn : Turn}

/-- A turn that leaves the end of the target to its handler asks for nothing but the attention of the
hook, which finds the model released. -/
theorem asked_of_ends (ends : turn.Ends) :
    ∃ status notice before reply after, status.isFinal = true ∧
      before.target = turn.before.target.released status ∧ turn.after.target = after.target ∧
      .asked (.hook notice) before reply after ∈ turn.passed ∧
      ∀ q before' reply' after', .asked q before' reply' after' ∈ turn.passed →
        before'.target = turn.before.target.released status := by
  obtain ⟨unbound, isEnd⟩ := ends
  obtain ⟨status, notice, ending, final⟩ := Happening.ending_of_isEnd isEnd
  obtain ⟨result, waited, site, care, course, passed, after_eq⟩ := handled_of_recipient unbound
  obtain ⟨r, heeded, -, -⟩ := Site.route_iff.mp course
  obtain ⟨reply, seen, -⟩ := Target.heed_of_end ending heeded
  have settled : turn.after.target = site.target := by
    rw [after_eq, Site.settle_target]
  have only : ∀ q u reply' u', .asked q u reply' u' ∈ waited.map (Exchange.onPart Site.target) →
      Exchange.asked q u reply' u' =
        .asked (.hook notice) (turn.before.target.released status) reply site.target := by
    intro q u reply' u' mem
    rw [seen] at mem
    rcases List.mem_append.mp mem with mem | mem
    · simp [Target.releaseRemarks] at mem
    · rcases List.mem_cons.mp mem with same | mem
      · exact same
      · cases reply <;> simp [HookReply.remarks] at mem
  have asked_of : ∀ q before' reply' after', .asked q before' reply' after' ∈ turn.passed →
      Exchange.asked q before'.target reply' after'.target =
        .asked (.hook notice) (turn.before.target.released status) reply site.target := by
    intro q before' reply' after' mem
    rw [passed] at mem
    rcases List.mem_append.mp mem with mem | mem
    · exact only _ _ _ _ (List.mem_map_of_mem mem)
    · exact absurd mem Care.not_asked_remarks
  have heard : .asked (.hook notice) (turn.before.target.released status) reply site.target ∈
      waited.map (Exchange.onPart Site.target) := by
    rw [seen]
    exact List.mem_append_right _ List.mem_cons_self
  obtain ⟨e, mem, view⟩ := List.mem_map.mp heard
  cases e with
  | told => cases view
  | asked q before reply' after =>
      injection view with same released answer left
      subst same
      refine ⟨status, notice, before, reply', after, final, released, ?_, ?_, ?_⟩
      · rw [settled, ← left]
      · rw [passed]
        exact List.mem_append_left _ mem
      · intro q before' reply'' after' mem
        injection asked_of q before' reply'' after' mem

end Turn

/-- When reading has ended with the turns, the set is left alone. -/
theorem Ending.of_stopped {set : EventSet} {turns : List Turn} {delivered site' : Site}
    {ending : List (Exchange Site)} {r : Except Interruption DispatchOutcome}
    (ends : Ending set turns delivered ending r site')
    (stopped : delivered.dispatcher.keepReading = false) :
    ending.filterMap Exchange.resumption? = [] ∧ site'.target = delivered.target ∧
      site'.dispatcher.keepReading = false ∧ ∀ outcome, r = .ok outcome → outcome.resumed = false := by
  cases ends with
  | unwound =>
      refine ⟨rfl, rfl, stopped, ?_⟩
      intro outcome impossible
      cases impossible
  | @closed tally closing resumed site _ closes =>
      have refused : tally.allows delivered.cleared.dispatcher = false := by
        simp [Tally.allows, Site.cleared, stopped]
      cases closes with
      | left =>
          refine ⟨rfl, rfl, (Dispatcher.enter_keepReading _ _).trans stopped, ?_⟩
          intro outcome same
          cases same
          rfl
      | resumed allowed => cases refused.symm.trans allowed
      | refused allowed => cases refused.symm.trans allowed

namespace Account

variable {set : EventSet} {site site' : Site} {passed : List (Exchange Site)}
  {r : Except Interruption DispatchOutcome}

/-- With this turn everything is over. -/
structure Concludes (account : Account set site passed r site') (i : Nat) (turn : Turn) : Prop where
  /-- No later event of the set gets a turn. -/
  last : account.turns.length = i + 1
  /-- Whoever is asked for anything in the turn finds the target terminated. -/
  terminated : ∀ q before reply after, .asked q before reply after ∈ turn.passed →
    before.target.isTerminated = true
  /-- The hook hears of the end, and after it nobody touches the model. -/
  announced : ∃ notice before reply after, .asked (.hook notice) before reply after ∈ turn.passed ∧
    site'.target = after.target
  unresumed : passed.filterMap Exchange.resumption? = []
  outcome : ∀ outcome, r = .ok outcome → outcome.resumed = false ∧ outcome.dispatched = i + 1
  /-- The loop goes on with `Site.run` after a dispatch; it reads nothing. -/
  unread : ∀ channel later r' after, (Site.run channel).run.Course site' later r' after →
    ∀ e ∈ later, e.read? = none

theorem concludes_of_ends (account : Account set site passed r site')
    (undisturbed : ∀ e ∈ passed, e.Undisturbed) {i : Nat} {turn : Turn}
    (found : account.turns[i]? = some turn) (ends : turn.Ends) : account.Concludes i turn := by
  have mem : turn ∈ account.turns := List.mem_of_getElem? found
  have stopped : turn.after.dispatcher.keepReading = false := by
    rw [← Bool.not_eq_true, turn.keepReading_iff (account.forall_turns undisturbed turn mem)]
    rintro ⟨-, unstopped⟩
    exact unstopped (.inr (.inl ends))
  obtain ⟨within, at_i⟩ := List.getElem?_eq_some_iff.mp found
  have parts : account.turns = account.turns.take i ++ turn :: account.turns.drop (i + 1) := by
    rw [← at_i, ← List.drop_eq_getElem_cons within, List.take_append_drop]
  have delivery := account.delivery
  rw [parts] at delivery
  obtain ⟨nothing, same⟩ := delivery.last_of_stopped stopped
  have last : account.turns.length = i + 1 := by
    have short := List.drop_eq_nil_iff.mp nothing
    omega
  rw [← same] at stopped
  obtain ⟨unresumed, kept, never, denied⟩ := account.ends.of_stopped stopped
  obtain ⟨status, notice, before, reply, after, final, -, left, heard, only⟩ := Turn.asked_of_ends ends
  constructor
  case last => exact last
  case terminated =>
    intro q before reply after mem
    rw [only q before reply after mem]
    exact final
  case announced => exact ⟨notice, before, reply, after, heard, by rw [kept, same, left]⟩
  case unresumed => exact account.resumptions.trans unresumed
  case outcome =>
    rintro outcome rfl
    obtain ⟨closing, closed, -, -, -, counted, -⟩ := account.closes
    refine ⟨denied outcome rfl, ?_⟩
    rw [counted, Tally.of, Tally.foldl_dispatched, List.length_map, last]
    exact Nat.zero_add _
  case unread =>
    intro channel later r' after course e mem
    obtain ⟨rfl, -⟩ := Site.run_of_stopped never course
    rw [List.mem_singleton.mp mem]
    rfl

end Account

/-- The end of a target that finds no listener ends everything; one that finds a listener is given to
the listener and to nobody else. -/
theorem end_concludes {set : EventSet} {site site' : Site} {passed : List (Exchange Site)}
    {r : Except Interruption DispatchOutcome}
    (course : (Site.dispatch set).run.Course site passed r site')
    (undisturbed : ∀ e ∈ passed, e.Undisturbed) :
    ∃ account : Account set site passed r site', ∀ i turn, account.turns[i]? = some turn →
      turn.event.happening.isEnd = true →
      (turn.recipient? = none → account.Concludes i turn) ∧
      ∀ request listener, turn.recipient? = some (request, listener) →
        ∃ reply, turn.care = .heard request listener reply ∧
          turn.passed = .asked (.listen listener turn.event) turn.before.begun reply turn.after ::
            turn.care.remarks := by
  obtain ⟨account⟩ := Site.dispatch_course course
  refine ⟨account, ?_⟩
  intro i turn found isEnd
  constructor
  · intro unbound
    exact account.concludes_of_ends undisturbed found ⟨unbound, isEnd⟩
  · intro request listener bound
    exact Turn.heard_of_recipient bound

namespace Sample

/-- A set that starts with the end of the target, as an event of some request. -/
def lastSet (request : Option RequestRef) : EventSet :=
  ⟨.all, [⟨request, .vmDeath⟩, ⟨none, .other "more"⟩]⟩

/-- Two threads that are suspended, the first of them in focus. -/
def crew : ThreadRegistry :=
  (((({} : ThreadRegistry).register ⟨1⟩).register ⟨2⟩).setStatusAll .suspended).setFocus ⟨1⟩

/-- The site after the target reported its start. -/
def started (state : DispatcherState) : Site :=
  { site state with
    target.status := .suspended
    target.threads := crew }

/-- The site after the end was left to its handler, while one more event waits. -/
def gone : Site where
  target := (started .idle).target.released .terminated
  dispatcher := { (waiting 1 (started .dispatching)).dispatcher with keepReading := false }

/-- What passes when the end finds no listener. -/
def unheard : List (Exchange Site) := [
  .told (.log (.dispatching (lastSet none))),
  .told (.log (.threadsReleased "sample" .terminated 2)),
  .told (.log (.statusSet "sample" .terminated)),
  .asked (.hook .exit) gone .done gone,
  .told (.log (.dispatched 1 1 false))]

/-- What passes when the end finds a listener that is for resuming. -/
def heard : List (Exchange Site) := [
  .told (.log (.dispatching (lastSet (some ⟨1⟩)))),
  .asked (.listen ⟨0⟩ ⟨some ⟨1⟩, .vmDeath⟩) (waiting 1 (site .dispatching)) (.vote true)
    (waiting 1 (site .dispatching)),
  .told (.log (.unhandled ⟨none, .other "more"⟩)),
  .asked (.call (.resumeSet (lastSet (some ⟨1⟩)))) (site .dispatching) (.ok ()) (site .dispatching),
  .told (.log (.dispatched 2 0 true))]

end Sample

theorem end_concludes_unheard :
    (Site.dispatch (Sample.lastSet none)).run.Course (Sample.started .idle) Sample.unheard
        (.ok { voted := false, resumed := false, dispatched := 1, skipped := 1 })
        (Sample.gone.cleared.closed) ∧
      (∀ e ∈ Sample.unheard, e.Undisturbed) ∧
      ∃ account : Account (Sample.lastSet none) (Sample.started .idle) Sample.unheard
          (.ok { voted := false, resumed := false, dispatched := 1, skipped := 1 })
          Sample.gone.cleared.closed,
        ∀ i turn, account.turns[i]? = some turn → turn.event.happening.isEnd = true →
          (turn.recipient? = none → account.Concludes i turn) ∧
          ∀ request listener, turn.recipient? = some (request, listener) →
            ∃ reply, turn.care = .heard request listener reply ∧
              turn.passed = .asked (.listen listener turn.event) turn.before.begun reply turn.after ::
                turn.care.remarks := by
  have course : (Site.dispatch (Sample.lastSet none)).run.Course (Sample.started .idle) Sample.unheard
      (.ok { voted := false, resumed := false, dispatched := 1, skipped := 1 })
      (Sample.gone.cleared.closed) :=
    .note (.note (.note (.ask (.note .done))))
  have undisturbed : ∀ e ∈ Sample.unheard, e.Undisturbed := by
    simp [Sample.unheard, Exchange.Undisturbed, Dispatcher.Interlude.refl]
  exact ⟨course, undisturbed, end_concludes course undisturbed⟩

/-- The end of a target that finds a listener leaves the model as it is: the next event gets its turn,
the set is resumed and the loop reads on. -/
theorem heard_end_goes_on :
    (Site.dispatch (Sample.lastSet (some ⟨1⟩))).run.Course (Sample.site .idle) Sample.heard
        (.ok { voted := true, resumed := true, dispatched := 2, skipped := 0 }) (Sample.site .idle) ∧
      (Sample.site .idle).target.isTerminated = false ∧
      (Site.run [.ok (Sample.lastSet (some ⟨1⟩))]).run.Course (Sample.site .idle)
        (.asked (.read (.ok (Sample.lastSet (some ⟨1⟩)))) (Sample.site .reading) ()
            (Sample.site .reading) ::
          Sample.heard ++ [
            .asked (.read (.error .disconnected)) (Sample.site .reading) () (Sample.site .reading),
            .told (.log (.readingStopped .disconnected)), (Sample.site .reading).farewell])
        (.ok ()) (Sample.site .reading).finished :=
  ⟨.note (.ask (.note (.ask (.note .done)))), rfl,
    .ask (.note (.ask (.note (.ask (.note (.ask (.note (.note .done))))))))⟩

end RemoteDebug
