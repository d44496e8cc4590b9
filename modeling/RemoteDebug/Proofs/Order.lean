import Mathlib.Data.List.Basic
import RemoteDebug.Proofs.Dispatch

/-!
The order in which the events of a set are dispatched.

The pending count, the count of dispatched events and the place in the set are three numbers of the
dispatcher that move at different times. `Account.InOrder` is how they go together: the events that had a
turn are the first of their set, each went to one recipient, and the counts say how many there were and
how many are left.
-/

namespace RemoteDebug

open Operation

namespace Turn

variable {turn : Turn}

/-- A listener is called at most once in a turn, and only the one that the event is for. -/
theorem listens :
    turn.passed.filterMap Exchange.listen? =
      (turn.recipient?.map fun (_, listener) => (listener, turn.event)).toList := by
  cases found : turn.recipient? with
  | some recipient =>
      obtain ⟨request, listener⟩ := recipient
      obtain ⟨reply, care, passed⟩ := heard_of_recipient found
      have remarks : turn.care.remarks.filterMap Exchange.listen? = [] := by
        apply List.filterMap_eq_nil_iff.mpr
        intro e mem
        obtain ⟨n, rfl⟩ := Care.remarks_told mem
        rfl
      simp only [passed, List.filterMap_cons, Exchange.listen?, remarks]
      rfl
  | none =>
      apply List.filterMap_eq_nil_iff.mpr
      intro e mem
      cases e with
      | told => rfl
      | asked q before reply after =>
          rcases turn.request mem with ⟨request, listener, bound, -⟩ | ⟨-, ⟨notice, rfl⟩ | ⟨c, rfl, -⟩⟩
          · cases found.symm.trans bound
          · rfl
          · rfl

/-- The dispatcher as it can be seen in a turn: at the beginning, when something is asked, when the reply
comes back, and at the end. -/
inductive Shows (turn : Turn) : Dispatcher → Prop where
  | begun : Shows turn turn.before.begun.dispatcher
  | asked {q : Request} {before after : Site} {reply : q.Reply} :
      .asked q before reply after ∈ turn.passed → Shows turn before.dispatcher
  | replied {q : Request} {before after : Site} {reply : q.Reply} :
      .asked q before reply after ∈ turn.passed → Shows turn after.dispatcher
  | ended : Shows turn turn.after.dispatcher

theorem Shows.interlude {dispatcher : Dispatcher} (shows : turn.Shows dispatcher)
    (undisturbed : ∀ e ∈ turn.passed, e.Undisturbed) :
    turn.before.begun.dispatcher.Interlude dispatcher := by
  obtain ⟨whole, each⟩ := turn.interlude undisturbed
  cases shows with
  | begun => exact .refl _
  | asked mem => exact each _ _ _ _ mem
  | replied mem =>
      have waited := undisturbed _ mem
      exact (each _ _ _ _ mem).trans waited
  | ended => exact whole

end Turn

namespace Account

variable {set : EventSet} {site site' : Site} {passed : List (Exchange Site)}
  {r : Except Interruption DispatchOutcome}

/-- There is a reason that the delivery of a set ended early: somebody asked for a stop, a turn left the
end of the target to its handler, a listener panicked or a handler failed. -/
def CutShort (account : Account set site passed r site') : Prop :=
  site.dispatcher.keepReading = false ∨
    ∃ turn ∈ account.turns, (∃ e ∈ turn.passed, e.Stops) ∨ turn.Ends ∨
      (∃ request listener, turn.care = .heard request listener .panicked) ∨
      ∃ i, turn.care = .handled (.error i)

/-- The events of a set are dispatched in order, each to one recipient, and none is lost. -/
structure InOrder {outcome : DispatchOutcome}
    (account : Account set site passed (.ok outcome) site') : Prop where
  /-- The events that had a turn are the first ones of the set. -/
  first : account.turns.map Turn.event <+: set.events
  /-- The calls of listeners in a dispatch are those of the events that had a listener in their turn. -/
  listens : passed.filterMap Exchange.listen? = account.turns.filterMap fun turn =>
    turn.recipient?.map fun (_, listener) => (listener, turn.event)
  /-- An event with a listener is for the listener only: nothing else is asked for in its turn. -/
  heard : ∀ turn ∈ account.turns, ∀ request listener, turn.recipient? = some (request, listener) →
    ∃ reply, turn.care = .heard request listener reply ∧
      turn.passed = .asked (.listen listener turn.event) turn.before.begun reply turn.after ::
        turn.care.remarks
  /-- An event without a listener is for the handler of its kind. -/
  handled : ∀ turn ∈ account.turns, turn.recipient? = none →
    ∃ result waited site, turn.care = .handled result ∧
      (Site.route turn.event).run.Course turn.before.begun waited result site ∧
      turn.passed = waited ++ turn.care.remarks ∧ turn.after = site.settle turn.care
  dispatched : outcome.dispatched = account.turns.length
  complete : outcome.dispatched + outcome.skipped = set.size
  short : outcome.dispatched < set.size → account.CutShort
  /-- When its turn comes an event is still on the count of those that wait, and so are all after it. -/
  pending : ∀ i turn, account.turns[i]? = some turn →
    0 < turn.before.dispatcher.pending ∧ turn.before.dispatcher.pending + i = set.size
  /-- While an event has its turn, events wait exactly if it is not the last one of the set. -/
  waiting : ∀ i turn, account.turns[i]? = some turn → ∀ dispatcher, turn.Shows dispatcher →
    (dispatcher.hasPendingEvents = true ↔ i + 1 < set.size)
  drained : site'.dispatcher.pending = 0

/-- The calls of listeners in a dispatch are those of its turns. -/
theorem listens (account : Account set site passed r site') :
    passed.filterMap Exchange.listen? = account.turns.filterMap fun turn =>
      turn.recipient?.map fun (_, listener) => (listener, turn.event) := by
  have ending : account.ending.filterMap Exchange.listen? = [] := by
    apply List.filterMap_eq_nil_iff.mpr
    intro e mem
    cases e with
    | told => rfl
    | asked q before reply after =>
        obtain ⟨rfl, -⟩ := account.ends.asked mem
        rfl
  calc passed.filterMap Exchange.listen?
    _ = (account.turns.flatMap Turn.passed).filterMap Exchange.listen? := by
        refine (congrArg _ account.passed_eq).trans ?_
        rw [List.filterMap_cons_none rfl, List.filterMap_append, ending, List.append_nil]
    _ = account.turns.flatMap fun turn => turn.passed.filterMap Exchange.listen? :=
        List.filterMap_flatMap
    _ = _ := by
        rw [List.filterMap_eq_flatMap_toList]
        simp only [Turn.listens]

theorem turns_le (account : Account set site passed r site') : account.turns.length ≤ set.size := by
  rw [← List.length_map Turn.event]
  exact account.delivery.events_prefix.length_le

/-- As many events wait when the turn of an event comes as are in the set from that one on. -/
theorem pending (account : Account set site passed r site')
    (undisturbed : ∀ e ∈ passed, e.Undisturbed) :
    account.delivered.dispatcher.pending + account.turns.length = set.size ∧
      ∀ i turn, account.turns[i]? = some turn →
        0 < turn.before.dispatcher.pending ∧ turn.before.dispatcher.pending + i = set.size := by
  obtain ⟨whole, each⟩ := account.interlude undisturbed
  have bound := account.turns_le
  constructor
  · have left : account.delivered.dispatcher.pending = set.size - account.turns.length :=
      whole.pending
    omega
  · intro i turn found
    have left : turn.before.dispatcher.pending = set.size - i := (each i turn found).pending
    have within : i < account.turns.length := (List.getElem?_eq_some_iff.mp found).1
    omega

/-- A delivery that leaves events without a turn was cut short for a reason. -/
theorem short (account : Account set site passed r site')
    (undisturbed : ∀ e ∈ passed, e.Undisturbed) (left : account.turns.length < set.size) :
    account.CutShort := by
  rcases account.delivery.short left with stopped | ⟨turn, mem, ends⟩
  · have reasons := mt (account.delivered_keepReading_iff undisturbed).mpr (by simp [stopped])
    by_cases reading : site.dispatcher.keepReading = true
    · simp only [reading, true_and, not_forall, not_not] at reasons
      obtain ⟨turn, mem, asked | ends | fatal⟩ := reasons
      · exact .inr ⟨turn, mem, .inl asked⟩
      · exact .inr ⟨turn, mem, .inr (.inl ends)⟩
      · exact .inr ⟨turn, mem, .inr (.inr (.inr ⟨_, Turn.isFatal_iff.mp fatal⟩))⟩
    · exact .inl (Bool.not_eq_true _ ▸ reading)
  · refine .inr ⟨turn, mem, .inr (.inr ?_)⟩
    cases care : turn.care with
    | heard request listener reply =>
        rw [care] at ends
        cases reply with
        | vote => cases ends
        | panicked => exact .inl ⟨request, listener, rfl⟩
    | handled result =>
        rw [care] at ends
        cases result with
        | ok => cases ends
        | error i => exact .inr ⟨i, rfl⟩

end Account

/-- Whatever listeners, handlers and the target do, the events of a set are dispatched in order. -/
theorem events_in_order {set : EventSet} {site site' : Site} {passed : List (Exchange Site)}
    {r : Except Interruption DispatchOutcome}
    (course : (Site.dispatch set).run.Course site passed r site')
    (undisturbed : ∀ e ∈ passed, e.Undisturbed) (calm : ∀ e ∈ passed, e.Calm) :
    ∃ outcome, r = .ok outcome ∧
      ∃ account : Account set site passed (.ok outcome) site', account.InOrder := by
  obtain ⟨account⟩ := Site.dispatch_course course
  obtain ⟨outcome, rfl⟩ := account.result_ok calm
  obtain ⟨closing, closed, closes, ending, -, counted, skipped, final⟩ := account.closes
  obtain ⟨left, each⟩ := account.pending undisturbed
  have dispatched : outcome.dispatched = account.turns.length := by
    rw [counted, Tally.of, Tally.foldl_dispatched, List.length_map]
    exact Nat.zero_add _
  refine ⟨outcome, rfl, account, ?_⟩
  constructor
  case first => exact account.delivery.events_prefix
  case listens => exact account.listens
  case heard =>
    intro turn _ request listener bound
    exact Turn.heard_of_recipient bound
  case handled =>
    intro turn _ unbound
    exact Turn.handled_of_recipient unbound
  case dispatched => exact dispatched
  case complete =>
    rw [dispatched, skipped, Nat.add_comm]
    exact left
  case short =>
    intro fewer
    rw [dispatched] at fewer
    exact account.short undisturbed fewer
  case pending => exact each
  case waiting =>
    intro i turn found dispatcher shows
    have mem : turn ∈ account.turns := List.mem_of_getElem? found
    have interlude := shows.interlude (account.forall_turns undisturbed turn mem)
    have waits : dispatcher.pending = turn.before.dispatcher.pending - 1 := interlude.pending
    obtain ⟨waiting, place⟩ := each i turn found
    unfold Dispatcher.hasPendingEvents
    rw [decide_eq_true_iff]
    omega
  case drained =>
    have closed_pending := (closes.interlude fun e mem =>
      undisturbed e (account.mem_of_closing ending mem)).pending
    rw [final]
    exact (closed.dispatcher.enter_pending _).trans closed_pending

theorem events_in_order_sample :
    (Site.dispatch Sample.set).run.Course (Sample.site .idle) (Sample.passed .panicked)
        (.ok (Sample.outcome .panicked)) (Sample.grown .idle) ∧
      (∀ e ∈ Sample.passed .panicked, e.Undisturbed) ∧ (∀ e ∈ Sample.passed .panicked, e.Calm) ∧
      ∃ outcome, (.ok (Sample.outcome .panicked) : Except Interruption DispatchOutcome) = .ok outcome ∧
        ∃ account : Account Sample.set (Sample.site .idle) (Sample.passed .panicked) (.ok outcome)
          (Sample.grown .idle), account.InOrder :=
  ⟨Sample.course _, Sample.undisturbed _, Sample.calm _,
    events_in_order (Sample.course _) (Sample.undisturbed _) (Sample.calm _)⟩

end RemoteDebug
