import RemoteDebug.Proofs.Interlude

/-!
The turn of a single event.

An event is for the listener of its request, if there is one when its turn comes, and else for the
handler of its kind. `TakesTurn` has one case for each; a `Turn` is the record of one that was taken.
What a turn does to the dispatcher follows from the record: apart from the count of waiting events it is
an interlude, and it ends the reading exactly if `Turn.Stops` finds a reason in it.
-/

namespace RemoteDebug

open Operation

/-- The listener of an event, with the request that it is bound to. -/
def Listeners.recipient? (listeners : Listeners) (event : Event) : Option (RequestRef × Listener) :=
  event.request.bind fun request =>
    (listeners.get? request).map fun listener => (request, listener)

/-- How an event was taken care of. -/
inductive Care where
  | heard (request : RequestRef) (listener : Listener) (reply : ListenerReply)
  | handled (result : Except Interruption Bool)

namespace Care

/-- The next event can have its turn. -/
def goesOn : Care → Bool
  | .heard _ _ (.vote _) | .handled (.ok _) => true
  | .heard _ _ .panicked | .handled (.error _) => false

/-- Somebody voted. A listener that panics has spoken, too. -/
def votes : Care → Bool
  | .heard .. => true
  | .handled (.ok vote) => vote
  | .handled (.error _) => false

/-- A handler was at fault such that no more can be read. -/
def isFatal : Care → Bool
  | .handled (.error (.fault fault)) => fault.isFatal
  | _ => false

/-- What is told afterwards. -/
def remarks : Care → List (Exchange Site)
  | .heard request _ .panicked => [.told (.report (.error .dispatcher (.listenerPanicked request)))]
  | .handled (.error (.fault fault)) => [.told (.report (.error .dispatcher fault))]
  | _ => []

theorem remarks_told {care : Care} {e : Exchange Site} (mem : e ∈ care.remarks) :
    ∃ n, e = .told n := by
  unfold remarks at mem
  split at mem
  · exact ⟨_, List.mem_singleton.mp mem⟩
  · exact ⟨_, List.mem_singleton.mp mem⟩
  · cases mem

theorem not_asked_remarks {care : Care} {q : Request} {before after : Site} {reply : q.Reply} :
    .asked q before reply after ∉ care.remarks := by
  intro mem
  obtain ⟨n, impossible⟩ := remarks_told mem
  cases impossible

/-- The remarks about the care of an event have no part in what is picked out of requests. -/
theorem filterMap_remarks {α : Type} {pick : Exchange Site → Option α} (care : Care)
    (asks : ∀ n, pick (.told n) = none) : care.remarks.filterMap pick = [] := by
  refine List.filterMap_eq_nil_iff.mpr fun e mem => ?_
  obtain ⟨n, rfl⟩ := remarks_told mem
  exact asks n

theorem map_remarks {view : Site → Site} (care : Care) : care.remarks.map (.onPart view) = care.remarks := by
  unfold remarks
  split <;> rfl

theorem remarks_not_stops {care : Care} : ¬ ∃ e ∈ care.remarks, e.Stops := by
  rintro ⟨e, mem, stops⟩
  obtain ⟨n, rfl⟩ := remarks_told mem
  exact stops

end Care

namespace Site

/-- The site when an event begins its turn: it no longer waits. -/
def begun (site : Site) : Site :=
  { site with dispatcher := site.dispatcher.advance 1 }

/-- The site after the care of an event: a fatal fault ends the reading. -/
def settle (site : Site) (care : Care) : Site :=
  if care.isFatal then { site with dispatcher := { site.dispatcher with keepReading := false } }
  else site

@[simp] theorem settle_target (site : Site) (care : Care) :
    (site.settle care).target = site.target := by
  unfold settle
  split <;> rfl

theorem settle_interlude (site : Site) (care : Care) :
    site.dispatcher.Interlude (site.settle care).dispatcher := by
  unfold settle
  split
  · exact .clear
  · exact .refl _

theorem settle_keepReading_iff {site : Site} {care : Care} :
    (site.settle care).dispatcher.keepReading = true ↔
      site.dispatcher.keepReading = true ∧ ¬ care.isFatal = true := by
  unfold settle
  split <;> simp_all

theorem reportFault_iff {fault : Fault} {site site' : Site} {passed : List (Exchange Site)}
    {u : Unit} :
    (reportFault fault).Course site passed u site' ↔
      passed = (Care.handled (.error (.fault fault))).remarks ∧
        site' = site.settle (.handled (.error (.fault fault))) := by
  refine Course.tell_bind_iff.trans ?_
  by_cases fatal : fault.isFatal = true
  · simp only [settle, Care.isFatal, Care.remarks, fatal, if_true]
    constructor
    · rintro ⟨later, updated, rfl⟩
      obtain ⟨rfl, rfl⟩ := Course.update_iff.mp updated
      exact ⟨rfl, rfl⟩
    · rintro ⟨rfl, rfl⟩
      exact ⟨[], Course.update_iff.mpr ⟨rfl, rfl⟩, rfl⟩
  · simp only [settle, Care.isFatal, Care.remarks, fatal]
    constructor
    · rintro ⟨later, finished, rfl⟩
      obtain ⟨rfl, -, rfl⟩ := Course.pure_iff.mp finished
      exact ⟨rfl, rfl⟩
    · rintro ⟨rfl, rfl⟩
      exact ⟨[], Course.pure_iff.mpr ⟨rfl, rfl, rfl⟩, rfl⟩

end Site

namespace Dispatcher

theorem heed_interlude (dispatcher : Dispatcher) (event : Event) :
    dispatcher.Interlude (dispatcher.heed event) := by
  unfold heed
  split
  · exact .clear
  · exact .refl _

theorem heed_keepReading_iff {dispatcher : Dispatcher} {event : Event} :
    (dispatcher.heed event).keepReading = true ↔
      dispatcher.keepReading = true ∧ ¬ event.happening.isEnd = true := by
  unfold heed
  split <;> simp_all

end Dispatcher

/-- `TakesTurn event before care passed after`: the event gets its turn at `before`, is taken care of
by `care`, and leaves `after`. -/
inductive TakesTurn (event : Event) (before : Site) : Care → List (Exchange Site) → Site → Prop where
  | heard {request : RequestRef} {listener : Listener} {reply : ListenerReply} {after : Site} :
      before.dispatcher.listeners.recipient? event = some (request, listener) →
      TakesTurn event before (.heard request listener reply)
        (.asked (.listen listener event) before.begun reply after ::
          (Care.heard request listener reply).remarks) after
  | handled {result : Except Interruption Bool} {waited : List (Exchange Site)} {site : Site} :
      before.dispatcher.listeners.recipient? event = none →
      (Site.route event).run.Course before.begun waited result site →
      TakesTurn event before (.handled result) (waited ++ (Care.handled result).remarks)
        (site.settle (.handled result))

/-- A turn that was taken. -/
structure Turn where
  event : Event
  /-- The site when the turn begins. -/
  before : Site
  care : Care
  passed : List (Exchange Site)
  /-- The site when the turn is over. -/
  after : Site
  taken : TakesTurn event before care passed after

namespace Turn

/-- The listener that the event finds when its turn comes. -/
def recipient? (turn : Turn) : Option (RequestRef × Listener) :=
  turn.before.dispatcher.listeners.recipient? turn.event

/-- The end of the target was left to its handler. -/
def Ends (turn : Turn) : Prop := turn.recipient? = none ∧ turn.event.happening.isEnd = true

/-- The turn holds a reason to stop: somebody asked for it, the target ended or a fault was fatal. -/
def Stops (turn : Turn) : Prop :=
  (∃ e ∈ turn.passed, e.Stops) ∨ turn.Ends ∨ turn.care.isFatal = true

variable {turn : Turn}

/-- Apart from the count of waiting events a turn is an interlude, of which every request sees a part. -/
theorem interlude (undisturbed : ∀ e ∈ turn.passed, e.Undisturbed) :
    turn.before.begun.dispatcher.Interlude turn.after.dispatcher ∧
      ∀ q before reply after, .asked q before reply after ∈ turn.passed →
        turn.before.begun.dispatcher.Interlude before.dispatcher := by
  obtain ⟨event, before, care, passed, after, taken⟩ := turn
  cases taken with
  | heard bound =>
      refine ⟨undisturbed _ List.mem_cons_self, ?_⟩
      intro q s reply t mem
      rcases List.mem_cons.mp mem with same | mem
      · cases same
        exact .refl _
      · exact absurd mem Care.not_asked_remarks
  | handled unbound course =>
      obtain ⟨r, -, carries, -⟩ := Site.route_iff.mp course
      have heeded := before.begun.dispatcher.heed_interlude event
      obtain ⟨whole, each⟩ := carries.interlude fun e mem =>
        undisturbed e (List.mem_append_left _ mem)
      refine ⟨heeded.trans (whole.trans (Site.settle_interlude _ _)), ?_⟩
      intro q s reply t mem
      rcases List.mem_append.mp mem with mem | mem
      · exact heeded.trans (each q s reply t mem)
      · exact absurd mem Care.not_asked_remarks

/-- A turn ends the reading exactly if it holds a reason for it. -/
theorem keepReading_iff (undisturbed : ∀ e ∈ turn.passed, e.Undisturbed) :
    turn.after.dispatcher.keepReading = true ↔
      turn.before.dispatcher.keepReading = true ∧ ¬ turn.Stops := by
  obtain ⟨event, before, care, passed, after, taken⟩ := turn
  unfold Stops Ends recipient?
  cases taken with
  | @heard request listener reply after bound =>
      have interlude : before.begun.dispatcher.Interlude after.dispatcher :=
        undisturbed _ List.mem_cons_self
      have carries : Carries Site.dispatcher before.begun.dispatcher
          (.asked (.listen listener event) before.begun reply after ::
            (Care.heard request listener reply).remarks) after.dispatcher := by
        refine ⟨rfl, ?_⟩
        cases reply <;> exact rfl
      rw [carries.keepReading_iff undisturbed]
      simp [bound, Care.isFatal, Site.begun, Dispatcher.advance]
  | @handled result waited site unbound course =>
      obtain ⟨r, -, carries, -⟩ := Site.route_iff.mp course
      rw [Site.settle_keepReading_iff,
        carries.keepReading_iff fun e mem => undisturbed e (List.mem_append_left _ mem),
        Dispatcher.heed_keepReading_iff]
      have quiet : ¬ ∃ e ∈ (Care.handled result).remarks, e.Stops := Care.remarks_not_stops
      simp only [List.mem_append, or_and_right, exists_or, quiet, or_false, unbound, true_and,
        not_or, Site.begun]
      constructor
      · rintro ⟨⟨⟨reading, lasts⟩, unasked⟩, mild⟩
        exact ⟨reading, unasked, lasts, mild⟩
      · rintro ⟨reading, unasked, lasts, mild⟩
        exact ⟨⟨⟨reading, lasts⟩, unasked⟩, mild⟩

/-! ### What passes in a turn -/

/-- An event that finds a listener is for that listener alone. -/
theorem heard_of_recipient {request : RequestRef} {listener : Listener}
    (bound : turn.recipient? = some (request, listener)) :
    ∃ reply, turn.care = .heard request listener reply ∧
      turn.passed = .asked (.listen listener turn.event) turn.before.begun reply turn.after ::
        turn.care.remarks := by
  obtain ⟨event, before, care, passed, after, taken⟩ := turn
  cases taken with
  | heard found =>
      cases Option.some.inj (bound.symm.trans found)
      exact ⟨_, rfl, rfl⟩
  | handled unbound course => cases bound.symm.trans unbound

/-- An event that finds no listener is for the handler of its kind. -/
theorem handled_of_recipient (unbound : turn.recipient? = none) :
    ∃ result waited site, turn.care = .handled result ∧
      (Site.route turn.event).run.Course turn.before.begun waited result site ∧
      turn.passed = waited ++ turn.care.remarks ∧ turn.after = site.settle turn.care := by
  obtain ⟨event, before, care, passed, after, taken⟩ := turn
  cases taken with
  | heard bound => cases unbound.symm.trans bound
  | handled _ course => exact ⟨_, _, _, rfl, course, rfl, rfl⟩

/-- What a turn asks for: the attention of a listener, or else that of the hook and routine calls. -/
theorem request {q : Request} {before after : Site} {reply : q.Reply}
    (mem : .asked q before reply after ∈ turn.passed) :
    (∃ request listener, turn.recipient? = some (request, listener) ∧
      q = .listen listener turn.event) ∨
    turn.recipient? = none ∧ ((∃ notice, q = .hook notice) ∨ ∃ c, q = .call c ∧ c.isRoutine) := by
  cases found : turn.recipient? with
  | some recipient =>
      obtain ⟨request, listener⟩ := recipient
      obtain ⟨answer, -, passed⟩ := heard_of_recipient found
      rw [passed] at mem
      rcases List.mem_cons.mp mem with same | mem
      · cases same
        exact .inl ⟨request, listener, rfl, rfl⟩
      · exact absurd mem Care.not_asked_remarks
  | none =>
      obtain ⟨result, waited, site, -, course, passed, -⟩ := handled_of_recipient found
      rw [passed] at mem
      rcases List.mem_append.mp mem with mem | mem
      · exact .inr ⟨rfl, (Site.route_orderly _ _ _ _ course).request mem⟩
      · exact absurd mem Care.not_asked_remarks

/-- A listener that is called in a turn takes care of the event. -/
theorem care_of_listen {listener : Listener} {event : Event} {before after : Site}
    {reply : ListenerReply} (mem : .asked (.listen listener event) before reply after ∈ turn.passed) :
    ∃ request, turn.care = .heard request listener reply ∧ turn.event = event := by
  rcases turn.request mem with ⟨request, listener', bound, same⟩ | ⟨-, ⟨notice, same⟩ | ⟨c, same, -⟩⟩
  · obtain ⟨reply', care, passed⟩ := heard_of_recipient bound
    rw [passed] at mem
    rcases List.mem_cons.mp mem with same | mem
    · cases same
      exact ⟨request, care, rfl⟩
    · exact absurd mem Care.not_asked_remarks
  · cases same
  · cases same

theorem listen_of_care {request : RequestRef} {listener : Listener} {reply : ListenerReply}
    (care : turn.care = .heard request listener reply) :
    .asked (.listen listener turn.event) turn.before.begun reply turn.after ∈ turn.passed := by
  obtain ⟨event, before, care', passed, after, taken⟩ := turn
  cases care
  cases taken
  exact List.mem_cons_self

/-! ### How a turn ends -/

/-- Only a hook can make a turn end in a panic. -/
theorem care_ne_panic (calm : ∀ e ∈ turn.passed, e.Calm) {text : String} :
    turn.care ≠ .handled (.error (.panic text)) := by
  obtain ⟨event, before, care, passed, after, taken⟩ := turn
  cases taken with
  | heard => exact nofun
  | handled unbound course =>
      intro ended
      cases ended
      exact (Site.route_orderly _ _ _ _ course).not_panic
        (fun e mem => calm e (List.mem_append_left _ mem)) rfl

/-- A fault is fatal if the connection is lost. -/
theorem isFatal_iff :
    turn.care.isFatal = true ↔
      turn.care = .handled (.error (.fault (.remote .disconnected))) := by
  constructor
  · intro fatal
    obtain ⟨event, before, care, passed, after, taken⟩ := turn
    cases taken with
    | heard => cases fatal
    | @handled result waited site unbound course =>
        rcases result with (fault | text) | vote
        · obtain ⟨c, s, failure, t, rfl, -⟩ := (Site.route_orderly _ _ _ _ course).fault rfl
          cases failure <;> first | rfl | cases fatal
        · cases fatal
        · cases fatal
  · intro care
    rw [care]
    rfl

/-- An event votes if it finds a listener, or if its kind votes by itself. -/
theorem votes_iff (undisturbed : ∀ e ∈ turn.passed, e.Undisturbed)
    (calm : ∀ e ∈ turn.passed, e.Calm) :
    turn.care.votes = true ↔
      turn.recipient? ≠ none ∨ turn.event.votesAlone turn.before.dispatcher.settings = true := by
  cases found : turn.recipient? with
  | some recipient =>
      obtain ⟨reply, care, -⟩ := heard_of_recipient found
      simp [care, Care.votes]
  | none =>
      obtain ⟨result, waited, site, care, course, passed, after⟩ := handled_of_recipient found
      have settings : site.dispatcher.settings = turn.before.dispatcher.settings := by
        have settled := (Site.settle_interlude site turn.care).settings
        rw [← after, (turn.interlude undisturbed).1.settings] at settled
        exact settled.symm
      obtain ⟨r, heeded, -, rfl⟩ := Site.route_iff.mp course
      rw [settings] at care
      simp only [care, ne_eq, not_true, false_or]
      cases r with
      | ok u => rfl
      | error interruption =>
          cases interruption with
          | panic text => exact absurd care (turn.care_ne_panic calm)
          | fault fault =>
              rw [Event.votesAlone_of_fault heeded]
              exact ⟨nofun, nofun⟩

end Turn

end RemoteDebug
