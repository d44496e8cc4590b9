import RemoteDebug.Proofs.Order
import RemoteDebug.Proofs.Unswayed

/-!
Events are dispatched alike however they are batched.

What a dispatcher keeps of a batch is the count of its waiting events, and nothing in the dispatcher depends on
that count. `Site.cleared` forgets it, and turns and deliveries can be looked at without it (`Turn.cleared`,
`Delivery.cleared`). So they go one way from sites that differ in the count only (`Delivery.alike`), among
surroundings that do not look at it.

* `unbatched` is what passes but for what marks the batches: the entries in the log and the resumptions of sets.
* `BatchBlind` is the promise that nobody looks at these or at the count.
* `Exchange.isSmooth` is what keeps listeners and handlers from going wrong.
* `batched_alike` compares the dispatch of one set with the dispatches of its two parts.
-/

namespace RemoteDebug

open Operation

/-! ### Histories without batches -/

/-- An entry of the log about a batch. -/
def Note.marksBatch : Note → Bool
  | .log (.dispatching _) | .log (.dispatched ..) => true
  | _ => false

/-- A request for the sake of a batch. -/
def Request.marksBatch : Request → Bool
  | .call (.resumeSet _) => true
  | _ => false

/-- Something that is told or asked because of a batch, not because of an event. -/
def Exchange.marksBatch {σ : Type} : Exchange σ → Bool
  | .told n => n.marksBatch
  | .asked q _ _ _ => q.marksBatch

/-- An exchange without the count of waiting events, unless it marks a batch. -/
def Exchange.unbatched? (e : Exchange Site) : Option (Exchange Site) :=
  if e.marksBatch then none else some (e.onPart Site.cleared)

/-- What passes, without batches. -/
def unbatched (passed : List (Exchange Site)) : List (Exchange Site) :=
  passed.filterMap Exchange.unbatched?

@[simp] theorem unbatched_append (first second : List (Exchange Site)) :
    unbatched (first ++ second) = unbatched first ++ unbatched second :=
  List.filterMap_append

section Marks

variable {passed : List (Exchange Site)}

@[simp] theorem unbatched_nil : unbatched [] = [] := rfl

@[simp] theorem unbatched_dispatching {set : EventSet} :
    unbatched (.told (.log (.dispatching set)) :: passed) = unbatched passed := rfl

@[simp] theorem unbatched_dispatched {dispatched skipped : Nat} {resumed : Bool} :
    unbatched (.told (.log (.dispatched dispatched skipped resumed)) :: passed) = unbatched passed := rfl

@[simp] theorem forgiven_nil : forgiven ([] : List (Exchange Site)) = [] := rfl

@[simp] theorem forgiven_log {entry : LogEntry} :
    forgiven (.told (.log entry) :: passed) = .told (.log entry) :: forgiven passed := rfl

end Marks

/-- What is forgotten once is forgotten. -/
theorem unbatched_map_cleared (passed : List (Exchange Site)) :
    unbatched (passed.map (.onPart Site.cleared)) = unbatched passed := by
  rw [unbatched, List.filterMap_map]
  congr 1
  funext e
  cases e <;> rfl

/-- To forgive failures and to forget batches go in any order. -/
theorem unbatched_forgiven (passed : List (Exchange Site)) :
    unbatched (forgiven passed) = forgiven (unbatched passed) := by
  rw [unbatched, forgiven, List.filterMap_filterMap, forgiven, unbatched, List.filterMap_filterMap]
  congr 1
  funext e
  cases e with
  | told note =>
      cases note with
      | log entry =>
          change Exchange.unbatched? (.told (.log entry)) = _
          unfold Exchange.unbatched?
          split <;> rfl
      | report report =>
          cases report with
          | error component fault => cases component <;> cases fault <;> rfl
          | warning => rfl
  | asked q s reply t =>
      change Exchange.unbatched? (.asked q s (q.forgive reply) t) = _
      unfold Exchange.unbatched?
      cases marks : q.marksBatch with
      | true => simp [Exchange.marksBatch, marks]
      | false => simp [Exchange.marksBatch, marks, Exchange.forgiven?, Exchange.onPart]

/-! ### Surroundings without batches -/

/-- Surroundings that do not look at batches: neither at what marks them nor at the count of waiting events. They
leave dispatching to the dispatcher, and they resume every set without further ado. -/
structure BatchBlind (surroundings : Surroundings Site) : Prop where
  blind : ∀ {prior prior' : List (Exchange Site)} {q : Request} {s s' : Site},
    unbatched prior = unbatched prior' → s.cleared = s'.cleared →
      (surroundings prior q s).1 = (surroundings prior' q s').1 ∧
        (surroundings prior q s).2.cleared = (surroundings prior' q s').2.cleared
  undisturbed : ∀ prior q (s : Site), s.dispatcher.Interlude (surroundings prior q s).2.dispatcher
  resumes : ∀ prior set s, surroundings prior (.call (.resumeSet set)) s = (.ok (), s)

/-- The surroundings as they leave a site without the count of waiting events. -/
def Surroundings.cleared (surroundings : Surroundings Site) : Surroundings Site := fun prior q s =>
  ((surroundings prior q s).1, (surroundings prior q s).2.cleared)

section Among

variable {surroundings : Surroundings Site} (blind : BatchBlind surroundings)
  {prior prior' passed : List (Exchange Site)}

include blind

theorem Among.undisturbed (among : Among surroundings prior passed) : ∀ e ∈ passed, e.Undisturbed := by
  induction among with
  | nil => exact fun _ mem => nomatch mem
  | told _ ih => exact List.forall_mem_cons.mpr ⟨trivial, ih⟩
  | asked _ back _ ih =>
      refine List.forall_mem_cons.mpr ⟨?_, ih⟩
      rw [back]
      exact blind.undisturbed _ _ _

/-- What passes among the surroundings passes among them without the count, after any history that is the same
without batches. -/
theorem Among.cleared (among : Among surroundings prior passed) (same : unbatched prior = unbatched prior') :
    Among (Surroundings.cleared surroundings) prior' (passed.map (.onPart Site.cleared)) := by
  induction among generalizing prior' with
  | nil => exact .nil
  | told _ ih =>
      refine .told (ih ?_)
      rw [unbatched_append, unbatched_append, same]
  | @asked prior later q s t reply replies back _ ih =>
      have seen : (surroundings prior q s).1 = (surroundings prior' q s.cleared).1 ∧
          (surroundings prior q s).2.cleared = (surroundings prior' q s.cleared).2.cleared :=
        blind.blind same rfl
      refine .asked ?_ ?_ (ih ?_)
      · rw [replies, seen.1]
        rfl
      · rw [back, seen.2]
        rfl
      · rw [unbatched_append, unbatched_append, same, unbatched_forgiven, unbatched_forgiven,
          ← unbatched_map_cleared [.asked q s reply t]]
        rfl

end Among

/-! ### Turns and deliveries without the count -/

theorem Carries.map {σ τ ρ : Type} {part : σ → ρ} {part' : τ → ρ} (view : σ → τ) (f : ρ → ρ)
    (same : ∀ s, part' (view s) = f (part s)) {r r' : ρ} {passed : List (Exchange σ)}
    (carries : Carries part r passed r') : Carries part' (f r) (passed.map (.onPart view)) (f r') := by
  induction passed generalizing r with
  | nil => exact congrArg f carries
  | cons e later ih =>
      cases e with
      | told n => exact ih carries
      | asked q s reply t =>
          obtain ⟨rfl, rest⟩ := carries
          refine ⟨same s, ?_⟩
          rw [same]
          exact ih rest

/-- The dispatcher without the count of waiting events. -/
def Dispatcher.uncounted (dispatcher : Dispatcher) : Dispatcher := { dispatcher with pending := 0 }

theorem Dispatcher.heed_uncounted (dispatcher : Dispatcher) (event : Event) :
    dispatcher.uncounted.heed event = (dispatcher.heed event).uncounted := by
  unfold heed
  split <;> rfl

/-- Nobody who routes an event looks at the count. -/
theorem Site.route_cleared {event : Event} {site site' : Site} {passed : List (Exchange Site)}
    {r : Except Interruption Bool} (course : (route event).run.Course site passed r site') :
    (route event).run.Course site.cleared (passed.map (.onPart cleared)) r site'.cleared := by
  obtain ⟨r₀, heeded, carries, rfl⟩ := route_iff.mp course
  refine route_iff.mpr ⟨r₀, ?_, ?_, rfl⟩
  · have target : Exchange.onPart target ∘ Exchange.onPart cleared = Exchange.onPart target := by
      funext e
      cases e <;> rfl
    rw [List.map_map, target]
    exact heeded
  · have heard : Carries Site.dispatcher _ _ _ := carries.map cleared Dispatcher.uncounted fun _ => rfl
    rw [← Dispatcher.heed_uncounted] at heard
    exact heard

theorem Site.settle_cleared (site : Site) (care : Care) : site.cleared.settle care = (site.settle care).cleared := by
  unfold settle
  split <;> rfl

theorem TakesTurn.cleared {event : Event} {before after : Site} {care : Care} {passed : List (Exchange Site)}
    (taken : TakesTurn event before care passed after) :
    TakesTurn event before.cleared care (passed.map (.onPart Site.cleared)) after.cleared := by
  cases taken with
  | heard bound =>
      rw [List.map_cons, Care.map_remarks]
      exact .heard bound
  | handled unbound course =>
      have routed := Site.route_cleared course
      rw [List.map_append, Care.map_remarks, ← Site.settle_cleared]
      exact .handled unbound routed

/-- A turn as it looks without the count. -/
def Turn.cleared (turn : Turn) : Turn :=
  ⟨turn.event, turn.before.cleared, turn.care, turn.passed.map (.onPart Site.cleared), turn.after.cleared,
    turn.taken.cleared⟩

theorem Delivery.cleared {events : List Event} {site site' : Site} {turns : List Turn}
    (delivery : Delivery events site turns site') :
    Delivery events site.cleared (turns.map Turn.cleared) site'.cleared := by
  induction delivery with
  | done => exact .done
  | stopped stopped => exact .stopped stopped
  | last event before reading ends => exact .last event (congrArg Site.cleared before) reading ends
  | onward event before reading goesOn _ ih =>
      exact .onward event (congrArg Site.cleared before) reading goesOn ih

theorem flatMap_passed_cleared (turns : List Turn) :
    (turns.map Turn.cleared).flatMap Turn.passed = (turns.flatMap Turn.passed).map (.onPart Site.cleared) := by
  rw [List.flatMap_map, List.map_flatMap]
  rfl

/-- Among surroundings that do not look at batches, the delivery of events goes one way from sites that differ in
the count only, after histories that differ in batches only. -/
theorem Delivery.alike {surroundings : Surroundings Site} (blind : BatchBlind surroundings)
    {prior prior' : List (Exchange Site)} {events : List Event} {site site' delivered delivered' : Site}
    {turns turns' : List Turn} (delivery : Delivery events site turns delivered)
    (delivery' : Delivery events site' turns' delivered') (sites : site.cleared = site'.cleared)
    (history : unbatched prior = unbatched prior') (among : Among surroundings prior (turns.flatMap Turn.passed))
    (among' : Among surroundings prior' (turns'.flatMap Turn.passed)) :
    turns.map Turn.care = turns'.map Turn.care ∧ delivered.cleared = delivered'.cleared ∧
      unbatched (forgiven (turns.flatMap Turn.passed)) = unbatched (forgiven (turns'.flatMap Turn.passed)) := by
  have goes := delivery.cleared
  have goes' := delivery'.cleared
  have here : Among surroundings.cleared prior _ := among.cleared blind rfl
  have there := among'.cleared blind history.symm
  rw [← flatMap_passed_cleared] at here there
  rw [← sites] at goes'
  obtain ⟨upshots, ends, passes⟩ := goes.one_way goes' here there
  refine ⟨?_, ends, ?_⟩
  · have cares := congrArg (List.map fun upshot => upshot.2.1) upshots
    simp only [List.map_map] at cares
    exact cares
  · rw [unbatched_forgiven, unbatched_forgiven, ← unbatched_map_cleared, ← flatMap_passed_cleared,
      ← unbatched_forgiven, passes, unbatched_forgiven, flatMap_passed_cleared, unbatched_map_cleared]

/-- If no turn goes wrong, the delivery of events is the delivery of the first ones and then of the others. -/
theorem Delivery.split {first second : List Event} {site site' : Site} {turns : List Turn}
    (delivery : Delivery (first ++ second) site turns site') (smooth : ∀ turn ∈ turns, turn.care.goesOn = true) :
    ∃ earlier later between, turns = earlier ++ later ∧ Delivery first site earlier between ∧
      Delivery second between later site' := by
  induction first generalizing site turns with
  | nil => exact ⟨[], turns, _, rfl, .done, delivery⟩
  | cons event first ih =>
      cases delivery with
      | stopped stopped =>
          refine ⟨[], [], _, rfl, .stopped stopped, ?_⟩
          cases second with
          | nil => exact .done
          | cons => exact .stopped stopped
      | last _ _ _ ends => cases ends.symm.trans (smooth _ (.head _))
      | onward event before reading goesOn delivery =>
          obtain ⟨earlier, later, between, rfl, head, tail⟩ := ih delivery fun turn mem => smooth turn (.tail _ mem)
          exact ⟨_ :: earlier, later, between, rfl, .onward event before reading goesOn head, tail⟩

/-! ### Dispatches -/

/-- Nothing that makes a listener or a handler go wrong: a call is refused, or a hook or a listener panics. -/
def Exchange.isSmooth {σ : Type} : Exchange σ → Bool
  | .asked (.call _) _ (.error _) _ | .asked (.hook _) _ (.panicked _) _ | .asked (.listen ..) _ .panicked _ => false
  | _ => true

theorem Turn.goesOn_of_smooth {turn : Turn} (smooth : ∀ e ∈ turn.passed, e.isSmooth = true) :
    turn.care.goesOn = true := by
  obtain ⟨event, before, care, passed, after, taken⟩ := turn
  cases taken with
  | @heard request listener reply _ bound =>
      cases reply with
      | vote => rfl
      | panicked => cases smooth _ (.head _)
  | @handled result waited _ unbound course =>
      have orderly := Site.route_orderly _ _ _ _ course
      rcases result with (fault | text) | vote
      · obtain ⟨c, s, failure, t, -, mem⟩ := orderly.fault rfl
        cases smooth _ (List.mem_append_left _ mem)
      · obtain ⟨notice, s, t, mem⟩ := orderly.panic rfl
        cases smooth _ (List.mem_append_left _ mem)
      · rfl

section Account

variable {surroundings : Surroundings Site} {prior : List (Exchange Site)} {set : EventSet} {site site' : Site}
  {passed : List (Exchange Site)} {r : Except Interruption DispatchOutcome}

/-- A set that is to be resumed is resumed, and nothing else comes of it. -/
theorem Closing.resumes (blind : BatchBlind surroundings) {tally : Tally} {resumed : Bool}
    (closing : Closing set tally site passed resumed site') (among : Among surroundings prior passed) :
    site' = site ∧ unbatched (forgiven passed) = [] := by
  cases closing with
  | left => exact ⟨rfl, rfl⟩
  | resumed =>
      obtain ⟨⟨-, back⟩, -⟩ := Among.asked_iff.mp among
      rw [blind.resumes] at back
      exact ⟨back, rfl⟩
  | refused =>
      obtain ⟨⟨replies, -⟩, -⟩ := Among.asked_iff.mp among
      rw [blind.resumes] at replies
      cases replies

/-- A dispatch whose turns all go on comes to its end. -/
theorem Account.result_of_goesOn (account : Account set site passed r site')
    (goesOn : ∀ turn ∈ account.turns, turn.care.goesOn = true) : ∃ outcome, r = .ok outcome := by
  cases r with
  | ok outcome => exact ⟨outcome, rfl⟩
  | error i =>
      obtain ⟨text, -, panicked, -⟩ := account.ends.of_error
      obtain ⟨turn, mem, care⟩ := Tally.panic_of_result panicked
      have impossible := goesOn turn mem
      rw [care] at impossible
      cases impossible

theorem Account.among_turns (account : Account set site passed r site') (among : Among surroundings prior passed) :
    Among surroundings (prior ++ [.told (.log (.dispatching set))]) (account.turns.flatMap Turn.passed) := by
  rw [account.passed_eq, Among.told_iff, Among.append_iff] at among
  exact among.1

/-- A dispatch leaves what its turns leave, and passes no more than they do but for what marks the batch. -/
theorem Account.finishes (blind : BatchBlind surroundings) (account : Account set site passed r site')
    (goesOn : ∀ turn ∈ account.turns, turn.care.goesOn = true) (among : Among surroundings prior passed) :
    ∃ outcome, r = .ok outcome ∧ site' = account.delivered.cleared.closed ∧
      unbatched (forgiven passed) = unbatched (forgiven (account.turns.flatMap Turn.passed)) ∧
      outcome.dispatched = account.turns.length ∧ outcome.dispatched + outcome.skipped = set.size := by
  obtain ⟨outcome, rfl⟩ := account.result_of_goesOn goesOn
  obtain ⟨closing, closed, closes, ending, -, counted, skipped, final⟩ := account.closes
  have parts := account.passed_eq
  rw [ending] at parts
  have resumes := among
  rw [parts, Among.told_iff, Among.append_iff, Among.append_iff] at resumes
  obtain ⟨left, nothing⟩ := closes.resumes blind resumes.2.1
  have dispatched : outcome.dispatched = account.turns.length := by
    rw [counted, Tally.of, Tally.foldl_dispatched, List.length_map]
    exact Nat.zero_add _
  refine ⟨outcome, rfl, final.trans (congrArg Site.closed left), ?_, dispatched, ?_⟩
  · refine (congrArg (fun passed => unbatched (forgiven passed)) parts).trans ?_
    simp [nothing]
  · rw [dispatched, skipped, Nat.add_comm]
    exact (account.pending (among.undisturbed blind)).1

end Account

theorem Dispatcher.enter_again {dispatcher : Dispatcher}
    (busy : dispatcher.state = .dispatching ∨ dispatcher.state = .stopped) :
    (dispatcher.enter .idle).enter .dispatching = dispatcher := by
  obtain ⟨settings, listeners, keepReading, state, pending⟩ := dispatcher
  rcases busy with rfl | rfl
  · rfl
  · rfl

/-- When a dispatch follows another one, its delivery begins where the first one ended. -/
theorem Delivery.opened_closed {events : List Event} {set next : EventSet} {site delivered : Site}
    {turns : List Turn} (delivery : Delivery events (site.opened set) turns delivered)
    (undisturbed : ∀ turn ∈ turns, ∀ e ∈ turn.passed, e.Undisturbed) :
    (delivered.cleared.closed.opened next).cleared = delivered.cleared := by
  have kept : delivered.dispatcher.state = (site.dispatcher.enter .dispatching).state :=
    (delivery.interlude undisturbed).1.state
  have busy : delivered.cleared.dispatcher.state = .dispatching ∨ delivered.cleared.dispatcher.state = .stopped := by
    change delivered.dispatcher.state = _ ∨ delivered.dispatcher.state = _
    rw [kept]
    by_cases live : site.dispatcher.state = .stopped
    · exact .inr (by simp [Dispatcher.enter, live])
    · exact .inl (Dispatcher.enter_state_of_ne _ _ live)
  have again := Dispatcher.enter_again busy
  change Site.mk delivered.target
    { (delivered.cleared.dispatcher.enter .idle).enter .dispatching with pending := 0 } = _
  rw [again]
  rfl

theorem goesOn_of_cares {turns turns' : List Turn} (same : turns.map Turn.care = turns'.map Turn.care)
    (goesOn : ∀ turn ∈ turns, turn.care.goesOn = true) : ∀ turn ∈ turns', turn.care.goesOn = true := by
  intro turn mem
  have here : turn.care ∈ turns.map Turn.care := same ▸ List.mem_map_of_mem mem
  obtain ⟨other, there, care⟩ := List.mem_map.mp here
  exact care ▸ goesOn other there

/-! ### The result -/

/-- Events are dispatched alike however they are batched. Let a set consist of the events of two others, under
whatever policies, and let nobody look at batches. If no listener and no handler goes wrong when the one set is
dispatched, then the two sets one after the other leave the same site, and the same passes but for what marks the
batches; and the counts of dispatched and of skipped events add up. -/
theorem batched_alike {surroundings : Surroundings Site} (blind : BatchBlind surroundings)
    {prior passed passed₁ passed₂ : List (Exchange Site)} {whole first second : EventSet}
    {site site' mid site'' : Site} {r r₁ r₂ : Except Interruption DispatchOutcome}
    (parts : whole.events = first.events ++ second.events)
    (course : (Site.dispatch whole).run.Course site passed r site')
    (course₁ : (Site.dispatch first).run.Course site passed₁ r₁ mid)
    (course₂ : (Site.dispatch second).run.Course mid passed₂ r₂ site'')
    (smooth : ∀ e ∈ passed, e.isSmooth = true) (among : Among surroundings prior passed)
    (among' : Among surroundings prior (passed₁ ++ passed₂)) :
    site' = site'' ∧ forgiven (unbatched passed) = forgiven (unbatched (passed₁ ++ passed₂)) ∧
      (unbatched passed).filterMap Exchange.demand? =
        (unbatched (passed₁ ++ passed₂)).filterMap Exchange.demand? ∧
      ∃ outcome outcome₁ outcome₂, r = .ok outcome ∧ r₁ = .ok outcome₁ ∧ r₂ = .ok outcome₂ ∧
        outcome.dispatched = outcome₁.dispatched + outcome₂.dispatched ∧
        outcome.skipped = outcome₁.skipped + outcome₂.skipped := by
  obtain ⟨account⟩ := Site.dispatch_course course
  obtain ⟨account₁⟩ := Site.dispatch_course course₁
  obtain ⟨account₂⟩ := Site.dispatch_course course₂
  obtain ⟨among₁, among₂⟩ := Among.append_iff.mp among'
  have goesOn : ∀ turn ∈ account.turns, turn.care.goesOn = true := fun turn mem =>
    turn.goesOn_of_smooth (account.forall_turns smooth turn mem)
  have undisturbed := account.forall_turns (among.undisturbed blind)
  have turned := account.among_turns among
  have delivery := account.delivery
  rw [parts] at delivery
  obtain ⟨earlier, later, between, both, head, tail⟩ := delivery.split goesOn
  rw [both] at goesOn undisturbed
  rw [both, List.flatMap_append, Among.append_iff] at turned
  -- The first dispatch goes the way of the first turns.
  obtain ⟨cares₁, ends₁, passes₁⟩ :=
    head.alike blind account₁.delivery rfl (by simp) turned.1 (account₁.among_turns among₁)
  obtain ⟨outcome₁, rfl, left₁, passed₁_eq, dispatched₁, complete₁⟩ := account₁.finishes blind
    (goesOn_of_cares cares₁ fun turn mem => goesOn turn (List.mem_append_left _ mem)) among₁
  -- The second dispatch begins where the first turns ended.
  have begins : between.cleared = (mid.opened second).cleared := by
    rw [left₁, ← ends₁]
    exact (head.opened_closed fun turn mem => undisturbed turn (List.mem_append_left _ mem)).symm
  have history : unbatched (prior ++ [.told (.log (.dispatching whole))] ++ forgiven (earlier.flatMap Turn.passed)) =
      unbatched (prior ++ forgiven passed₁ ++ [.told (.log (.dispatching second))]) := by
    simp [passed₁_eq, passes₁]
  obtain ⟨cares₂, ends₂, passes₂⟩ :=
    tail.alike blind account₂.delivery begins history turned.2 (account₂.among_turns among₂)
  obtain ⟨outcome₂, rfl, left₂, passed₂_eq, dispatched₂, complete₂⟩ := account₂.finishes blind
    (goesOn_of_cares cares₂ fun turn mem => goesOn turn (List.mem_append_right _ mem)) among₂
  obtain ⟨outcome, rfl, left, passed_eq, dispatched, complete⟩ := account.finishes blind
    (both ▸ goesOn) among
  have passes : forgiven (unbatched passed) = forgiven (unbatched (passed₁ ++ passed₂)) := by
    rw [← unbatched_forgiven, ← unbatched_forgiven, passed_eq, both, List.flatMap_append, forgiven_append,
      unbatched_append, passes₁, passes₂, forgiven_append, unbatched_append, passed₁_eq, passed₂_eq]
  have counts : outcome.dispatched = outcome₁.dispatched + outcome₂.dispatched := by
    have turns := congrArg List.length both
    have turns₁ := congrArg List.length cares₁
    have turns₂ := congrArg List.length cares₂
    simp only [List.length_append, List.length_map] at turns turns₁ turns₂
    omega
  have sizes : whole.size = first.size + second.size := by
    rw [EventSet.size, parts, List.length_append]
    rfl
  refine ⟨by rw [left, left₂, ends₂], passes, ?_, outcome, outcome₁, outcome₂, rfl, rfl, rfl, counts, by omega⟩
  rw [← demands_forgiven, passes, demands_forgiven]

/-! ### Batches to look at -/

namespace Batching.Sample

/-- A target with one thread; the hook returns, and listeners are for resuming. -/
def answer : (q : Request) → q.Reply
  | .call .threads => .ok [⟨1⟩]
  | .call (.resumeSet _) => .ok ()
  | .call _ => .error .disconnected
  | .hook _ => .done
  | .listen .. => .vote true
  | .read _ => ()

def surroundings : Surroundings Site := fun _ q s => (answer q, s)

theorem blind : BatchBlind surroundings where
  blind _ same := ⟨rfl, same⟩
  undisturbed _ _ _ := .refl _
  resumes _ _ _ := rfl

/-- A listener waits for the events of request 1. -/
def site : Site := ⟨{ name := "sample" }, { listeners := ⟨[(⟨1⟩, ⟨0⟩)]⟩ }⟩

def starts : Event := ⟨none, .vmStart ⟨1⟩⟩

def hits : Event := ⟨some ⟨1⟩, .breakpoint ⟨1⟩ ⟨⟨10⟩, 2, 14⟩⟩

def first : EventSet := ⟨.all, [starts]⟩

def second : EventSet := ⟨.eventThread, [hits]⟩

def whole : EventSet := ⟨.all, [starts, hits]⟩

/-- How a set is dispatched at a site. -/
def going (set : EventSet) (site : Site) : List (Exchange Site) × Except Interruption DispatchOutcome × Site :=
  ((Site.dispatch set).run site).follow fun q s => (answer q, s)

theorem goes (set : EventSet) (site : Site) :
    (Site.dispatch set).run.Course site (going set site).1 (going set site).2.1 (going set site).2.2 :=
  Dialogue.course_follow _ _

theorem among (set : EventSet) (site : Site) (prior : List (Exchange Site)) :
    Among surroundings prior (going set site).1 :=
  Among.follow (fun _ _ _ => ⟨rfl, rfl⟩) _

/-- The site after the first set. -/
def mid : Site := (going first site).2.2

end Batching.Sample

open Batching.Sample in
/-- The start of a target and the hit of a breakpoint, in one set and in two. -/
theorem batched_alike_sample :
    whole.events = first.events ++ second.events ∧ (∀ e ∈ (going whole site).1, e.isSmooth = true) ∧
      (going whole site).2.2 = (going second mid).2.2 ∧
      (unbatched (going whole site).1).filterMap Exchange.demand? =
        (unbatched ((going first site).1 ++ (going second mid).1)).filterMap Exchange.demand? := by
  have smooth : ∀ e ∈ (going whole site).1, e.isSmooth = true := List.all_eq_true.mp rfl
  have amongst : Among surroundings [] ((going first site).1 ++ (going second mid).1) :=
    Among.append_iff.mpr ⟨among first site [], among second mid _⟩
  obtain ⟨same, -, demands, -⟩ := batched_alike blind rfl (goes whole site) (goes first site) (goes second mid)
    smooth (among whole site []) amongst
  exact ⟨rfl, smooth, same, demands⟩

end RemoteDebug
