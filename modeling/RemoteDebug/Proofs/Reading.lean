import Mathlib.Logic.Relation
import RemoteDebug.Proofs.Dispatch

/-!
The loop that reads and dispatches event sets.

* A `Round` is one turn of the loop: a set is read and dispatched. `Rounds` says which rounds a run goes
  through and how it ends, `run_course` finds them in every course of `Site.run`.
* `Round.Stops` collects the reasons to stop that a round can hold; reading goes on exactly as long as no
  round holds one.
* `Site.Dead` is what a run leaves behind for good: a dispatcher that takes up nothing any more.
-/

namespace RemoteDebug

open Operation

/-- The item that a read took from the channel. -/
def Exchange.read? {σ : Type} : Exchange σ → Option (Except ChannelFailure EventSet)
  | .asked (.read delivered) _ _ _ => some delivered
  | _ => none

/-- What the next read of a channel delivers. -/
def Channel.next : Channel → Except ChannelFailure EventSet
  | [] => .error .disconnected
  | item :: _ => item

namespace Site

/-- The site when a read begins. -/
def awaiting (site : Site) : Site :=
  { site with dispatcher := site.dispatcher.enter .reading }

/-- The site after the loop. -/
def finished (site : Site) : Site :=
  { site with dispatcher := site.dispatcher.stop }

/-- The last line that the loop logs. -/
def farewell (site : Site) : Exchange Site := .told (.log (.dispatcherStopped site.target.name))

end Site

/-- One round of the loop: a set is read and dispatched. -/
structure Round where
  set : EventSet
  /-- The site when the round begins. -/
  before : Site
  /-- The site after the read. -/
  ready : Site
  /-- What passes in the dispatch. -/
  dispatch : List (Exchange Site)
  outcome : DispatchOutcome
  /-- The site after the dispatch. -/
  after : Site
  course : (Site.dispatch set).run.Course ready dispatch (.ok outcome) after
  account : Account set ready dispatch (.ok outcome) after

namespace Round

/-- The read of a round. -/
def read (round : Round) : Exchange Site :=
  .asked (.read (.ok round.set)) round.before.awaiting () round.ready

def passed (round : Round) : List (Exchange Site) := round.read :: round.dispatch

end Round

/-- The rounds of a run and its ending. -/
inductive Rounds : Channel → Site → List Round → List (Exchange Site) → Site → Prop where
  | stopped {channel : Channel} {site : Site} : site.dispatcher.keepReading = false →
      Rounds channel site [] [site.farewell] site.finished
  | failed {channel : Channel} {site after : Site} {failure : ChannelFailure} :
      site.dispatcher.keepReading = true → channel.next = .error failure →
      Rounds channel site []
        [.asked (.read (.error failure)) site.awaiting () after,
          .told (.log (.readingStopped failure)), after.farewell]
        after.finished
  | next {set : EventSet} {channel : Channel} {site site' : Site} {round : Round}
      {rounds : List Round} {ending : List (Exchange Site)} :
      round.set = set → round.before = site → site.dispatcher.keepReading = true →
      Rounds channel round.after rounds ending site' →
      Rounds (.ok set :: channel) site (round :: rounds) ending site'

/-- The record of a run: its rounds and its ending. -/
structure Journal (channel : Channel) (site : Site) (passed : List (Exchange Site)) (site' : Site)
    where
  rounds : List Round
  ending : List (Exchange Site)
  course : Rounds channel site rounds ending site'
  /-- Every set is read and then dispatched before the next one is read. -/
  passed_eq : passed = rounds.flatMap Round.passed ++ ending

namespace Site

variable {channel : Channel} {site site' : Site} {passed : List (Exchange Site)} {u : Unit}

theorem stop_iff :
    stop.Course site passed u site' ↔ passed = [site.farewell] ∧ site' = site.finished :=
  Course.update_bind_iff.trans (Course.read_bind_iff.trans Course.tell_iff)

theorem beginRead_iff {reads : Bool} :
    beginRead.Course site passed reads site' ↔
      passed = [] ∧ reads = site.dispatcher.keepReading ∧
        site' = if site.dispatcher.keepReading then site.awaiting else site := by
  refine Course.read_bind_iff.trans ?_
  cases site.dispatcher.keepReading with
  | true => exact Course.update_bind_iff.trans Course.pure_iff
  | false => exact Course.pure_iff

/-- A run that cannot read a set ends without a round. -/
theorem failedRead_course {failure : ChannelFailure} (fails : channel.next = .error failure)
    (course : (failedRead failure).Course site passed u site') :
    Rounds channel site [] passed site' := by
  obtain ⟨reads, begun, first, later, begins, goesOn, rfl⟩ := Course.bind_iff.mp course
  obtain ⟨rfl, rfl, rfl⟩ := beginRead_iff.mp begins
  cases reading : site.dispatcher.keepReading with
  | true =>
      rw [reading] at goesOn
      obtain ⟨_, after, rest, answered, rfl⟩ := Course.ask_bind_iff.mp goesOn
      obtain ⟨last, stops, rfl⟩ := Course.tell_bind_iff.mp answered
      obtain ⟨rfl, rfl⟩ := stop_iff.mp stops
      exact .failed reading fails
  | false =>
      rw [reading] at goesOn
      obtain ⟨rfl, rfl⟩ := stop_iff.mp goesOn
      exact .stopped reading

theorem run_course {r : Except Interruption Unit} (course : (run channel).run.Course site passed r site')
    (calm : ∀ e ∈ passed, e.Calm) :
    r = .ok () ∧ Nonempty (Journal channel site passed site') := by
  induction channel generalizing site passed with
  | nil =>
      obtain ⟨_, fails, rfl⟩ := Course.run_perform_iff.mp course
      exact ⟨rfl, ⟨[], passed, failedRead_course rfl fails, rfl⟩⟩
  | cons item rest ih =>
      cases item with
      | error failure =>
          obtain ⟨_, fails, rfl⟩ := Course.run_perform_iff.mp course
          exact ⟨rfl, ⟨[], passed, failedRead_course rfl fails, rfl⟩⟩
      | ok set =>
          obtain ⟨reads, begun, first, later, begins, goesOn, rfl⟩ :=
            Course.run_perform_bind_iff.mp course
          obtain ⟨rfl, rfl, rfl⟩ := beginRead_iff.mp begins
          cases reading : site.dispatcher.keepReading with
          | false =>
              rw [reading] at goesOn
              obtain ⟨_, stops, rfl⟩ := Course.run_perform_iff.mp goesOn
              obtain ⟨rfl, rfl⟩ := stop_iff.mp stops
              exact ⟨rfl, ⟨[], _, .stopped reading, rfl⟩⟩
          | true =>
              rw [reading] at goesOn
              obtain ⟨_, ready, dispatches, answered, rfl⟩ := Course.run_ask_bind_iff.mp goesOn
              rcases Course.run_bind_iff.mp answered with
                ⟨i, dispatch, rfl⟩ | ⟨outcome, after, dispatched, others, dispatch, loops, rfl⟩
              · obtain ⟨account⟩ := dispatch_course dispatch
                obtain ⟨outcome, impossible⟩ := account.result_ok fun e mem =>
                  calm e (List.mem_cons_of_mem _ mem)
                cases impossible
              · obtain ⟨account⟩ := dispatch_course dispatch
                obtain ⟨rfl, ⟨rounds, ending, further, rfl⟩⟩ := ih loops fun e mem =>
                  calm e (List.mem_cons_of_mem _ (List.mem_append_right _ mem))
                refine ⟨rfl, ⟨⟨set, site, ready, dispatched, outcome, after, dispatch, account⟩ ::
                  rounds, ending, .next rfl rfl reading further, ?_⟩⟩
                simp [Round.passed, Round.read]

/-- `Looped channel site passed r site'`: the loop reads and dispatches sets one after another, until it ends
or a dispatch is unwound by a panic. -/
inductive Looped : Channel → Site → List (Exchange Site) → Except Interruption Unit → Site → Prop where
  | last {channel : Channel} {site site' : Site} {passed : List (Exchange Site)} :
      Rounds channel site [] passed site' → Looped channel site passed (.ok ()) site'
  | unwound {set : EventSet} {channel : Channel} {site ready site' : Site} {passed : List (Exchange Site)}
      {i : Interruption} : site.dispatcher.keepReading = true →
      (dispatch set).run.Course ready passed (.error i) site' →
      Looped (.ok set :: channel) site (.asked (.read (.ok set)) site.awaiting () ready :: passed) (.error i)
        site'
  | next {set : EventSet} {channel : Channel} {site ready between site' : Site}
      {passed later : List (Exchange Site)} {outcome : DispatchOutcome} {r : Except Interruption Unit} :
      site.dispatcher.keepReading = true → (dispatch set).run.Course ready passed (.ok outcome) between →
      Looped channel between later r site' →
      Looped (.ok set :: channel) site
        (.asked (.read (.ok set)) site.awaiting () ready :: (passed ++ later)) r site'

theorem run_looped {r : Except Interruption Unit} (course : (run channel).run.Course site passed r site') :
    Looped channel site passed r site' := by
  induction channel generalizing site passed with
  | nil =>
      obtain ⟨_, fails, rfl⟩ := Course.run_perform_iff.mp course
      exact .last (failedRead_course rfl fails)
  | cons item rest ih =>
      cases item with
      | error failure =>
          obtain ⟨_, fails, rfl⟩ := Course.run_perform_iff.mp course
          exact .last (failedRead_course rfl fails)
      | ok set =>
          obtain ⟨reads, begun, first, later, begins, goesOn, rfl⟩ := Course.run_perform_bind_iff.mp course
          obtain ⟨rfl, rfl, rfl⟩ := beginRead_iff.mp begins
          cases reading : site.dispatcher.keepReading with
          | false =>
              rw [reading] at goesOn
              obtain ⟨_, stops, rfl⟩ := Course.run_perform_iff.mp goesOn
              obtain ⟨rfl, rfl⟩ := stop_iff.mp stops
              exact .last (.stopped reading)
          | true =>
              rw [reading] at goesOn
              obtain ⟨_, ready, following, answered, rfl⟩ := Course.run_ask_bind_iff.mp goesOn
              rcases Course.run_bind_iff.mp answered with
                ⟨i, dispatches, rfl⟩ | ⟨outcome, after, dispatched, others, dispatches, loops, rfl⟩
              · exact .unwound reading dispatches
              · exact .next reading dispatches (ih loops)

end Site

/-! ### What a dispatch does to the loop -/

namespace Account

variable {set : EventSet} {site site' : Site} {passed : List (Exchange Site)}
  {outcome : DispatchOutcome} (account : Account set site passed (.ok outcome) site')

/-- The dispatch holds a reason to stop: somebody asked for it, a turn left the end of the target to its
handler, or the connection was lost in a handler or at the resumption of the set. -/
def Stops : Prop :=
  (∃ e ∈ passed, e.Stops) ∨
  (∃ turn ∈ account.turns, turn.Ends) ∨
  (∃ turn ∈ account.turns, turn.care = .handled (.error (.fault (.remote .disconnected)))) ∨
  ∃ before after, .asked (.call (.resumeSet set)) before (.error .disconnected) after ∈ passed

theorem after_keepReading_iff (undisturbed : ∀ e ∈ passed, e.Undisturbed) :
    site'.dispatcher.keepReading = true ↔ site.dispatcher.keepReading = true ∧ ¬ account.Stops := by
  obtain ⟨closing, closed, closes, ending, -, -, -, final⟩ := account.closes
  have closing_of_mem : ∀ q before reply after, .asked q before reply after ∈ account.ending →
      .asked q before reply after ∈ closing := by
    intro q before reply after mem
    rw [ending] at mem
    simpa using mem
  have reading : site'.dispatcher.keepReading = closed.dispatcher.keepReading := by
    rw [final]
    exact closed.dispatcher.enter_keepReading _
  have delivered := account.delivered_keepReading_iff undisturbed
  rw [reading, closes.keepReading_iff fun e mem =>
    undisturbed e (account.mem_of_closing ending mem)]
  constructor
  · rintro ⟨kept, unasked, unbroken⟩
    obtain ⟨started, unstopped⟩ := delivered.mp kept
    refine ⟨started, ?_⟩
    rintro (⟨e, mem, stops⟩ | ⟨turn, mem, ends⟩ | ⟨turn, mem, care⟩ | ⟨before, after, mem⟩)
    · cases e with
      | told => exact stops
      | asked q before reply after =>
          rcases account.turn_or_ending mem with ⟨turn, found, here⟩ | here
          · exact unstopped turn found (.inl ⟨_, here, stops⟩)
          · exact unasked ⟨_, closing_of_mem _ _ _ _ here, stops⟩
    · exact unstopped turn mem (.inr (.inl ends))
    · exact unstopped turn mem (.inr (.inr (Turn.isFatal_iff.mpr care)))
    · rcases account.turn_or_ending mem with ⟨turn, -, here⟩ | here
      · cases turn.resumption here
      · exact unbroken ⟨before, after, closing_of_mem _ _ _ _ here⟩
  · rintro ⟨started, unstopped⟩
    refine ⟨delivered.mpr ⟨started, ?_⟩, ?_, ?_⟩
    · rintro turn mem (⟨e, here, stops⟩ | ends | fatal)
      · exact unstopped (.inl ⟨e, account.mem_of_turn mem here, stops⟩)
      · exact unstopped (.inr (.inl ⟨turn, mem, ends⟩))
      · exact unstopped (.inr (.inr (.inl ⟨turn, mem, Turn.isFatal_iff.mp fatal⟩)))
    · rintro ⟨e, mem, stops⟩
      exact unstopped (.inl ⟨e, account.mem_of_closing ending mem, stops⟩)
    · rintro ⟨before, after, mem⟩
      exact unstopped (.inr (.inr (.inr ⟨before, after, account.mem_of_closing ending mem⟩)))

/-! A dispatcher that is not stopped is dispatching all along, and idle in the end. -/

section State

variable (undisturbed : ∀ e ∈ passed, e.Undisturbed) (live : site.dispatcher.state ≠ .stopped)

include account undisturbed live

theorem turn_state {turn : Turn} (mem : turn ∈ account.turns) :
    turn.before.dispatcher.state = .dispatching := by
  obtain ⟨i, found⟩ := List.mem_iff_getElem?.mp mem
  have each := (account.interlude undisturbed).2 i turn found
  exact each.state.trans (site.dispatcher.enter_state_of_ne _ live)

theorem delivered_state : account.delivered.dispatcher.state = .dispatching := by
  have whole := (account.interlude undisturbed).1
  exact whole.state.trans (site.dispatcher.enter_state_of_ne _ live)

theorem asked_state {q : Request} {before after : Site} {reply : q.Reply}
    (mem : .asked q before reply after ∈ passed) : before.dispatcher.state = .dispatching := by
  rcases account.turn_or_ending mem with ⟨turn, found, here⟩ | here
  · have begun := (turn.interlude (account.forall_turns undisturbed turn found)).2
      q before reply after here
    exact begun.state.trans (account.turn_state undisturbed live found)
  · obtain ⟨-, rfl⟩ := account.ends.asked here
    exact account.delivered_state undisturbed live

theorem after_state : site'.dispatcher.state = .idle := by
  obtain ⟨closing, closed, closes, ending, -, -, -, final⟩ := account.closes
  have closed_state : closed.dispatcher.state = .dispatching :=
    (closes.interlude fun e mem => undisturbed e (account.mem_of_closing ending mem)).state.trans
      (account.delivered_state undisturbed live)
  rw [final]
  refine closed.dispatcher.enter_state_of_ne _ ?_
  rw [closed_state]
  exact nofun

end State

/-- A dispatch reads nothing, to whatever end it comes. -/
theorem not_read {r : Except Interruption DispatchOutcome} (account : Account set site passed r site')
    {e : Exchange Site} (mem : e ∈ passed) : e.read? = none := by
  cases e with
  | told => rfl
  | asked q before reply after =>
      rcases account.turn_or_ending mem with ⟨turn, -, here⟩ | here
      · rcases turn.request here with ⟨request, listener, -, rfl⟩ | ⟨-, ⟨notice, rfl⟩ | ⟨c, rfl, -⟩⟩
        · rfl
        · rfl
        · rfl
      · obtain ⟨rfl, -⟩ := account.ends.asked here
        rfl

end Account

/-! ### Laws of rounds -/

namespace Round

/-- The round holds a reason to stop. -/
def Stops (round : Round) : Prop := round.read.Stops ∨ round.account.Stops

variable {round : Round} (undisturbed : ∀ e ∈ round.passed, e.Undisturbed)

include undisturbed

theorem keepReading_iff :
    round.after.dispatcher.keepReading = true ↔
      round.before.dispatcher.keepReading = true ∧ ¬ round.Stops := by
  have carries : Carries Site.dispatcher round.before.awaiting.dispatcher [round.read]
      round.ready.dispatcher := ⟨rfl, rfl⟩
  have ready := carries.keepReading_iff fun e mem => by
    rw [List.mem_singleton.mp mem]
    exact undisturbed _ List.mem_cons_self
  have awaiting : round.before.awaiting.dispatcher.keepReading =
      round.before.dispatcher.keepReading := round.before.dispatcher.enter_keepReading _
  rw [awaiting] at ready
  rw [round.account.after_keepReading_iff fun e mem => undisturbed e (List.mem_cons_of_mem _ mem),
    ready]
  simp [Stops, and_assoc]

variable (live : round.before.dispatcher.state ≠ .stopped)

include live

theorem ready_state : round.ready.dispatcher.state = .reading := by
  have waited : round.before.awaiting.dispatcher.Interlude round.ready.dispatcher :=
    undisturbed _ List.mem_cons_self
  exact waited.state.trans (round.before.dispatcher.enter_state_of_ne _ live)

theorem ready_live : round.ready.dispatcher.state ≠ .stopped := by
  rw [round.ready_state undisturbed live]
  exact nofun

theorem after_live : round.after.dispatcher.state ≠ .stopped := by
  have idle := round.account.after_state (fun e mem => undisturbed e (List.mem_cons_of_mem _ mem))
    (round.ready_live undisturbed live)
  rw [idle]
  exact nofun

end Round

namespace Rounds

variable {channel : Channel} {site site' : Site} {rounds : List Round}
  {ending : List (Exchange Site)}

/-- What is read after the last round, if anything, is a failure of the channel. -/
theorem ending_reads (course : Rounds channel site rounds ending site') :
    ending.filterMap Exchange.read? = [] ∨
      ∃ failure, ending.filterMap Exchange.read? = [.error failure] := by
  induction course with
  | stopped => exact .inl rfl
  | failed => exact .inr ⟨_, rfl⟩
  | next _ _ _ _ ih => exact ih

/-- Sets are read in the order of the channel, and after them at most its failure. -/
theorem reads_prefix (course : Rounds channel site rounds ending site') :
    rounds.map (fun round => .ok round.set) ++ ending.filterMap Exchange.read? <+:
      channel ++ [.error .disconnected] := by
  induction course with
  | stopped => exact List.nil_prefix
  | @failed channel site after failure _ fails =>
      cases channel with
      | nil =>
          cases fails
          exact List.prefix_rfl
      | cons item rest =>
          cases fails
          exact List.cons_prefix_cons.mpr ⟨rfl, List.nil_prefix⟩
  | next same _ _ _ ih =>
      rw [← same]
      exact List.cons_prefix_cons.mpr ⟨rfl, ih⟩

/-- There is one more read after some rounds exactly if none of them held a reason to stop. -/
theorem reads_on_iff (course : Rounds channel site rounds ending site')
    (undisturbed : ∀ round ∈ rounds, ∀ e ∈ round.passed, e.Undisturbed) {k : Nat}
    (within : k ≤ rounds.length) :
    k < rounds.length + (ending.filterMap Exchange.read?).length ↔
      site.dispatcher.keepReading = true ∧ ∀ round ∈ rounds.take k, ¬ round.Stops := by
  induction course generalizing k with
  | stopped stopped =>
      cases Nat.le_zero.mp within
      simp [stopped, Site.farewell, Exchange.read?]
  | failed reading =>
      cases Nat.le_zero.mp within
      simp [reading, Exchange.read?]
  | @next set channel site site' round rounds ending _ at_site reading _ ih =>
      cases k with
      | zero =>
          have positive : 0 < (round :: rounds).length + (ending.filterMap Exchange.read?).length := by
            rw [List.length_cons]
            omega
          exact iff_of_true positive ⟨reading, by simp⟩
      | succ k =>
          have here := round.keepReading_iff (undisturbed round List.mem_cons_self)
          rw [at_site] at here
          have there := ih (fun round mem => undisturbed round (List.mem_cons_of_mem _ mem))
            (Nat.le_of_succ_le_succ within)
          rw [here, and_assoc] at there
          rw [List.take_succ_cons, List.forall_mem_cons, ← there, List.length_cons]
          omega

/-- A dispatcher that is not stopped reads in its reading state and dispatches in its dispatching
state. -/
theorem before_live (course : Rounds channel site rounds ending site')
    (undisturbed : ∀ round ∈ rounds, ∀ e ∈ round.passed, e.Undisturbed)
    (live : site.dispatcher.state ≠ .stopped) :
    ∀ round ∈ rounds, round.before.dispatcher.state ≠ .stopped := by
  induction course with
  | stopped => simp
  | failed => simp
  | @next set channel site site' round rounds ending _ at_site _ _ ih =>
      subst at_site
      have after := round.after_live (undisturbed round List.mem_cons_self) live
      exact List.forall_mem_cons.mpr
        ⟨live, ih (fun round mem => undisturbed round (List.mem_cons_of_mem _ mem)) after⟩

theorem ending_asked (course : Rounds channel site rounds ending site')
    (undisturbed : ∀ round ∈ rounds, ∀ e ∈ round.passed, e.Undisturbed)
    (live : site.dispatcher.state ≠ .stopped) {q : Request} {before after : Site} {reply : q.Reply}
    (mem : .asked q before reply after ∈ ending) :
    (∃ failure, q = .read (.error failure)) ∧ before.dispatcher.state = .reading := by
  induction course with
  | stopped => cases List.mem_singleton.mp mem
  | @failed channel site after failure =>
      rcases List.mem_cons.mp mem with same | mem
      · cases same
        exact ⟨⟨failure, rfl⟩, site.dispatcher.enter_state_of_ne _ live⟩
      · simp [Site.farewell] at mem
  | @next set channel site site' round rounds ending _ at_site _ _ ih =>
      subst at_site
      exact ih (fun round mem => undisturbed round (List.mem_cons_of_mem _ mem))
        (round.after_live (undisturbed round List.mem_cons_self) live) mem

theorem finished (course : Rounds channel site rounds ending site') :
    ∃ site, site' = Site.finished site := by
  induction course with
  | stopped => exact ⟨_, rfl⟩
  | failed => exact ⟨_, rfl⟩
  | next _ _ _ _ ih => exact ih

end Rounds

/-! ### After the loop -/

namespace Site

variable {site site' : Site} {passed : List (Exchange Site)}

theorem run_of_stopped {channel : Channel} {r : Except Interruption Unit}
    (stopped : site.dispatcher.keepReading = false)
    (course : (run channel).run.Course site passed r site') :
    passed = [site.farewell] ∧ site' = site.finished := by
  have fails : ∀ failure, (failedRead failure).Course site passed () site' →
      passed = [site.farewell] ∧ site' = site.finished := by
    intro failure course
    have ended : Rounds [.error failure] site [] passed site' := failedRead_course rfl course
    cases ended with
    | stopped => exact ⟨rfl, rfl⟩
    | failed reading => cases stopped.symm.trans reading
  rcases channel with _ | ⟨failure | set, rest⟩
  · obtain ⟨_, failed, -⟩ := Course.run_perform_iff.mp course
    exact fails _ failed
  · obtain ⟨_, failed, -⟩ := Course.run_perform_iff.mp course
    exact fails _ failed
  · obtain ⟨reads, begun, first, later, begins, goesOn, rfl⟩ :=
      Course.run_perform_bind_iff.mp course
    obtain ⟨rfl, rfl, rfl⟩ := beginRead_iff.mp begins
    rw [stopped] at goesOn
    obtain ⟨_, stops, -⟩ := Course.run_perform_iff.mp goesOn
    exact stop_iff.mp stops

theorem dispatch_of_stopped {set : EventSet} {r : Except Interruption DispatchOutcome}
    (stopped : site.dispatcher.keepReading = false)
    (course : (dispatch set).run.Course site passed r site') :
    r = .ok { voted := false, resumed := false, dispatched := 0, skipped := set.size } ∧
      passed = [.told (.log (.dispatching set)), .told (.log (.dispatched 0 set.size false))] ∧
      site' = ((site.opened set).cleared).closed := by
  obtain ⟨⟨turns, delivered, ending, delivery, ends, passed_eq⟩⟩ := dispatch_course course
  obtain ⟨rfl, rfl⟩ := delivery.of_stopped ((site.opened_keepReading set).trans stopped)
  subst passed_eq
  cases ends with
  | unwound panicked => cases panicked
  | closed counted closing =>
      cases counted
      cases closing with
      | left => exact ⟨rfl, rfl, rfl⟩
      | resumed allowed => cases allowed
      | refused allowed => cases allowed

/-- Whatever can happen to a site from outside: others have their way with the dispatcher, a set is
dispatched, or the loop is run. -/
inductive Later : Site → Site → Prop where
  | interlude {before after : Site} : before.dispatcher.Interlude after.dispatcher → Later before after
  | dispatched {set : EventSet} {before after : Site} {passed : List (Exchange Site)}
      {r : Except Interruption DispatchOutcome} :
      (dispatch set).run.Course before passed r after → Later before after
  | ran {channel : Channel} {before after : Site} {passed : List (Exchange Site)}
      {r : Except Interruption Unit} :
      (run channel).run.Course before passed r after → Later before after

/-- The dispatcher is stopped and takes up nothing: a run reads nothing, a dispatch delivers no event,
and neither of them asks anybody for anything. -/
structure Dead (site : Site) : Prop where
  state : site.dispatcher.state = .stopped
  run : ∀ channel passed r site', (Site.run channel).run.Course site passed r site' →
    ∀ e ∈ passed, ∃ n, e = .told n
  dispatch : ∀ set passed r site', (Site.dispatch set).run.Course site passed r site' →
    (∃ outcome, r = .ok outcome ∧ outcome.dispatched = 0 ∧ outcome.resumed = false) ∧
      ∀ e ∈ passed, ∃ n, e = .told n

theorem dead_of_stopped (state : site.dispatcher.state = .stopped)
    (stopped : site.dispatcher.keepReading = false) : site.Dead where
  state := state
  run := by
    intro channel passed r site' course
    obtain ⟨rfl, -⟩ := run_of_stopped stopped course
    intro e mem
    exact ⟨_, List.mem_singleton.mp mem⟩
  dispatch := by
    intro set passed r site' course
    obtain ⟨rfl, rfl, -⟩ := dispatch_of_stopped stopped course
    refine ⟨⟨_, rfl, rfl, rfl⟩, ?_⟩
    intro e mem
    rcases List.mem_cons.mp mem with same | mem
    · exact ⟨_, same⟩
    · exact ⟨_, List.mem_singleton.mp mem⟩

/-- Once a dispatcher is stopped nothing sets it going again. -/
theorem Later.stopped (later : Site.Later site site') (state : site.dispatcher.state = .stopped)
    (stopped : site.dispatcher.keepReading = false) :
    site'.dispatcher.state = .stopped ∧ site'.dispatcher.keepReading = false := by
  cases later with
  | interlude interlude =>
      refine ⟨interlude.state.trans state, ?_⟩
      cases reading : site'.dispatcher.keepReading with
      | false => rfl
      | true => exact nomatch (interlude.asked reading).symm.trans stopped
  | dispatched course =>
      obtain ⟨-, -, rfl⟩ := dispatch_of_stopped stopped course
      simp [opened, cleared, closed, Dispatcher.enter, state, stopped]
  | ran course =>
      obtain ⟨-, rfl⟩ := run_of_stopped stopped course
      exact ⟨rfl, rfl⟩

theorem dead_of_later {later : Site} (steps : Relation.ReflTransGen Site.Later site later)
    (state : site.dispatcher.state = .stopped) (stopped : site.dispatcher.keepReading = false) :
    later.Dead := by
  have kept : later.dispatcher.state = .stopped ∧ later.dispatcher.keepReading = false := by
    induction steps with
    | refl => exact ⟨state, stopped⟩
    | tail _ step ih => exact step.stopped ih.1 ih.2
  exact dead_of_stopped kept.1 kept.2

end Site

namespace Journal

variable {channel : Channel} {site site' : Site} {passed : List (Exchange Site)}
  (journal : Journal channel site passed site')

/-- How a run goes, from its first read to whatever comes after it. -/
structure Lawful : Prop where
  /-- What is read are the sets that are dispatched, one in each round, and then at most a failure of the
  channel. -/
  reads : ∃ failures, passed.filterMap Exchange.read? =
      journal.rounds.map (fun round => .ok round.set) ++ failures ∧
    (failures = [] ∨ ∃ failure, failures = [.error failure])
  /-- It is read in the order of the channel, which is disconnected in the end. -/
  order : passed.filterMap Exchange.read? <+: channel ++ [.error .disconnected]
  /-- After any number of rounds there is another read exactly if no reason to stop has come up. -/
  reads_on_iff : ∀ k ≤ journal.rounds.length,
    k < (passed.filterMap Exchange.read?).length ↔
      site.dispatcher.keepReading = true ∧ ∀ round ∈ journal.rounds.take k, ¬ round.Stops
  reading : ∀ delivered before reply after,
    .asked (.read delivered) before reply after ∈ passed → before.dispatcher.state = .reading
  dispatching : ∀ q before reply after, .asked q before reply after ∈ passed →
    (∀ delivered, q ≠ .read delivered) → before.dispatcher.state = .dispatching
  turns : ∀ round ∈ journal.rounds, ∀ turn ∈ round.account.turns,
    turn.before.dispatcher.state = .dispatching
  stopped : site'.dispatcher.state = .stopped
  unregistered : site'.dispatcher.listeners = {}
  drained : site'.dispatcher.pending = 0
  dead : ∀ later, Relation.ReflTransGen Site.Later site' later → later.Dead

theorem mem_of_round {round : Round} {e : Exchange Site} (mem : round ∈ journal.rounds)
    (here : e ∈ round.passed) : e ∈ passed := by
  rw [journal.passed_eq]
  exact List.mem_append_left _ (List.mem_flatMap.mpr ⟨round, mem, here⟩)

theorem reads_eq : passed.filterMap Exchange.read? =
    journal.rounds.map (fun round => .ok round.set) ++ journal.ending.filterMap Exchange.read? := by
  have round_reads : ∀ round : Round, round.passed.filterMap Exchange.read? = [.ok round.set] := by
    intro round
    have dispatch : round.dispatch.filterMap Exchange.read? = [] :=
      List.filterMap_eq_nil_iff.mpr fun e mem => round.account.not_read mem
    simp [Round.passed, Round.read, Exchange.read?, dispatch]
  refine (congrArg _ journal.passed_eq).trans ?_
  simp [List.filterMap_append, List.filterMap_flatMap, round_reads, List.map_eq_flatMap]

include journal in
/-- Whoever is asked, the dispatcher is in the state for it. -/
theorem asked_state (undisturbed : ∀ e ∈ passed, e.Undisturbed)
    (live : site.dispatcher.state ≠ .stopped) {q : Request} {before after : Site} {reply : q.Reply}
    (mem : .asked q before reply after ∈ passed) :
    (∃ delivered, q = .read delivered) ∧ before.dispatcher.state = .reading ∨
      (∀ delivered, q ≠ .read delivered) ∧ before.dispatcher.state = .dispatching := by
  have waits : ∀ round ∈ journal.rounds, ∀ e ∈ round.passed, e.Undisturbed :=
    fun round found e here => undisturbed e (journal.mem_of_round found here)
  rw [journal.passed_eq] at mem
  rcases List.mem_append.mp mem with mem | mem
  · obtain ⟨round, found, here⟩ := List.mem_flatMap.mp mem
    have before_live := journal.course.before_live waits live round found
    rcases List.mem_cons.mp here with same | here
    · cases same
      exact .inl ⟨⟨_, rfl⟩, round.before.dispatcher.enter_state_of_ne _ before_live⟩
    · have ready_live := round.ready_live (waits round found) before_live
      have calls : ∀ e ∈ round.dispatch, e.Undisturbed := fun e there =>
        waits round found e (List.mem_cons_of_mem _ there)
      refine .inr ⟨?_, round.account.asked_state calls ready_live here⟩
      rintro delivered rfl
      cases round.account.not_read here
  · obtain ⟨⟨failure, same⟩, state⟩ := journal.course.ending_asked waits live mem
    exact .inl ⟨⟨_, same⟩, state⟩

end Journal

/-- Whatever the channel, the listeners, the handlers and the target do, a run reads on until there is a
reason to stop, and leaves a dispatcher that is stopped for good. -/
theorem reads_until_stopped {channel : Channel} {site site' : Site} {passed : List (Exchange Site)}
    {r : Except Interruption Unit} (course : (Site.run channel).run.Course site passed r site')
    (live : site.dispatcher.state ≠ .stopped) (undisturbed : ∀ e ∈ passed, e.Undisturbed)
    (calm : ∀ e ∈ passed, e.Calm) :
    r = .ok () ∧ ∃ journal : Journal channel site passed site', journal.Lawful := by
  obtain ⟨rfl, ⟨journal⟩⟩ := Site.run_course course calm
  have waits : ∀ round ∈ journal.rounds, ∀ e ∈ round.passed, e.Undisturbed :=
    fun round found e here => undisturbed e (journal.mem_of_round found here)
  have reads := journal.reads_eq
  obtain ⟨last, final⟩ := journal.course.finished
  refine ⟨rfl, journal, ?_⟩
  constructor
  case reads => exact ⟨_, reads, journal.course.ending_reads⟩
  case order =>
    rw [reads]
    exact journal.course.reads_prefix
  case reads_on_iff =>
    intro k within
    rw [reads, List.length_append, List.length_map]
    exact journal.course.reads_on_iff waits within
  case reading =>
    intro delivered before reply after mem
    rcases journal.asked_state undisturbed live mem with ⟨-, state⟩ | ⟨other, -⟩
    · exact state
    · exact absurd rfl (other delivered)
  case dispatching =>
    intro q before reply after mem other
    rcases journal.asked_state undisturbed live mem with ⟨⟨delivered, same⟩, -⟩ | ⟨-, state⟩
    · exact absurd same (other delivered)
    · exact state
  case turns =>
    intro round found turn mem
    have before_live := journal.course.before_live waits live round found
    have ready_live := round.ready_live (waits round found) before_live
    have calls : ∀ e ∈ round.dispatch, e.Undisturbed := fun e there =>
      waits round found e (List.mem_cons_of_mem _ there)
    exact round.account.turn_state calls ready_live mem
  case stopped => rw [final]; rfl
  case unregistered => rw [final]; rfl
  case drained => rw [final]; rfl
  case dead =>
    intro later steps
    exact Site.dead_of_later steps (by rw [final]; rfl) (by rw [final]; rfl)

namespace Sample

/-- A set of one event for the second listener. -/
def farewellSet : EventSet := ⟨.all, [⟨some ⟨2⟩, .methodExit ⟨2⟩ ⟨⟨1⟩, 0, 0⟩⟩]⟩

/-- The site after that listener asked for a stop. -/
def halted : Site := { grown .dispatching with dispatcher.keepReading := false }

/-- What passes from the read of that set on. -/
def farewells : List (Exchange Site) := [
  .asked (.read (.ok farewellSet)) (grown .reading) () (grown .reading),
  .told (.log (.dispatching farewellSet)),
  .asked (.listen ⟨1⟩ ⟨some ⟨2⟩, .methodExit ⟨2⟩ ⟨⟨1⟩, 0, 0⟩⟩) (grown .dispatching) (.vote true) halted,
  .told (.log (.dispatched 1 0 false)), halted.farewell]

/-- What passes when the first set is resumed and a stop is asked for while the second one is dispatched. -/
def run : List (Exchange Site) :=
  .asked (.read (.ok set)) (site .reading) () (site .reading) :: (passed (.vote true) ++ farewells)

end Sample

theorem reads_until_stopped_sample :
    (Site.run [.ok Sample.set, .ok Sample.farewellSet, .ok Sample.set]).run.Course (Sample.site .idle)
        Sample.run (.ok ()) Sample.halted.finished ∧
      (Sample.site .idle).dispatcher.state ≠ .stopped ∧
      (∀ e ∈ Sample.run, e.Undisturbed) ∧ (∀ e ∈ Sample.run, e.Calm) ∧
      Sample.run.filterMap Exchange.read? = [.ok Sample.set, .ok Sample.farewellSet] ∧
      ∃ journal : Journal [.ok Sample.set, .ok Sample.farewellSet, .ok Sample.set] (Sample.site .idle)
        Sample.run Sample.halted.finished, journal.Lawful := by
  have course : (Site.run [.ok Sample.set, .ok Sample.farewellSet, .ok Sample.set]).run.Course
      (Sample.site .idle) Sample.run (.ok ()) Sample.halted.finished :=
    .ask (.note (.ask (.note (.ask (.ask (.note (.ask (.note
      (.ask (.note (.ask (.note (.note .done)))))))))))))
  have live : (Sample.site .idle).dispatcher.state ≠ .stopped := nofun
  have asked : (Sample.grown .dispatching).dispatcher.Interlude Sample.halted.dispatcher := .clear
  have undisturbed : ∀ e ∈ Sample.run, e.Undisturbed := by
    have last : ∀ e ∈ Sample.farewells, e.Undisturbed := by
      simp [Sample.farewells, asked, Exchange.Undisturbed, Dispatcher.Interlude.refl, Site.farewell]
    exact List.forall_mem_cons.mpr ⟨.refl _, List.forall_mem_append.mpr ⟨Sample.undisturbed _, last⟩⟩
  have calm : ∀ e ∈ Sample.run, e.Calm := by
    have last : ∀ e ∈ Sample.farewells, e.Calm := by
      simp [Sample.farewells, Exchange.Calm, Site.farewell]
    exact List.forall_mem_cons.mpr ⟨trivial, List.forall_mem_append.mpr ⟨Sample.calm _, last⟩⟩
  exact ⟨course, live, undisturbed, calm, rfl, (reads_until_stopped course live undisturbed calm).2⟩

end RemoteDebug
