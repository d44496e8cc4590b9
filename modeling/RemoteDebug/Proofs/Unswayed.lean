import RemoteDebug.Proofs.Chronicle
import RemoteDebug.Proofs.Reading
import RemoteDebug.Proofs.Surroundings

/-!
Two executions that differ in their hooks.

Among the same surroundings an execution goes one way, whichever hooks fail. The comparison of two executions
follows the structure of a dispatch: turns, deliveries, accounts (`Account.one_way`), and then the rounds of a
run and the undertakings of a sequence.

* `Dispatched` is what comes of a dispatch, with the sites that its events leave one by one. `Runs` tells it
  of every dispatch of a run, and `Upshot` of every undertaking but evaluations, which ask no hook.
* `Execution` is a sequence of undertakings with their upshots. Every course of an undertaking comes to one
  (`Undertaking.Course.exists_comes`).
* `AsksLast` says that the hook has the last word, and that nothing depends on it.
-/

namespace RemoteDebug

open Operation

/-! ### Turns and deliveries -/

/-- What comes of a turn. -/
def Turn.upshot (turn : Turn) : Event × Care × Site := (turn.event, turn.care, turn.after)

theorem Turn.upshot_inj {turn turn' : Turn} : turn.upshot = turn'.upshot ↔
    turn.event = turn'.event ∧ turn.care = turn'.care ∧ turn.after = turn'.after := by
  simp only [upshot, Prod.mk.injEq]

/-- The count depends on how the events were taken care of. -/
theorem Tally.result_congr {turns turns' : List Turn} {tally : Tally}
    (same : turns.map Turn.upshot = turns'.map Turn.upshot) : tally.result turns = tally.result turns' := by
  induction turns generalizing turns' tally with
  | nil => rw [List.map_eq_nil_iff.mp same.symm]
  | cons turn rest ih =>
      obtain ⟨turn', rest', rfl, here, there⟩ := List.map_eq_cons_iff.mp same.symm
      obtain ⟨-, care, -⟩ := Turn.upshot_inj.mp here
      simp only [Tally.result, care]
      split
      · rfl
      · exact ih there.symm

section OneWay

variable {surroundings : Surroundings Site} {prior : List (Exchange Site)}

theorem Turn.one_way {turn turn' : Turn} {event : Event} {site : Site} (event_eq : turn.event = event)
    (event_eq' : turn'.event = event) (before_eq : turn.before = site) (before_eq' : turn'.before = site)
    (among : Among surroundings prior turn.passed) (among' : Among surroundings prior turn'.passed) :
    turn.upshot = turn'.upshot ∧ forgiven turn.passed = forgiven turn'.passed := by
  obtain ⟨_, _, care, passed, after, taken⟩ := turn
  obtain ⟨_, _, care', passed', after', taken'⟩ := turn'
  subst event_eq before_eq event_eq' before_eq'
  cases taken with
  | heard bound =>
      cases taken' with
      | heard bound' =>
          cases Option.some.inj (bound.symm.trans bound')
          obtain ⟨⟨rfl, rfl⟩, -⟩ := Among.asked_iff.mp among
          obtain ⟨⟨rfl, rfl⟩, -⟩ := Among.asked_iff.mp among'
          exact ⟨rfl, rfl⟩
      | handled unbound => cases bound.symm.trans unbound
  | handled unbound course =>
      cases taken' with
      | heard bound => cases bound.symm.trans unbound
      | handled _ course' =>
          have way := (Site.route_hookLast _ _).blind.one_way course course' (Among.append_iff.mp among).1
            (Among.append_iff.mp among').1
          obtain ⟨same, ends⟩ := way
          cases ends
          exact ⟨rfl, by rw [forgiven_append, forgiven_append, same]⟩

theorem Delivery.one_way {events : List Event} {site delivered delivered' : Site} {turns turns' : List Turn}
    (delivery : Delivery events site turns delivered) (delivery' : Delivery events site turns' delivered')
    (among : Among surroundings prior (turns.flatMap Turn.passed))
    (among' : Among surroundings prior (turns'.flatMap Turn.passed)) :
    turns.map Turn.upshot = turns'.map Turn.upshot ∧ delivered = delivered' ∧
      forgiven (turns.flatMap Turn.passed) = forgiven (turns'.flatMap Turn.passed) := by
  induction delivery generalizing prior turns' with
  | done =>
      cases delivery'
      exact ⟨rfl, rfl, rfl⟩
  | stopped stopped =>
      obtain ⟨rfl, rfl⟩ := delivery'.of_stopped stopped
      exact ⟨rfl, rfl, rfl⟩
  | last event before reading ends =>
      cases delivery' with
      | stopped stopped => cases reading.symm.trans stopped
      | last event' before' =>
          rw [List.flatMap_singleton] at among among'
          obtain ⟨same, passes⟩ := Turn.one_way event event' before before' among among'
          obtain ⟨-, -, after⟩ := Turn.upshot_inj.mp same
          refine ⟨congrArg (fun upshot => [upshot]) same, after, ?_⟩
          rw [List.flatMap_singleton, List.flatMap_singleton, passes]
      | onward event' before' _ goesOn =>
          rw [List.flatMap_singleton] at among
          rw [List.flatMap_cons, Among.append_iff] at among'
          obtain ⟨same, -⟩ := Turn.one_way event event' before before' among among'.1
          rw [(Turn.upshot_inj.mp same).2.1, goesOn] at ends
          cases ends
  | @onward _ _ _ _ turn turns event before reading goesOn _ ih =>
      rw [List.flatMap_cons, Among.append_iff] at among
      cases delivery' with
      | stopped stopped => cases reading.symm.trans stopped
      | last event' before' _ ends =>
          rw [List.flatMap_singleton] at among'
          obtain ⟨same, -⟩ := Turn.one_way event event' before before' among.1 among'
          rw [(Turn.upshot_inj.mp same).2.1, ends] at goesOn
          cases goesOn
      | onward event' before' _ _ delivery' =>
          rw [List.flatMap_cons, Among.append_iff] at among'
          obtain ⟨same, passes⟩ := Turn.one_way event event' before before' among.1 among'.1
          rw [passes] at among
          rw [← (Turn.upshot_inj.mp same).2.2] at delivery'
          obtain ⟨rest, ends, later⟩ := ih delivery' among.2 among'.2
          refine ⟨by rw [List.map_cons, List.map_cons, same, rest], ends, ?_⟩
          rw [List.flatMap_cons, List.flatMap_cons, forgiven_append, forgiven_append, passes, later]

/-! ### Dispatches -/

/-- What comes of a dispatch. -/
structure Dispatched where
  /-- Every event that had its turn, how it was taken care of, and the site that it left. -/
  turns : List (Event × Care × Site)
  result : Except Interruption DispatchOutcome

/-- What a dispatch comes to. -/
def Account.dispatched {set : EventSet} {site site' : Site} {passed : List (Exchange Site)}
    {r : Except Interruption DispatchOutcome} (account : Account set site passed r site') : Dispatched where
  turns := account.turns.map Turn.upshot
  result := r

variable {set : EventSet} {site site' site'' : Site} {passed passed' : List (Exchange Site)}

theorem Closing.one_way {tally : Tally} {resumed resumed' : Bool}
    (closing : Closing set tally site passed resumed site')
    (closing' : Closing set tally site passed' resumed' site'') (among : Among surroundings prior passed)
    (among' : Among surroundings prior passed') : passed = passed' ∧ resumed = resumed' ∧ site' = site'' := by
  cases closing with
  | left refused =>
      cases closing' with
      | left => exact ⟨rfl, rfl, rfl⟩
      | resumed allowed | refused allowed => cases refused.symm.trans allowed
  | resumed allowed =>
      obtain ⟨⟨replies, rfl⟩, -⟩ := Among.asked_iff.mp among
      cases closing' with
      | left refused => cases refused.symm.trans allowed
      | resumed =>
          obtain ⟨⟨-, rfl⟩, -⟩ := Among.asked_iff.mp among'
          exact ⟨rfl, rfl, rfl⟩
      | refused =>
          obtain ⟨⟨replies', -⟩, -⟩ := Among.asked_iff.mp among'
          cases replies.trans replies'.symm
  | refused allowed =>
      obtain ⟨⟨replies, rfl⟩, -⟩ := Among.asked_iff.mp among
      cases closing' with
      | left refused => cases refused.symm.trans allowed
      | resumed =>
          obtain ⟨⟨replies', -⟩, -⟩ := Among.asked_iff.mp among'
          cases replies.trans replies'.symm
      | refused =>
          obtain ⟨⟨replies', rfl⟩, -⟩ := Among.asked_iff.mp among'
          cases replies.trans replies'.symm
          exact ⟨rfl, rfl, rfl⟩

theorem Account.one_way {r r' : Except Interruption DispatchOutcome}
    (account : Account set site passed r site') (account' : Account set site passed' r' site'')
    (among : Among surroundings prior passed) (among' : Among surroundings prior passed') :
    account.dispatched = account'.dispatched ∧ site' = site'' ∧ forgiven passed = forgiven passed' := by
  obtain ⟨turns, delivered, ending, delivery, ends, rfl⟩ := account
  obtain ⟨turns', delivered', ending', delivery', ends', rfl⟩ := account'
  obtain ⟨first, last⟩ := Among.append_iff.mp (Among.told_iff.mp among)
  obtain ⟨first', last'⟩ := Among.append_iff.mp (Among.told_iff.mp among')
  obtain ⟨same, rfl, passes⟩ := delivery.one_way delivery' first first'
  rw [passes] at last
  have counted : Tally.result {} turns = Tally.result {} turns' := Tally.result_congr same
  have finish : ending = ending' ∧ r = r' ∧ site' = site'' := by
    cases ends with
    | unwound panicked =>
        cases ends' with
        | unwound panicked' =>
            cases panicked.symm.trans (counted.trans panicked')
            exact ⟨rfl, rfl, rfl⟩
        | closed counted' => cases panicked.symm.trans (counted.trans counted')
    | closed counts closing =>
        cases ends' with
        | unwound panicked => cases counts.symm.trans (counted.trans panicked)
        | closed counts' closing' =>
            cases counts.symm.trans (counted.trans counts')
            obtain ⟨rfl, rfl, rfl⟩ :=
              closing.one_way closing' (Among.append_iff.mp last).1 (Among.append_iff.mp last').1
            exact ⟨rfl, rfl, rfl⟩
  obtain ⟨rfl, rfl, rfl⟩ := finish
  refine ⟨by rw [Account.dispatched, Account.dispatched, same], rfl, ?_⟩
  rw [forgiven_cons, forgiven_append, passes, ← forgiven_append, ← forgiven_cons]

end OneWay

/-! ### Runs -/

/-- `Runs channel site dispatches passed r site'`: the loop goes along `passed`, and `dispatches` is what
comes of the sets that it dispatches, up to the one in which a hook panics. -/
inductive Runs :
    Channel → Site → List Dispatched → List (Exchange Site) → Except Interruption Unit → Site → Prop where
  | ended {channel : Channel} {site site' : Site} {passed : List (Exchange Site)} :
      Rounds channel site [] passed site' → Runs channel site [] passed (.ok ()) site'
  | unwound {set : EventSet} {channel : Channel} {site ready site' : Site} {passed : List (Exchange Site)}
      {i : Interruption} (account : Account set ready passed (.error i) site') :
      site.dispatcher.keepReading = true →
      Runs (.ok set :: channel) site [account.dispatched]
        (.asked (.read (.ok set)) site.awaiting () ready :: passed) (.error i) site'
  | next {set : EventSet} {channel : Channel} {site ready between site' : Site}
      {passed later : List (Exchange Site)} {outcome : DispatchOutcome} {dispatches : List Dispatched}
      {r : Except Interruption Unit} (account : Account set ready passed (.ok outcome) between) :
      site.dispatcher.keepReading = true → Runs channel between dispatches later r site' →
      Runs (.ok set :: channel) site (account.dispatched :: dispatches)
        (.asked (.read (.ok set)) site.awaiting () ready :: (passed ++ later)) r site'

/-- A run in which no set is dispatched although the channel has one was told to stop. -/
theorem Rounds.stopped_of_set {set : EventSet} {channel : Channel} {site site' : Site}
    {ending : List (Exchange Site)} (rounds : Rounds (.ok set :: channel) site [] ending site') :
    site.dispatcher.keepReading = false := by
  cases rounds with
  | stopped stopped => exact stopped
  | failed _ fails => cases fails

theorem Site.exists_runs {channel : Channel} {site site' : Site} {passed : List (Exchange Site)}
    {r : Except Interruption Unit} (course : (run channel).run.Course site passed r site') :
    ∃ dispatches, Runs channel site dispatches passed r site' := by
  have looped := run_looped course
  clear course
  induction looped with
  | last rounds => exact ⟨[], .ended rounds⟩
  | unwound reading dispatches =>
      obtain ⟨account⟩ := dispatch_course dispatches
      exact ⟨_, .unwound account reading⟩
  | next reading dispatches _ ih =>
      obtain ⟨account⟩ := dispatch_course dispatches
      obtain ⟨_, runs⟩ := ih
      exact ⟨_, .next account reading runs⟩

/-! ### Undertakings -/

/-- What comes of an undertaking. -/
inductive Upshot where
  | dispatched (dispatch : Dispatched)
  | ran (dispatches : List Dispatched) (result : Except Interruption Unit)
  | wished (result : Except Fault Unit)
  | done

/-- `Comes undertaking site passed upshot site'`: the undertaking goes along `passed` and comes to `upshot`.
Evaluations are left out: they ask no hook and do nothing to the model. -/
inductive Comes : Site.Undertaking → Site → List (Exchange Site) → Upshot → Site → Prop where
  | dispatch {set : EventSet} {site site' : Site} {passed : List (Exchange Site)}
      {r : Except Interruption DispatchOutcome} (account : Account set site passed r site') :
      Comes (.dispatch set) site passed (.dispatched account.dispatched) site'
  | run {channel : Channel} {site site' : Site} {passed : List (Exchange Site)} {dispatches : List Dispatched}
      {r : Except Interruption Unit} : Runs channel site dispatches passed r site' →
      Comes (.run channel) site passed (.ran dispatches r) site'
  | control {wish : Target.Control} {site site' : Site} {passed : List (Exchange Site)}
      {r : Except Fault Unit} : (Site.onTarget wish.attempt).run.Course site passed r site' →
      Comes (.control wish) site passed (.wished r) site'
  | focus {thread : ThreadRef} {site site' : Site} {passed : List (Exchange Site)}
      {r : Except Fault Unit} : (Site.onTarget (Target.setFocus thread)).run.Course site passed r site' →
      Comes (.focus thread) site passed (.wished r) site'
  | subscribe {change : Listeners → Listeners} {site site' : Site} {passed : List (Exchange Site)}
      {u : Unit} :
      (Site.updateDispatcher fun d => { d with listeners := change d.listeners }).Course site passed u site' →
      Comes (.subscribe change) site passed .done site'
  | shutdown {site site' : Site} {passed : List (Exchange Site)} {u : Unit} :
      Site.shutdown.Course site passed u site' → Comes .shutdown site passed .done site'

theorem Site.Undertaking.Course.exists_comes {undertaking : Undertaking} {site site' : Site}
    {passed : List (Exchange Site)} (course : undertaking.Course site passed site')
    (other : undertaking.isEvaluation = false) : ∃ upshot, Comes undertaking site passed upshot site' := by
  cases undertaking with
  | dispatch set =>
      obtain ⟨r, course⟩ := course
      obtain ⟨account⟩ := dispatch_course course
      exact ⟨_, .dispatch account⟩
  | run channel =>
      obtain ⟨r, course⟩ := course
      obtain ⟨dispatches, runs⟩ := exists_runs course
      exact ⟨_, .run runs⟩
  | control wish =>
      obtain ⟨r, course⟩ := course
      exact ⟨_, .control course⟩
  | focus thread =>
      obtain ⟨r, course⟩ := course
      exact ⟨_, .focus course⟩
  | evaluate => cases other
  | subscribe change =>
      obtain ⟨u, course⟩ := course
      exact ⟨_, .subscribe course⟩
  | shutdown =>
      obtain ⟨u, course⟩ := course
      exact ⟨_, .shutdown course⟩

/-- `Execution site undertakings upshots passed site'`: the undertakings go one after another along `passed`,
and `upshots` tells what comes of each and the site that it leaves. -/
inductive Execution :
    Site → List Site.Undertaking → List (Upshot × Site) → List (Exchange Site) → Site → Prop where
  | nil {site : Site} : Execution site [] [] [] site
  | cons {site between site' : Site} {undertaking : Site.Undertaking} {rest : List Site.Undertaking}
      {upshot : Upshot} {upshots : List (Upshot × Site)} {passed later : List (Exchange Site)} :
      Comes undertaking site passed upshot between → Execution between rest upshots later site' →
      Execution site (undertaking :: rest) ((upshot, between) :: upshots) (passed ++ later) site'

section OneWay

variable {surroundings : Surroundings Site} {prior passed passed' : List (Exchange Site)}
  {site site' site'' : Site}

theorem Rounds.one_way {channel : Channel} (rounds : Rounds channel site [] passed site')
    (rounds' : Rounds channel site [] passed' site'') (among : Among surroundings prior passed)
    (among' : Among surroundings prior passed') : passed = passed' ∧ site' = site'' := by
  cases rounds with
  | stopped stopped =>
      cases rounds' with
      | stopped => exact ⟨rfl, rfl⟩
      | failed reading => cases reading.symm.trans stopped
  | failed reading fails =>
      cases rounds' with
      | stopped stopped => cases reading.symm.trans stopped
      | failed _ fails' =>
          cases fails.symm.trans fails'
          obtain ⟨⟨-, rfl⟩, -⟩ := Among.asked_iff.mp among
          obtain ⟨⟨-, rfl⟩, -⟩ := Among.asked_iff.mp among'
          exact ⟨rfl, rfl⟩

theorem Runs.one_way {channel : Channel} {dispatches dispatches' : List Dispatched}
    {r r' : Except Interruption Unit} (runs : Runs channel site dispatches passed r site')
    (runs' : Runs channel site dispatches' passed' r' site'') (among : Among surroundings prior passed)
    (among' : Among surroundings prior passed') :
    dispatches = dispatches' ∧ r = r' ∧ site' = site'' ∧ forgiven passed = forgiven passed' := by
  induction runs generalizing prior passed' dispatches' with
  | ended rounds =>
      cases runs' with
      | ended rounds' =>
          obtain ⟨rfl, rfl⟩ := rounds.one_way rounds' among among'
          exact ⟨rfl, rfl, rfl, rfl⟩
      | unwound _ reading | next _ reading => cases reading.symm.trans rounds.stopped_of_set
  | unwound account reading =>
      obtain ⟨⟨-, rfl⟩, dispatch⟩ := Among.asked_iff.mp among
      cases runs' with
      | ended rounds => cases reading.symm.trans rounds.stopped_of_set
      | unwound account' =>
          obtain ⟨⟨-, rfl⟩, dispatch'⟩ := Among.asked_iff.mp among'
          obtain ⟨same, rfl, passes⟩ := account.one_way account' dispatch dispatch'
          cases congrArg Dispatched.result same
          refine ⟨congrArg (fun dispatch => [dispatch]) same, rfl, rfl, ?_⟩
          rw [forgiven_cons, passes, ← forgiven_cons]
      | next account' =>
          obtain ⟨⟨-, rfl⟩, rest'⟩ := Among.asked_iff.mp among'
          obtain ⟨same, -⟩ := account.one_way account' dispatch (Among.append_iff.mp rest').1
          cases congrArg Dispatched.result same
  | next account reading _ ih =>
      obtain ⟨⟨-, rfl⟩, rest⟩ := Among.asked_iff.mp among
      obtain ⟨dispatch, later⟩ := Among.append_iff.mp rest
      cases runs' with
      | ended rounds => cases reading.symm.trans rounds.stopped_of_set
      | unwound account' =>
          obtain ⟨⟨-, rfl⟩, dispatch'⟩ := Among.asked_iff.mp among'
          obtain ⟨same, -⟩ := account.one_way account' dispatch dispatch'
          cases congrArg Dispatched.result same
      | next account' _ runs' =>
          obtain ⟨⟨-, rfl⟩, rest'⟩ := Among.asked_iff.mp among'
          obtain ⟨dispatch', later'⟩ := Among.append_iff.mp rest'
          obtain ⟨same, rfl, passes⟩ := account.one_way account' dispatch dispatch'
          rw [passes] at later
          obtain ⟨rfl, rfl, rfl, passes'⟩ := ih runs' later later'
          refine ⟨by rw [same], rfl, rfl, ?_⟩
          rw [forgiven_cons, forgiven_append, passes, passes', ← forgiven_append, ← forgiven_cons]

theorem Comes.one_way {undertaking : Site.Undertaking} {upshot upshot' : Upshot}
    (comes : Comes undertaking site passed upshot site')
    (comes' : Comes undertaking site passed' upshot' site'') (among : Among surroundings prior passed)
    (among' : Among surroundings prior passed') :
    upshot = upshot' ∧ site' = site'' ∧ forgiven passed = forgiven passed' := by
  have hookless {α : Type} {x : Operation Site α} {a a' : α} (none : x.Hookless)
      (course : x.Course site passed a site') (course' : x.Course site passed' a' site'') :
      a = a' ∧ site' = site'' ∧ forgiven passed = forgiven passed' := by
    obtain ⟨same, ends⟩ := (none site).blind.one_way course course' among among'
    cases ends
    exact ⟨rfl, rfl, same⟩
  cases comes with
  | dispatch account =>
      cases comes' with
      | dispatch account' =>
          obtain ⟨same, rfl, passes⟩ := account.one_way account' among among'
          exact ⟨congrArg Upshot.dispatched same, rfl, passes⟩
  | run runs =>
      cases comes' with
      | run runs' =>
          obtain ⟨rfl, rfl, rfl, passes⟩ := runs.one_way runs' among among'
          exact ⟨rfl, rfl, passes⟩
  | @control wish _ _ _ r course =>
      cases comes' with
      | control course' =>
          obtain ⟨rfl, rfl, passes⟩ := hookless (Site.onTarget_hookless wish.hookless) course course'
          exact ⟨rfl, rfl, passes⟩
  | focus course =>
      cases comes' with
      | focus course' =>
          obtain ⟨rfl, rfl, passes⟩ :=
            hookless (Site.onTarget_hookless Target.setFocus_hookless) course course'
          exact ⟨rfl, rfl, passes⟩
  | subscribe course =>
      cases comes' with
      | subscribe course' => exact ⟨rfl, (hookless .update course course').2⟩
  | shutdown course =>
      cases comes' with
      | shutdown course' => exact ⟨rfl, (hookless (.bind .tell fun _ => .update) course course').2⟩

theorem Execution.one_way {undertakings : List Site.Undertaking} {upshots upshots' : List (Upshot × Site)}
    (execution : Execution site undertakings upshots passed site')
    (execution' : Execution site undertakings upshots' passed' site'')
    (among : Among surroundings prior passed) (among' : Among surroundings prior passed') :
    upshots = upshots' ∧ site' = site'' ∧ forgiven passed = forgiven passed' := by
  induction execution generalizing prior passed' upshots' with
  | nil =>
      cases execution'
      exact ⟨rfl, rfl, rfl⟩
  | cons comes _ ih =>
      cases execution' with
      | cons comes' execution' =>
          obtain ⟨here, later⟩ := Among.append_iff.mp among
          obtain ⟨here', later'⟩ := Among.append_iff.mp among'
          obtain ⟨rfl, rfl, passes⟩ := comes.one_way comes' here here'
          rw [passes] at later
          obtain ⟨rfl, rfl, passes'⟩ := ih execution' later later'
          exact ⟨rfl, rfl, by rw [forgiven_append, forgiven_append, passes, passes']⟩

end OneWay

/-! ### The last word -/

/-- Whatever goes this way asks the hook in the end: the state stays as the hook leaves it, and with another
reply of the hook it would be the same. -/
def AsksLast {σ : Type} (Goes : List (Exchange σ) → σ → Prop) : Prop :=
  ∀ (earlier later : List (Exchange σ)) (notice : Notice) (s t after : σ) (reply : HookReply),
    Goes (earlier ++ .asked (.hook notice) s reply t :: later) after →
      later = reply.remarks ∧ after = t ∧
        ∀ other : HookReply, Goes (earlier ++ .asked (.hook notice) s other t :: other.remarks) t

theorem Handling.HookLast.asksLast {σ α : Type} {x : Handling σ α} (last : HookLast x) (s : σ) :
    AsksLast fun passed t => ∃ r, x.run.Course s passed r t := by
  rintro earlier later notice before after t reply ⟨r, course⟩
  obtain ⟨remarks, same, value, -, others⟩ := (last s).course course
  exact ⟨remarks, same, fun other => ⟨_, others other⟩⟩

section Care

variable (reply : HookReply) (vote : Bool)

/-- The dispatcher has nothing to tell of an event whose hook was asked. -/
theorem HookReply.care_remarks : (Care.handled (reply.outcome.map fun _ => vote)).remarks = [] := by
  cases reply <;> rfl

theorem HookReply.settle_care (site : Site) :
    site.settle (.handled (reply.outcome.map fun _ => vote)) = site := by
  cases reply <;> rfl

end Care

/-- In the turn of an event the hook has the last word. -/
theorem TakesTurn.asksLast (event : Event) (before : Site) :
    AsksLast fun passed after => ∃ care, TakesTurn event before care passed after := by
  rintro earlier later notice s t after reply ⟨care, taken⟩
  generalize whole : earlier ++ .asked (.hook notice) s reply t :: later = passed at taken
  cases taken with
  | @heard request listener answer _ bound =>
      rcases List.append_eq_cons_iff.mp whole with ⟨-, same⟩ | ⟨earlier, rfl, rest⟩
      · cases same
      · exact absurd (rest ▸ List.mem_append_right _ List.mem_cons_self) Care.not_asked_remarks
  | @handled result waited site unbound course =>
      rcases append_split whole.symm with ⟨more, rfl⟩ | ⟨more, -, rest⟩
      · obtain ⟨rfl, rfl, vote, rfl, others⟩ := (Site.route_hookLast event _).course course
        rw [HookReply.care_remarks, List.append_nil] at whole
        rw [HookReply.settle_care]
        refine ⟨(List.cons.inj (List.append_cancel_left whole)).2, rfl, fun other => ?_⟩
        refine ⟨.handled (other.outcome.map fun _ => vote), ?_⟩
        have taken := TakesTurn.handled unbound (others other)
        rwa [HookReply.care_remarks, HookReply.settle_care, List.append_nil] at taken
      · exact absurd (rest ▸ List.mem_append_right _ List.mem_cons_self) Care.not_asked_remarks

/-- A hook panics at the end of a turn, and in the other turn it returns; else they are the same. -/
def Turn.Panics (turn other : Turn) : Prop :=
  other.event = turn.event ∧ other.before = turn.before ∧ other.after = turn.after ∧
    ∃ earlier notice s text t, turn.passed = earlier ++ [.asked (.hook notice) s (.panicked text) t] ∧
      other.passed = earlier ++ [.asked (.hook notice) s .done t]

theorem Turn.exists_panics {turn : Turn} {text : String}
    (care : turn.care = .handled (.error (.panic text))) : ∃ other : Turn, turn.Panics other := by
  obtain ⟨event, before, care', passed, after, taken⟩ := turn
  subst care
  have asked : ∃ notice s t, .asked (.hook notice) s (.panicked text) t ∈ passed := by
    cases taken with
    | handled unbound course =>
        obtain ⟨notice, s, t, mem⟩ := (Site.route_orderly _ _ _ _ course).panic rfl
        exact ⟨notice, s, t, List.mem_append_left _ mem⟩
  obtain ⟨notice, s, t, mem⟩ := asked
  obtain ⟨earlier, later, rfl⟩ := List.append_of_mem mem
  obtain ⟨rfl, rfl, others⟩ := TakesTurn.asksLast event before _ _ _ _ _ _ _ ⟨_, taken⟩
  obtain ⟨care, taken'⟩ := others .done
  exact ⟨⟨event, before, care, _, _, taken'⟩, rfl, rfl, rfl, earlier, notice, s, text, _, rfl, rfl⟩

/-- A panic unwinds a dispatch in its last turn, and the site is left as the turn leaves it. -/
theorem Account.exists_panics {set : EventSet} {site site' : Site} {passed : List (Exchange Site)}
    {i : Interruption} (account : Account set site passed (.error i) site') :
    ∃ earlier turn other, account.turns = earlier ++ [turn] ∧ turn.Panics other ∧ site' = other.after := by
  obtain ⟨text, -, panicked, -, left⟩ := account.ends.of_error
  obtain ⟨turn, mem, care⟩ := Tally.panic_of_result panicked
  obtain ⟨earlier, later, split⟩ := List.append_of_mem mem
  have delivery := account.delivery
  rw [split] at delivery
  obtain ⟨rfl, last⟩ := delivery.last_of_ended (by rw [care]; rfl)
  obtain ⟨other, panics⟩ := Turn.exists_panics care
  exact ⟨earlier, turn, other, split, panics, left.trans (last.trans panics.2.2.1.symm)⟩

/-! ### The result -/

/-- Hooks cannot sway the model. Whichever of them fail, the same undertakings come to the same among the
same surroundings: the sites that the events leave one by one, the outcomes of dispatches, all that is asked
for, and all that passes but for the failures. And the hook has the last word: when it panics, handlers, the
turns of events and whole dispatches leave the model as if it had returned. -/
theorem unswayed_by_hooks :
    (∀ {surroundings : Surroundings Site} {site finish finish' : Site} {undertakings : List Site.Undertaking}
        {upshots upshots' : List (Upshot × Site)} {passed passed' : List (Exchange Site)},
      Execution site undertakings upshots passed finish →
      Execution site undertakings upshots' passed' finish' →
      Among surroundings [] passed → Among surroundings [] passed' →
      upshots = upshots' ∧ finish = finish' ∧ forgiven passed = forgiven passed' ∧
        passed.filterMap Exchange.demand? = passed'.filterMap Exchange.demand?) ∧
    (∀ (handler : Target.Handler) (target : Target), AsksLast ((Target.Act.handle handler).Course target)) ∧
    (∀ (event : Event) (before : Site),
      AsksLast fun passed after => ∃ care, TakesTurn event before care passed after) ∧
    ∀ {set : EventSet} {site site' : Site} {passed : List (Exchange Site)} {i : Interruption}
      (account : Account set site passed (.error i) site'),
      ∃ earlier turn other, account.turns = earlier ++ [turn] ∧ turn.Panics other ∧ site' = other.after := by
  refine ⟨?_, fun handler => handler.hookLast.asksLast, TakesTurn.asksLast, Account.exists_panics⟩
  intro surroundings site finish finish' undertakings upshots upshots' passed passed' execution execution'
    among among'
  obtain ⟨rfl, rfl, passes⟩ := execution.one_way execution' among among'
  refine ⟨rfl, rfl, passes, ?_⟩
  rw [← demands_forgiven passed, passes, demands_forgiven]

/-! ### Executions to look at -/

namespace Unswayed.Sample

/-- A target with one thread that can be resumed; the hook is told of its start. -/
def answer (told : HookReply) : (q : Request) → q.Reply
  | .call .threads => .ok [⟨1⟩]
  | .call .resumeAll => .ok ()
  | .call _ => .error .disconnected
  | .hook _ => told
  | .listen .. => .vote true
  | .read _ => ()

def surroundings : Surroundings Site := fun _ q s => (answer .done q, s)

def set : EventSet := ⟨.all, [⟨none, .vmStart ⟨1⟩⟩, ⟨none, .threadStart ⟨2⟩⟩]⟩

/-- The target starts and is resumed. -/
def undertakings : List Site.Undertaking := [.dispatch set, .control .resume]

def site : Site := ⟨{ name := "sample" }, {}⟩

/-- How an operation goes when hooks take their notices in this way. -/
def going (told : HookReply) {α : Type} (x : Operation Site α) (site : Site) :
    List (Exchange Site) × α × Site :=
  (x site).follow fun q s => (answer told q, s)

def starting (told : HookReply) := going told (Site.dispatch set).run site

def resuming (told : HookReply) :=
  going told (Site.onTarget Target.Control.resume.attempt).run (starting told).2.2

def passed (told : HookReply) : List (Exchange Site) := (starting told).1 ++ ((resuming told).1 ++ [])

theorem execution (told : HookReply) :
    ∃ upshots, Execution site undertakings upshots (passed told) (resuming told).2.2 := by
  have goes : ∀ {α : Type} (x : Operation Site α) (site : Site),
      x.Course site (going told x site).1 (going told x site).2.1 (going told x site).2.2 :=
    fun x site => Dialogue.course_follow _ (x site)
  have starts : (Site.Undertaking.dispatch set).Course site (starting told).1 (starting told).2.2 := by
    unfold starting
    exact ⟨_, goes _ _⟩
  have resumes : (Site.Undertaking.control .resume).Course (starting told).2.2 (resuming told).1
      (resuming told).2.2 := by
    unfold resuming
    exact ⟨_, goes _ _⟩
  obtain ⟨first, comes⟩ := starts.exists_comes rfl
  obtain ⟨second, comes'⟩ := resumes.exists_comes rfl
  exact ⟨_, .cons comes (.cons comes' .nil)⟩

theorem among {told : HookReply} (returns : told.forgiven = .done) : Among surroundings [] (passed told) := by
  have goes : ∀ {α : Type} (x : Operation Site α) (site : Site) (prior : List (Exchange Site)),
      Among surroundings prior (going told x site).1 := by
    intro α x site prior
    refine Among.follow (fun prior q s => ?_) (x site)
    cases q with
    | hook => exact ⟨returns, rfl⟩
    | call c => cases c <;> exact ⟨rfl, rfl⟩
    | listen | read => exact ⟨rfl, rfl⟩
  unfold passed
  rw [Among.append_iff, Among.append_iff]
  exact ⟨goes _ _ _, goes _ _ _, .nil⟩

/-- A panic at the start of the target unwinds the dispatch. -/
theorem unwound : ∃ site', Nonempty (Account set site (starting (.panicked "view")).1
    (.error (.panic "view")) site') := by
  have goes := Dialogue.course_follow (fun q s => (answer (.panicked "view") q, s)) ((Site.dispatch set).run site)
  have ends : (starting (.panicked "view")).2.1 = .error (.panic "view") := rfl
  obtain ⟨account⟩ := Site.dispatch_course goes
  exact ⟨_, ⟨ends ▸ account⟩⟩

/-- The model of a target that is gone. -/
def gone : Target := { name := "sample", status := .terminated }

/-- What passes at the end of the target when the hook takes the notice in this way. -/
def ended (told : HookReply) : List (Exchange Target) :=
  [.told (.log (.threadsReleased "sample" .terminated 0)), .told (.log (.statusSet "sample" .terminated))] ++
    .asked (.hook .exit) gone told gone :: told.remarks

theorem dies : (Target.Act.handle .vmDeath).Course { name := "sample" } (ended (.panicked "view")) gone :=
  ⟨_, .note (.note (.ask .done))⟩

end Unswayed.Sample

open Unswayed.Sample in
theorem unswayed_by_hooks_failing :
    (∃ upshots upshots', Execution site undertakings upshots (passed .done) (resuming .done).2.2 ∧
      Execution site undertakings upshots' (passed (.failed "view")) (resuming (.failed "view")).2.2 ∧
      upshots = upshots' ∧ (passed .done).length ≠ (passed (.failed "view")).length ∧
      forgiven (passed .done) = forgiven (passed (.failed "view"))) ∧
    ((Target.Act.handle .vmDeath).Course { name := "sample" } (ended (.panicked "view")) gone ∧
      (Target.Act.handle .vmDeath).Course { name := "sample" } (ended .done) gone) ∧
    ∃ (site' : Site) (account : Account set site (starting (.panicked "view")).1 (.error (.panic "view")) site')
      (earlier : List Turn) (turn other : Turn),
      account.turns = earlier ++ [turn] ∧ turn.Panics other ∧ site' = other.after := by
  obtain ⟨sequences, handlers, -, dispatches⟩ := unswayed_by_hooks
  obtain ⟨upshots, returns⟩ := execution .done
  obtain ⟨upshots', fails⟩ := execution (.failed "view")
  obtain ⟨same, -, passes, -⟩ := sequences returns fails (among rfl) (among rfl)
  obtain ⟨-, -, others⟩ := handlers .vmDeath _ _ _ _ _ _ _ _ dies
  obtain ⟨site', ⟨account⟩⟩ := unwound
  exact ⟨⟨upshots, upshots', returns, fails, same, by decide +kernel, passes⟩, ⟨dies, others .done⟩,
    site', account, dispatches account⟩

end RemoteDebug
