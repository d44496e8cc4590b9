import RemoteDebug.Interpreter
import RemoteDebug.Proofs.Act

/-!
What can be undertaken at a site.

* `Site.Undertaking` is whatever is done with a target and its dispatcher: sets are dispatched, the loop
  runs, a user has a wish, moves the focus or evaluates an expression, listeners come and go, and
  somebody asks for a stop. Only the dispatcher calls the handlers of the target.
* A dispatch and a control need the mutation domain of the target for themselves. `Undertaking.Enters`
  and `Undertaking.holds` say when it is taken.
* `Site.Reaches` joins undertakings to histories. While an undertaking waits, others go on, as long as
  they leave a taken domain alone.
-/

namespace RemoteDebug

open Operation

/-- A read of the channel. -/
def Request.isRead : Request → Bool
  | .read _ => true
  | _ => false

namespace Site

/-- An evaluation at work on a site. Next to the site it shares the flag of its interpreter. -/
def evaluate (interpreter : Interpreter) (fuel : Nat) (frame : Frame) (site : Site) :
    Dialogue (Site × Bool) ((Outcome × Interpreter) × Site) :=
  (interpreter.run fuel site.target frame).embed (fun running site => (site, running)) Prod.swap site

theorem evaluate_iff {interpreter : Interpreter} {fuel : Nat} {frame : Frame} {site site' : Site}
    {passed : List (Exchange (Site × Bool))} {result : Outcome × Interpreter} :
    (evaluate interpreter fuel frame site).Course passed (result, site') ↔
      (interpreter.run fuel site.target frame).Course (passed.map (.onPart Prod.snd)) result ∧
        Carries Prod.fst site passed site' :=
  Dialogue.Course.embed_iff (fun _ => rfl) fun _ _ => rfl

/-- Whatever can be undertaken at a site. -/
inductive Undertaking where
  | dispatch (set : EventSet)
  | run (channel : Channel)
  | control (wish : Target.Control)
  | focus (thread : ThreadRef)
  | evaluate (interpreter : Interpreter) (fuel : Nat) (frame : Frame)
  | subscribe (change : Listeners → Listeners)
  | shutdown

namespace Undertaking

/-- The courses that an undertaking can take, to a good or a bad end. -/
def Course (undertaking : Undertaking) (before : Site) (passed : List (Exchange Site))
    (after : Site) : Prop :=
  match undertaking with
  | .dispatch set => ∃ r, (Site.dispatch set).run.Course before passed r after
  | .run channel => ∃ r, (Site.run channel).run.Course before passed r after
  | .control wish => ∃ r, (onTarget wish.attempt).run.Course before passed r after
  | .focus thread => ∃ r, (onTarget (Target.setFocus thread)).run.Course before passed r after
  | .evaluate interpreter fuel frame => ∃ shared result,
      (Site.evaluate interpreter fuel frame before).Course shared (result, after) ∧
        passed = shared.map (.onPart Prod.fst)
  | .subscribe change => ∃ u, (updateDispatcher fun d =>
      { d with listeners := change d.listeners }).Course before passed u after
  | .shutdown => ∃ u, Site.shutdown.Course before passed u after

/-- The undertaking takes the mutation domain for itself. The loop does so once it has read a set. -/
def Enters (undertaking : Undertaking) (site : Site) : Prop :=
  match undertaking with
  | .dispatch _ | .control _ => True
  | .run channel => site.dispatcher.keepReading = true ∧ ∃ set, channel.next = .ok set
  | .focus _ | .evaluate .. | .subscribe _ | .shutdown => False

/-- The undertaking holds the mutation domain while it waits for the reply to a request. -/
def holds (undertaking : Undertaking) (request : Request) : Bool :=
  match undertaking with
  | .dispatch _ | .control _ => true
  | .run _ => !request.isRead
  | .focus _ | .evaluate .. | .subscribe _ | .shutdown => false

end Undertaking

/-! ### Histories -/

/-- A site at some moment, while the mutation domain of its target is taken or free. -/
structure Moment where
  site : Site
  taken : Bool

/-- `Reaches start moment`: undertakings in sequence lead from `start` to `moment`. While an undertaking
waits for a reply, others lead from the site that it hands over to the one that comes back. -/
inductive Reaches : Moment → Moment → Prop where
  | refl {moment : Moment} : Reaches moment moment
  | done {start : Moment} {before after : Site} {taken : Bool} {passed : List (Exchange Site)}
      (undertaking : Undertaking) :
      Reaches start ⟨before, taken⟩ → (taken = true → ¬ undertaking.Enters before) →
      undertaking.Course before passed after →
      (∀ q s reply t, .asked q s reply t ∈ passed →
        Reaches ⟨s, taken || undertaking.holds q⟩ ⟨t, taken || undertaking.holds q⟩) →
      Reaches start ⟨after, taken⟩
  | waiting {start : Moment} {before after here there : Site} {taken : Bool}
      {passed : List (Exchange Site)} {q : Request} {reply : q.Reply} (undertaking : Undertaking) :
      Reaches start ⟨before, taken⟩ → (taken = true → ¬ undertaking.Enters before) →
      undertaking.Course before passed after →
      (∀ q s reply t, .asked q s reply t ∈ passed →
        Reaches ⟨s, taken || undertaking.holds q⟩ ⟨t, taken || undertaking.holds q⟩) →
      .asked q here reply there ∈ passed → Reaches start ⟨here, taken || undertaking.holds q⟩

end Site

end RemoteDebug
