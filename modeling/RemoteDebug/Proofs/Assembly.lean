import RemoteDebug.Dispatcher
import RemoteDebug.Proofs.Course

/-!
What holds of a dispatcher because it holds of its parts.

The operations of a dispatcher are put together from a few of a kind: changes of the dispatcher, remarks,
requests, and the routing of an event. A property of operations that these have and that passes to what
is put together (`Site.Composable`) is a property of a dispatch and of a run.
-/

namespace RemoteDebug.Site

open Operation

/-- What the dispatcher says in its own name. -/
inductive Remark : Note → Prop where
  | report (fault : Fault) : Remark (.report (.error .dispatcher fault))
  | dispatching (set : EventSet) : Remark (.log (.dispatching set))
  | dispatched (count skipped : Nat) (resumed : Bool) : Remark (.log (.dispatched count skipped resumed))
  | readingStopped (failure : ChannelFailure) : Remark (.log (.readingStopped failure))
  | stopped (target : String) : Remark (.log (.dispatcherStopped target))

/-- What the dispatcher asks for in its own name. -/
inductive Errand : Request → Prop where
  | listen (listener : Listener) (event : Event) : Errand (.listen listener event)
  | resumeSet (set : EventSet) : Errand (.call (.resumeSet set))
  | read (delivered : Except ChannelFailure EventSet) : Errand (.read delivered)

/-- A property of operations that the parts of a dispatcher have and that passes to what is put together
from them. -/
structure Composable (P : (α : Type) → Operation Site α → Prop) : Prop where
  pure : ∀ {α : Type} (a : α), P α (pure a)
  bind : ∀ {α β : Type} {x : Operation Site α} {f : α → Operation Site β}, P α x → (∀ a, P β (f a)) →
    P β (x >>= f)
  read : P Site Operation.read
  update : ∀ f, P Unit (updateDispatcher f)
  tell : ∀ {n}, Remark n → P Unit (tell n)
  ask : ∀ {q}, Errand q → P q.Reply (ask q)
  route : ∀ event, P _ (route event).run

namespace Composable

variable {P : (α : Type) → Operation Site α → Prop} (composable : Composable P)

include composable

section Early

variable {ε α β : Type}

theorem run_pure {a : α} : P _ (ExceptT.run (Pure.pure a : ExceptT ε (Operation Site) α)) :=
  composable.pure _

theorem run_throw {e : ε} : P _ (ExceptT.run (throw e : ExceptT ε (Operation Site) α)) :=
  composable.pure _

theorem run_bind {x : ExceptT ε (Operation Site) α} {f : α → ExceptT ε (Operation Site) β}
    (first : P _ x.run) (next : ∀ a, P _ (f a).run) : P _ (x >>= f).run := by
  rw [ExceptT.run_bind]
  refine composable.bind first fun r => ?_
  cases r with
  | ok a => exact next a
  | error e => exact composable.pure _

theorem run_perform {x : Operation Site α} (holds : P _ x) :
    P _ (ExceptT.run (perform x : ExceptT ε (Operation Site) α)) :=
  composable.bind holds fun _ => composable.pure _

end Early

theorem reportFault (fault : Fault) : P _ (reportFault fault) := by
  refine composable.bind (composable.tell (.report fault)) fun _ => ?_
  split
  · exact composable.update _
  · exact composable.pure _

theorem deliver (events : List Event) (tally : Tally) : P _ (deliver events tally).run := by
  induction events generalizing tally with
  | nil => exact composable.run_pure
  | cons event rest ih =>
      refine composable.run_bind (composable.run_perform composable.read) fun site => ?_
      dsimp only
      split
      · exact composable.run_pure
      refine composable.run_bind (composable.run_perform (composable.update _)) fun _ => ?_
      split
      · refine composable.run_bind (composable.run_perform (composable.ask (.listen _ _))) fun reply => ?_
        cases reply with
        | vote resume => exact ih _
        | panicked =>
            exact composable.run_bind (composable.run_perform (composable.tell (.report _))) fun _ =>
              composable.run_pure
      · refine composable.run_bind (composable.run_perform (composable.route event)) fun result => ?_
        rcases result with (fault | text) | vote
        · exact composable.run_bind (composable.run_perform (composable.reportFault fault)) fun _ =>
            composable.run_pure
        · exact composable.run_throw
        · exact ih _

theorem resumeSet (set : EventSet) (tally : Tally) : P _ (resumeSet set tally) := by
  refine composable.bind composable.read fun site => ?_
  dsimp only
  split
  · refine composable.bind (composable.ask (.resumeSet set)) fun answer => ?_
    cases answer with
    | ok answer => exact composable.pure _
    | error failure => exact composable.bind (composable.reportFault _) fun _ => composable.pure _
  · exact composable.pure _

theorem dispatch (set : EventSet) : P _ (dispatch set).run :=
  composable.run_bind (composable.run_perform (composable.update _)) fun _ =>
    composable.run_bind (composable.run_perform (composable.tell (.dispatching set))) fun _ =>
    composable.run_bind (composable.run_perform (composable.update _)) fun _ =>
    composable.run_bind (composable.deliver _ _) fun tally =>
    composable.run_bind (composable.run_perform composable.read) fun _ =>
    composable.run_bind (composable.run_perform (composable.update _)) fun _ =>
    composable.run_bind (composable.run_perform (composable.resumeSet set tally)) fun _ =>
    composable.run_bind (composable.run_perform (composable.tell (.dispatched _ _ _))) fun _ =>
    composable.run_bind (composable.run_perform (composable.update _)) fun _ => composable.run_pure

theorem stop : P _ Site.stop :=
  composable.bind (composable.update _) fun _ => composable.bind composable.read fun _ =>
    composable.tell (.stopped _)

theorem beginRead : P _ beginRead := by
  refine composable.bind composable.read fun site => ?_
  split
  · exact composable.bind (composable.update _) fun _ => composable.pure _
  · exact composable.pure _

theorem failedRead (failure : ChannelFailure) : P _ (failedRead failure) := by
  refine composable.bind composable.beginRead fun reads => ?_
  cases reads with
  | true =>
      exact composable.bind (composable.ask (.read _)) fun _ =>
        composable.bind (composable.tell (.readingStopped failure)) fun _ => composable.stop
  | false => exact composable.stop

theorem run (channel : Channel) : P _ (run channel).run := by
  induction channel with
  | nil => exact composable.run_perform (composable.failedRead _)
  | cons item rest ih =>
      cases item with
      | error failure => exact composable.run_perform (composable.failedRead failure)
      | ok set =>
          refine composable.run_bind (composable.run_perform composable.beginRead) fun reads => ?_
          cases reads with
          | true =>
              exact composable.run_bind (composable.run_perform (composable.ask (.read _))) fun _ =>
                composable.run_bind (composable.dispatch set) fun _ => ih
          | false => exact composable.run_perform composable.stop

end Composable

end RemoteDebug.Site
