import RemoteDebug.Proofs.Handling

/-!
What others do to a dispatcher while an operation of it waits.

A listener that is called, and whoever else holds the dispatcher, can bind and forget listeners and ask
for a stop. Nobody dispatches a set or runs the loop meanwhile: a dispatch keeps the target to itself, and
the loop is the single reader of its channel. `Exchange.Undisturbed` is that promise of the surroundings,
`Exchange.Calm` the promise of the hook that it does not panic. Under the first one the state, the
settings and the count of waiting events stay as the operation left them, and reading goes on exactly as
long as nobody asks for a stop.
-/

namespace RemoteDebug

open Operation

/-- The dispatcher was at most given and deprived of listeners and asked to stop. -/
structure Dispatcher.Interlude (before after : Dispatcher) : Prop where
  settings : after.settings = before.settings
  state : after.state = before.state
  pending : after.pending = before.pending
  asked : after.keepReading = true → before.keepReading = true

/-- The dispatcher after some waiting events had their turn. -/
def Dispatcher.advance (dispatcher : Dispatcher) (n : Nat) : Dispatcher :=
  { dispatcher with pending := dispatcher.pending - n }

theorem Dispatcher.advance_advance (dispatcher : Dispatcher) (m n : Nat) :
    (dispatcher.advance m).advance n = dispatcher.advance (n + m) := by
  simp only [advance, Nat.sub_sub, Nat.add_comm]

namespace Dispatcher.Interlude

variable {first second third : Dispatcher}

@[refl] theorem refl (dispatcher : Dispatcher) : dispatcher.Interlude dispatcher :=
  ⟨rfl, rfl, rfl, id⟩

theorem trans (head : first.Interlude second) (tail : second.Interlude third) :
    first.Interlude third where
  settings := tail.settings.trans head.settings
  state := tail.state.trans head.state
  pending := tail.pending.trans head.pending
  asked reading := head.asked (tail.asked reading)

theorem advance (interlude : first.Interlude second) (n : Nat) :
    (first.advance n).Interlude (second.advance n) where
  settings := interlude.settings
  state := interlude.state
  pending := congrArg (· - n) interlude.pending
  asked := interlude.asked

theorem rebind (listeners : Listeners) : first.Interlude { first with listeners } :=
  ⟨rfl, rfl, rfl, id⟩

theorem clear : first.Interlude { first with keepReading := false } where
  settings := rfl
  state := rfl
  pending := rfl
  asked reading := nomatch reading

end Dispatcher.Interlude

namespace Site

variable {site site' : Site} {passed : List (Exchange Site)} {u : Unit}

/-- To bind a listener is an interlude. -/
theorem addListener_interlude {request : RequestRef} {listener : Listener}
    (course : (addListener request listener).Course site passed u site') :
    site.dispatcher.Interlude site'.dispatcher := by
  have course := Course.update_bind_iff.mp (Course.read_bind_iff.mp course)
  have same : site' = { site with dispatcher :=
      { site.dispatcher with listeners := site.dispatcher.listeners.add request listener } } := by
    split at course
    · exact (Course.tell_iff.mp course).2
    · exact (Course.pure_iff.mp course).2.2
  rw [same]
  exact .rebind _

/-- To ask for a stop is an interlude. -/
theorem shutdown_interlude (course : shutdown.Course site passed u site') :
    site.dispatcher.Interlude site'.dispatcher := by
  obtain ⟨later, updated, rfl⟩ := Course.tell_bind_iff.mp course
  rw [(Course.update_iff.mp updated).2]
  exact .clear

end Site

/-! ### Promises of the surroundings -/

namespace Exchange

/-- While the operation waited, the dispatcher went through no more than an interlude. -/
def Undisturbed : Exchange Site → Prop
  | .told _ => True
  | .asked _ before _ after => before.dispatcher.Interlude after.dispatcher

/-- A stop was asked for while the operation waited. -/
def Stops : Exchange Site → Prop
  | .told _ => False
  | .asked _ before _ after =>
    before.dispatcher.keepReading = true ∧ after.dispatcher.keepReading = false

/-- No hook panicked. -/
def Calm {σ : Type} : Exchange σ → Prop
  | .asked (.hook _) _ reply _ => reply.outcome = .ok ()
  | _ => True

end Exchange

/-- A handling that is orderly ends in a panic only if a hook does. -/
theorem Orderly.not_panic {σ α : Type} {passed : List (Exchange σ)} {r : Except Interruption α}
    {text : String} (orderly : Orderly passed r) (calm : ∀ e ∈ passed, e.Calm) :
    r ≠ .error (.panic text) := by
  intro ended
  obtain ⟨notice, s, t, mem⟩ := orderly.panic ended
  exact nomatch calm _ mem

namespace Carries

variable {dispatcher dispatcher' : Dispatcher} {passed : List (Exchange Site)}

/-- A dispatcher that is left to others goes through an interlude, of which every request sees a part. -/
theorem interlude (carries : Carries Site.dispatcher dispatcher passed dispatcher')
    (undisturbed : ∀ e ∈ passed, e.Undisturbed) :
    dispatcher.Interlude dispatcher' ∧
      ∀ q before reply after, .asked q before reply after ∈ passed →
        dispatcher.Interlude before.dispatcher :=
  carries.rel .refl .trans fun _ _ _ _ mem => undisturbed _ mem

/-- Reading goes on exactly as long as nobody asks for a stop. -/
theorem keepReading_iff (carries : Carries Site.dispatcher dispatcher passed dispatcher')
    (undisturbed : ∀ e ∈ passed, e.Undisturbed) :
    dispatcher'.keepReading = true ↔
      dispatcher.keepReading = true ∧ ¬ ∃ e ∈ passed, e.Stops := by
  induction passed generalizing dispatcher with
  | nil =>
      cases carries
      simp
  | cons e later ih =>
      have waits := fun e mem => undisturbed e (List.mem_cons_of_mem _ mem)
      cases e with
      | told n =>
          rw [ih carries waits]
          simp [Exchange.Stops]
      | asked q before reply after =>
          obtain ⟨rfl, carries⟩ := carries
          have interlude : before.dispatcher.Interlude after.dispatcher :=
            undisturbed _ List.mem_cons_self
          have asked := interlude.asked
          simp only [ih carries waits, List.mem_cons, exists_eq_or_imp, Exchange.Stops, not_or]
          cases reading : after.dispatcher.keepReading with
          | true => simp [asked reading]
          | false =>
              cases before.dispatcher.keepReading <;> simp

end Carries

end RemoteDebug
