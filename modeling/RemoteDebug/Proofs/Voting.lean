import RemoteDebug.Proofs.Dispatch

/-!
The decision to resume an event set.

A set is resumed if somebody voted, all listeners were for it, nothing went wrong and nobody asked for a
stop. `Account.Voted`, `Unanimous`, `Account.Flawless` and `Account.Unstopped` say what that means of a
dispatch as it looks from outside; `Account.allows_iff` is the agreement of the four with the count that
the dispatcher keeps.
-/

namespace RemoteDebug

open Operation

/-- All listeners that were called were for resuming. -/
def Unanimous (passed : List (Exchange Site)) : Prop :=
  ∀ listener event before reply after,
    .asked (.listen listener event) before reply after ∈ passed → reply = .vote true

/-- Whoever took care of an event did so without a fault and without a vote against. -/
theorem Care.approves_iff {care : Care} :
    care.agrees = true ∧ care.goesOn = true ↔
      (∀ request listener reply, care = .heard request listener reply → reply = .vote true) ∧
        ∀ i, care ≠ .handled (.error i) := by
  cases care with
  | heard request listener reply =>
      rcases reply with (_ | _) | _ <;> simp [agrees, goesOn]
  | handled result =>
      cases result <;> simp [agrees, goesOn]

namespace Account

variable {set : EventSet} {site site' : Site} {passed : List (Exchange Site)}
  {r : Except Interruption DispatchOutcome}

/-- Some event was given to a listener, or had none and was the preparation of a type while the
settings count that as a vote. -/
def Voted (account : Account set site passed r site') : Prop :=
  ∃ turn ∈ account.turns,
    turn.recipient? ≠ none ∨ turn.event.votesAlone site.dispatcher.settings = true

/-- No listener panicked, and no handler ended with an error. -/
def Flawless (account : Account set site passed r site') : Prop :=
  (∀ listener event before after,
    .asked (.listen listener event) before .panicked after ∉ passed) ∧
  ∀ turn ∈ account.turns, ∀ i, turn.care ≠ .handled (.error i)

/-- Nobody asked for a stop up to the end of the last turn: not before the dispatch, not during a turn,
and no turn left the end of the target to its handler. -/
def Unstopped (account : Account set site passed r site') : Prop :=
  site.dispatcher.keepReading = true ∧
    ∀ turn ∈ account.turns, (∀ e ∈ turn.passed, ¬ e.Stops) ∧ ¬ turn.Ends

variable (account : Account set site passed r site')

/-- Nobody but a listener is called with an event, and that only in its turn. -/
theorem turn_of_listen {listener : Listener} {event : Event} {before after : Site}
    {reply : ListenerReply} (mem : .asked (.listen listener event) before reply after ∈ passed) :
    ∃ turn ∈ account.turns, ∃ request, turn.care = .heard request listener reply := by
  rcases account.turn_or_ending mem with ⟨turn, found, here⟩ | ending
  · obtain ⟨request, care, -⟩ := turn.care_of_listen here
    exact ⟨turn, found, request, care⟩
  · cases (account.ends.asked ending).1

theorem voted_iff (undisturbed : ∀ e ∈ passed, e.Undisturbed) (calm : ∀ e ∈ passed, e.Calm) :
    (Tally.of account.turns).voted = true ↔ account.Voted := by
  have each : ∀ turn ∈ account.turns, turn.care.votes = true ↔
      turn.recipient? ≠ none ∨ turn.event.votesAlone site.dispatcher.settings = true := by
    intro turn mem
    rw [← account.turn_settings undisturbed mem]
    exact turn.votes_iff (account.forall_turns undisturbed turn mem)
      (account.forall_turns calm turn mem)
  unfold Tally.of Voted
  rw [Tally.foldl_voted]
  constructor
  · rintro (⟨care, mem, votes⟩ | impossible)
    · obtain ⟨turn, found, rfl⟩ := List.mem_map.mp mem
      exact ⟨turn, found, (each turn found).mp votes⟩
    · cases impossible
  · rintro ⟨turn, mem, voted⟩
    exact .inl ⟨turn.care, List.mem_map_of_mem mem, (each turn mem).mpr voted⟩

/-- The count finds no vote against and no failure exactly if there was none. -/
theorem approved_iff :
    (Tally.of account.turns).agreed = true ∧ (Tally.of account.turns).failed = false ↔
      Unanimous passed ∧ account.Flawless := by
  have counted : (Tally.of account.turns).agreed = true ∧ (Tally.of account.turns).failed = false ↔
      ∀ turn ∈ account.turns, turn.care.agrees = true ∧ turn.care.goesOn = true := by
    rw [← Bool.not_eq_true, Tally.of, Tally.foldl_agreed, Tally.foldl_failed]
    simp [forall_and]
  rw [counted]
  constructor
  · intro approves
    refine ⟨?_, ?_, ?_⟩
    · intro listener event before reply after mem
      obtain ⟨turn, found, request, care⟩ := account.turn_of_listen mem
      exact (Care.approves_iff.mp (approves turn found)).1 _ _ _ care
    · intro listener event before after mem
      obtain ⟨turn, found, request, care⟩ := account.turn_of_listen mem
      cases (Care.approves_iff.mp (approves turn found)).1 _ _ _ care
    · intro turn found
      exact (Care.approves_iff.mp (approves turn found)).2
  · rintro ⟨unanimous, -, handled⟩ turn found
    refine Care.approves_iff.mpr ⟨?_, handled turn found⟩
    intro request listener reply care
    exact unanimous _ _ _ _ _ (account.mem_of_turn found (turn.listen_of_care care))

theorem keepReading_iff (undisturbed : ∀ e ∈ passed, e.Undisturbed) (flawless : account.Flawless) :
    account.delivered.dispatcher.keepReading = true ↔ account.Unstopped := by
  rw [account.delivered_keepReading_iff undisturbed]
  have mild : ∀ turn ∈ account.turns, turn.care.isFatal ≠ true := by
    intro turn mem fatal
    exact flawless.2 turn mem _ (Turn.isFatal_iff.mp fatal)
  unfold Unstopped Turn.Stops
  constructor
  · rintro ⟨reading, unstopped⟩
    refine ⟨reading, ?_⟩
    intro turn mem
    constructor
    · intro e here stops
      exact unstopped turn mem (.inl ⟨e, here, stops⟩)
    · intro ends
      exact unstopped turn mem (.inr (.inl ends))
  · rintro ⟨reading, unstopped⟩
    refine ⟨reading, ?_⟩
    rintro turn mem (⟨e, here, stops⟩ | ends | fatal)
    · exact (unstopped turn mem).1 e here stops
    · exact (unstopped turn mem).2 ends
    · exact mild turn mem fatal

/-- The count allows to resume the set in just the four conditions. -/
theorem allows_iff (undisturbed : ∀ e ∈ passed, e.Undisturbed) (calm : ∀ e ∈ passed, e.Calm) :
    (Tally.of account.turns).allows account.delivered.cleared.dispatcher = true ↔
      account.Voted ∧ Unanimous passed ∧ account.Flawless ∧ account.Unstopped := by
  unfold Tally.allows
  simp only [Bool.and_eq_true, Bool.not_eq_true']
  rw [and_assoc, and_assoc, account.voted_iff undisturbed calm]
  constructor
  · rintro ⟨voted, agreed, unfailed, reading⟩
    obtain ⟨unanimous, flawless⟩ := account.approved_iff.mp ⟨agreed, unfailed⟩
    exact ⟨voted, unanimous, flawless, (account.keepReading_iff undisturbed flawless).mp reading⟩
  · rintro ⟨voted, unanimous, flawless, unstopped⟩
    obtain ⟨agreed, unfailed⟩ := account.approved_iff.mpr ⟨unanimous, flawless⟩
    exact ⟨voted, agreed, unfailed, (account.keepReading_iff undisturbed flawless).mpr unstopped⟩

/-- What a dispatch decides about the resumption of its set. -/
structure Decides {outcome : DispatchOutcome} (account : Account set site passed (.ok outcome) site') :
    Prop where
  /-- No set is resumed before the last turn is over. -/
  afterwards : ∀ turn ∈ account.turns, ∀ e ∈ turn.passed, e.resumption? = none
  /-- At most one resumption is asked for, and that of the set itself. -/
  once : passed.filterMap Exchange.resumption? = [] ∨ passed.filterMap Exchange.resumption? = [set]
  resumes_iff : passed.filterMap Exchange.resumption? = [set] ↔
    account.Voted ∧ Unanimous passed ∧ account.Flawless ∧ account.Unstopped
  voted_iff : outcome.voted = true ↔ account.Voted
  resumed_iff : outcome.resumed = true ↔
    ∃ before after, .asked (.call (.resumeSet set)) before (.ok ()) after ∈ passed

end Account

/-- Whatever listeners, handlers and the target do, a set is resumed by the votes of a dispatch. -/
theorem resumption_decided {set : EventSet} {site site' : Site} {passed : List (Exchange Site)}
    {r : Except Interruption DispatchOutcome}
    (course : (Site.dispatch set).run.Course site passed r site')
    (undisturbed : ∀ e ∈ passed, e.Undisturbed) (calm : ∀ e ∈ passed, e.Calm) :
    ∃ outcome, r = .ok outcome ∧
      ∃ account : Account set site passed (.ok outcome) site', account.Decides := by
  obtain ⟨account⟩ := Site.dispatch_course course
  obtain ⟨outcome, rfl⟩ := account.result_ok calm
  obtain ⟨closing, closed, closes, ending, voted, -⟩ := account.closes
  have allows := account.allows_iff undisturbed calm
  have resumptions : passed.filterMap Exchange.resumption? =
      if (Tally.of account.turns).allows account.delivered.cleared.dispatcher then [set] else [] := by
    rw [account.resumptions, ending, List.filterMap_append, closes.resumptions]
    exact List.append_nil _
  refine ⟨outcome, rfl, account, ?_, ?_, ?_, ?_, ?_⟩
  · intro turn _ e here
    exact turn.resumption here
  · rw [resumptions]
    split
    · exact .inr rfl
    · exact .inl rfl
  · rw [resumptions, ← allows]
    split
    · simp_all
    · simp_all
  · rw [voted]
    exact account.voted_iff undisturbed calm
  · refine closes.resumed_iff.trans ⟨?_, ?_⟩
    · rintro ⟨before, after, mem⟩
      exact ⟨before, after, account.mem_of_closing ending mem⟩
    · rintro ⟨before, after, mem⟩
      rcases account.turn_or_ending mem with ⟨turn, -, here⟩ | here
      · cases turn.resumption here
      · rw [ending] at here
        rcases List.mem_append.mp here with here | here
        · exact ⟨before, after, here⟩
        · cases List.mem_singleton.mp here

theorem resumption_decided_sample :
    ((Sample.passed (.vote true)).filterMap Exchange.resumption? = [Sample.set] ∧
      (Site.dispatch Sample.set).run.Course (Sample.site .idle) (Sample.passed (.vote true))
        (.ok (Sample.outcome (.vote true))) (Sample.grown .idle) ∧
      (∀ e ∈ Sample.passed (.vote true), e.Undisturbed) ∧ (∀ e ∈ Sample.passed (.vote true), e.Calm) ∧
      ∃ outcome, (.ok (Sample.outcome (.vote true)) : Except Interruption DispatchOutcome) = .ok outcome ∧
        ∃ account : Account Sample.set (Sample.site .idle) (Sample.passed (.vote true)) (.ok outcome)
          (Sample.grown .idle), account.Decides) ∧
    ((Sample.passed (.vote false)).filterMap Exchange.resumption? = [] ∧
      (Site.dispatch Sample.set).run.Course (Sample.site .idle) (Sample.passed (.vote false))
        (.ok (Sample.outcome (.vote false))) (Sample.grown .idle) ∧
      (∀ e ∈ Sample.passed (.vote false), e.Undisturbed) ∧ (∀ e ∈ Sample.passed (.vote false), e.Calm) ∧
      ∃ outcome, (.ok (Sample.outcome (.vote false)) : Except Interruption DispatchOutcome) = .ok outcome ∧
        ∃ account : Account Sample.set (Sample.site .idle) (Sample.passed (.vote false)) (.ok outcome)
          (Sample.grown .idle), account.Decides) := by
  constructor
  · exact ⟨rfl, Sample.course _, Sample.undisturbed _, Sample.calm _,
      resumption_decided (Sample.course _) (Sample.undisturbed _) (Sample.calm _)⟩
  · exact ⟨rfl, Sample.course _, Sample.undisturbed _, Sample.calm _,
      resumption_decided (Sample.course _) (Sample.undisturbed _) (Sample.calm _)⟩

end RemoteDebug
