import RemoteDebug.Proofs.Turn

/-!
The delivery of events, turn after turn.

`Delivery events site turns site'` says which turns are taken when `events` are delivered at `site`. The
events get their turns in order, and the delivery ends early for two reasons only: reading has ended
before a turn, or a turn did not go on. `deliver_course` finds the turns in every course of
`Site.deliver` and counts them as `Tally.result` does; the rest is by induction on the delivery.
-/

namespace RemoteDebug

open Operation

/-- The turns that are taken at the delivery of events. -/
inductive Delivery : List Event → Site → List Turn → Site → Prop where
  | done {site : Site} : Delivery [] site [] site
  | stopped {event : Event} {rest : List Event} {site : Site} :
      site.dispatcher.keepReading = false → Delivery (event :: rest) site [] site
  | last {event : Event} {rest : List Event} {site : Site} {turn : Turn} :
      turn.event = event → turn.before = site → site.dispatcher.keepReading = true →
      turn.care.goesOn = false → Delivery (event :: rest) site [turn] turn.after
  | onward {event : Event} {rest : List Event} {site site' : Site} {turn : Turn}
      {turns : List Turn} :
      turn.event = event → turn.before = site → site.dispatcher.keepReading = true →
      turn.care.goesOn = true → Delivery rest turn.after turns site' →
      Delivery (event :: rest) site (turn :: turns) site'

/-! ### Counting -/

/-- Nobody was for staying suspended. -/
def Care.agrees : Care → Bool
  | .heard _ _ (.vote resume) => resume
  | _ => true

namespace Tally

/-- The count after one more event. -/
def count (tally : Tally) (care : Care) : Tally where
  voted := care.votes || tally.voted
  agreed := care.agrees && tally.agreed
  failed := !care.goesOn || tally.failed
  dispatched := tally.dispatched + 1

/-- The count after some turns, unless one of them ends in a panic. -/
def result (tally : Tally) : List Turn → Except Interruption Tally
  | [] => .ok tally
  | turn :: rest =>
    match turn.care with
    | .handled (.error (.panic text)) => .error (.panic text)
    | care => (tally.count care).result rest

theorem eq_foldl_of_result {turns : List Turn} {tally total : Tally}
    (counted : tally.result turns = .ok total) :
    total = (turns.map Turn.care).foldl count tally := by
  induction turns generalizing tally with
  | nil => exact (Except.ok.inj counted).symm
  | cons turn rest ih =>
      rw [result] at counted
      split at counted
      · cases counted
      · exact ih counted

theorem panic_of_result {turns : List Turn} {tally : Tally} {text : String}
    (panicked : tally.result turns = .error (.panic text)) :
    ∃ turn ∈ turns, turn.care = .handled (.error (.panic text)) := by
  induction turns generalizing tally with
  | nil => cases panicked
  | cons turn rest ih =>
      rw [result] at panicked
      split at panicked
      · cases panicked
        exact ⟨turn, List.mem_cons_self, ‹_›⟩
      · obtain ⟨turn', mem, care⟩ := ih panicked
        exact ⟨turn', List.mem_cons_of_mem _ mem, care⟩

theorem result_ne_fault {turns : List Turn} {tally : Tally} {fault : Fault} :
    tally.result turns ≠ .error (.fault fault) := by
  induction turns generalizing tally with
  | nil => exact nofun
  | cons turn rest ih =>
      rw [result]
      split
      · exact nofun
      · exact ih

section Fold

variable {cares : List Care} {tally : Tally}

theorem foldl_voted :
    (cares.foldl count tally).voted = true ↔
      (∃ care ∈ cares, care.votes = true) ∨ tally.voted = true := by
  induction cares generalizing tally with
  | nil => simp
  | cons care rest ih => simp [ih, count, or_assoc, or_comm]

theorem foldl_agreed :
    (cares.foldl count tally).agreed = true ↔
      (∀ care ∈ cares, care.agrees = true) ∧ tally.agreed = true := by
  induction cares generalizing tally with
  | nil => simp
  | cons care rest ih => simp [ih, count, and_assoc, and_left_comm]

theorem foldl_failed :
    (cares.foldl count tally).failed = true ↔
      (∃ care ∈ cares, care.goesOn = false) ∨ tally.failed = true := by
  induction cares generalizing tally with
  | nil => simp
  | cons care rest ih => simp [ih, count, or_assoc, or_left_comm]

theorem foldl_dispatched :
    (cares.foldl count tally).dispatched = tally.dispatched + cares.length := by
  induction cares generalizing tally with
  | nil => rfl
  | cons care rest ih =>
      rw [List.foldl_cons, ih, List.length_cons]
      simp only [count]
      omega

end Fold

end Tally

/-! ### The loop over the events -/

namespace Site

variable {event : Event} {events : List Event} {tally : Tally} {site site' : Site}
  {passed : List (Exchange Site)} {r : Except Interruption Tally}

/-- The loop takes one turn and, if it goes on, is the loop over the rest. -/
theorem deliver_cons_course (reading : site.dispatcher.keepReading = true)
    (course : (deliver (event :: events) tally).run.Course site passed r site') :
    ∃ turn : Turn, turn.event = event ∧ turn.before = site ∧
      (turn.care.goesOn = false ∧ passed = turn.passed ∧ site' = turn.after ∧
          r = tally.result [turn] ∨
        turn.care.goesOn = true ∧ ∃ later,
          (deliver events (tally.count turn.care)).run.Course turn.after later r site' ∧
          passed = turn.passed ++ later) := by
  have started := Course.run_read_bind_iff.mp course
  simp only [reading, Bool.not_true, Bool.false_eq_true, if_false] at started
  have begins := Course.run_update_bind_iff.mp started
  cases found : site.dispatcher.listeners.recipient? event with
  | some recipient =>
      obtain ⟨request, listener⟩ := recipient
      have bound := found
      unfold Listeners.recipient? at bound
      rw [bound] at begins
      obtain ⟨reply, after, later, replied, rfl⟩ := Course.run_ask_bind_iff.mp begins
      refine ⟨⟨event, site, .heard request listener reply, _, after, .heard found⟩, rfl, rfl, ?_⟩
      cases reply with
      | vote resume => exact .inr ⟨rfl, later, replied, rfl⟩
      | panicked =>
          obtain ⟨nothing, finished, rfl⟩ := Course.run_tell_bind_iff.mp replied
          obtain ⟨rfl, rfl, rfl⟩ := Course.run_pure_iff.mp finished
          exact .inl ⟨rfl, rfl, rfl, rfl⟩
  | none =>
      have unbound := found
      unfold Listeners.recipient? at unbound
      rw [unbound] at begins
      obtain ⟨result, routed, waited, later, handled, goes, rfl⟩ :=
        Course.run_perform_bind_iff.mp begins
      refine ⟨⟨event, site, _, _, _, .handled found handled⟩, rfl, rfl, ?_⟩
      rcases result with (fault | text) | vote
      · obtain ⟨_, reported, remarks, nothing, told, finished, rfl⟩ :=
          Course.run_perform_bind_iff.mp goes
        obtain ⟨rfl, rfl⟩ := reportFault_iff.mp told
        obtain ⟨rfl, rfl, rfl⟩ := Course.run_pure_iff.mp finished
        rw [List.append_nil]
        exact .inl ⟨rfl, rfl, rfl, rfl⟩
      · obtain ⟨rfl, rfl, rfl⟩ := Course.run_throw_iff.mp goes
        exact .inl ⟨rfl, rfl, rfl, rfl⟩
      · exact .inr ⟨rfl, later, goes, by simp [Care.remarks]⟩

theorem deliver_course
    (course : (deliver events tally).run.Course site passed r site') :
    ∃ turns, Delivery events site turns site' ∧ passed = turns.flatMap Turn.passed ∧
      r = tally.result turns := by
  induction events generalizing tally site passed with
  | nil =>
      obtain ⟨rfl, rfl, rfl⟩ := Course.run_pure_iff.mp course
      exact ⟨[], .done, rfl, rfl⟩
  | cons event rest ih =>
      by_cases reading : site.dispatcher.keepReading = true
      · obtain ⟨turn, rfl, rfl, ⟨ends, rfl, rfl, rfl⟩ | ⟨goesOn, later, rest, rfl⟩⟩ :=
          deliver_cons_course reading course
        · exact ⟨[turn], .last rfl rfl reading ends, by simp, rfl⟩
        · obtain ⟨turns, delivery, rfl, rfl⟩ := ih rest
          refine ⟨turn :: turns, .onward rfl rfl reading goesOn delivery, by simp, ?_⟩
          rw [Tally.result]
          split
          · rename_i panicked
            rw [panicked] at goesOn
            cases goesOn
          · rfl
      · have started := Course.run_read_bind_iff.mp course
        rw [Bool.not_eq_true] at reading
        simp only [reading, Bool.not_false, if_true] at started
        obtain ⟨rfl, rfl, rfl⟩ := Course.run_pure_iff.mp started
        exact ⟨[], .stopped reading, rfl, rfl⟩

end Site

/-! ### Laws of deliveries -/

namespace Delivery

variable {events : List Event} {site site' : Site} {turns : List Turn}

/-- Events get their turns in order, without gaps and without repetition. -/
theorem events_prefix (delivery : Delivery events site turns site') :
    turns.map Turn.event <+: events := by
  induction delivery with
  | done => exact List.nil_prefix
  | stopped => exact List.nil_prefix
  | last same => exact List.cons_prefix_cons.mpr ⟨same, List.nil_prefix⟩
  | onward same _ _ _ _ ih => exact List.cons_prefix_cons.mpr ⟨same, ih⟩

theorem reading (delivery : Delivery events site turns site') :
    ∀ turn ∈ turns, turn.before.dispatcher.keepReading = true := by
  induction delivery with
  | done => simp
  | stopped => simp
  | last _ at_site reading _ => simpa [at_site] using reading
  | onward _ at_site reading _ _ ih =>
      rw [← at_site] at reading
      exact List.forall_mem_cons.mpr ⟨reading, ih⟩

/-- Once reading has ended no event gets a turn. -/
theorem of_stopped (delivery : Delivery events site turns site')
    (stopped : site.dispatcher.keepReading = false) : turns = [] ∧ site' = site := by
  cases delivery with
  | done => exact ⟨rfl, rfl⟩
  | stopped => exact ⟨rfl, rfl⟩
  | last _ _ reading => exact nomatch reading.symm.trans stopped
  | onward _ _ reading => exact nomatch reading.symm.trans stopped

/-- A delivery from one of its turns on is a delivery of the events from there on. -/
theorem from_turn {earlier later : List Turn} {turn : Turn}
    (delivery : Delivery events site (earlier ++ turn :: later) site') :
    ∃ rest, Delivery (turn.event :: rest) turn.before (turn :: later) site' := by
  induction earlier generalizing events site with
  | nil =>
      cases delivery with
      | last same at_site reading ends =>
          subst same at_site
          exact ⟨[], .last rfl rfl reading ends⟩
      | onward same at_site reading goesOn delivery =>
          subst same at_site
          exact ⟨_, .onward rfl rfl reading goesOn delivery⟩
  | cons first earlier ih =>
      -- The list has to be a variable: case analysis cannot solve for an append.
      generalize whole : first :: earlier ++ turn :: later = all at delivery
      cases delivery with
      | done => cases whole
      | stopped => cases whole
      | last => simp at whole
      | onward _ _ _ _ delivery =>
          cases whole
          exact ih delivery

/-- A turn after which reading has ended is the last one. -/
theorem last_of_stopped {earlier later : List Turn} {turn : Turn}
    (delivery : Delivery events site (earlier ++ turn :: later) site')
    (stopped : turn.after.dispatcher.keepReading = false) : later = [] ∧ site' = turn.after := by
  obtain ⟨rest, delivery⟩ := delivery.from_turn
  cases delivery with
  | last => exact ⟨rfl, rfl⟩
  | onward _ _ _ _ delivery => exact delivery.of_stopped stopped

/-- A turn that does not go on is the last one. -/
theorem last_of_ended {earlier later : List Turn} {turn : Turn}
    (delivery : Delivery events site (earlier ++ turn :: later) site') (ended : turn.care.goesOn = false) :
    later = [] ∧ site' = turn.after := by
  obtain ⟨rest, delivery⟩ := delivery.from_turn
  cases delivery with
  | last => exact ⟨rfl, rfl⟩
  | onward _ _ _ goesOn => cases goesOn.symm.trans ended

/-- Events without a turn are left only where reading has ended or a turn did not go on. -/
theorem short (delivery : Delivery events site turns site') (left : turns.length < events.length) :
    site'.dispatcher.keepReading = false ∨ ∃ turn ∈ turns, turn.care.goesOn = false := by
  induction delivery with
  | done => exact absurd left (Nat.lt_irrefl _)
  | stopped stopped => exact .inl stopped
  | last _ _ _ ends => exact .inr ⟨_, List.mem_cons_self, ends⟩
  | onward _ _ _ _ _ ih =>
      rcases ih (Nat.lt_of_succ_lt_succ left) with stopped | ⟨turn, mem, ends⟩
      · exact .inl stopped
      · exact .inr ⟨turn, List.mem_cons_of_mem _ mem, ends⟩

/-- Turns take waiting events off the count, one each; otherwise a delivery is an interlude. -/
theorem interlude (delivery : Delivery events site turns site')
    (undisturbed : ∀ turn ∈ turns, ∀ e ∈ turn.passed, e.Undisturbed) :
    (site.dispatcher.advance turns.length).Interlude site'.dispatcher ∧
      ∀ i turn, turns[i]? = some turn →
        (site.dispatcher.advance i).Interlude turn.before.dispatcher := by
  induction delivery with
  | done => exact ⟨.refl _, by simp⟩
  | stopped => exact ⟨.refl _, by simp⟩
  | @last event rest site turn _ at_site =>
      subst at_site
      have turned := (turn.interlude (undisturbed turn List.mem_cons_self)).1
      refine ⟨turned, ?_⟩
      intro i turn' found
      cases i with
      | zero =>
          cases found
          exact .refl _
      | succ i => cases found
  | @onward event rest site site' turn turns _ at_site _ _ _ ih =>
      subst at_site
      have turned := (turn.interlude (undisturbed turn List.mem_cons_self)).1
      obtain ⟨whole, each⟩ := ih fun turn mem => undisturbed turn (List.mem_cons_of_mem _ mem)
      constructor
      · rw [List.length_cons, ← Dispatcher.advance_advance]
        exact (turned.advance turns.length).trans whole
      · intro i turn' found
        cases i with
        | zero =>
            cases found
            exact .refl _
        | succ i =>
            -- The rest counts its own turns only; the one before it is the first step to `i + 1`.
            rw [← Dispatcher.advance_advance]
            exact (turned.advance i).trans (each i turn' found)

/-- Reading goes on after a delivery exactly if no turn holds a reason to stop. -/
theorem keepReading_iff (delivery : Delivery events site turns site')
    (undisturbed : ∀ turn ∈ turns, ∀ e ∈ turn.passed, e.Undisturbed) :
    site'.dispatcher.keepReading = true ↔
      site.dispatcher.keepReading = true ∧ ∀ turn ∈ turns, ¬ turn.Stops := by
  induction delivery with
  | done => simp
  | stopped => simp
  | last _ at_site =>
      rw [Turn.keepReading_iff (undisturbed _ List.mem_cons_self), at_site]
      simp
  | onward _ at_site _ _ _ ih =>
      rw [ih fun turn mem => undisturbed turn (List.mem_cons_of_mem _ mem),
        Turn.keepReading_iff (undisturbed _ List.mem_cons_self), List.forall_mem_cons, and_assoc,
        at_site]

end Delivery

end RemoteDebug
