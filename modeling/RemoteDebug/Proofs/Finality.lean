import RemoteDebug.Proofs.Aftermath
import RemoteDebug.Proofs.Chronicle

/-!
Whoever sees the end sees it to the end.

A target can be gone when a reply comes: the hook heard of it, or somebody else dispatched the event while
the loop was reading. From then on nothing is asked for, and the target stays gone (`Lasts`). So if any
request in a chronicle was put when the target was gone, it is gone where the chronicle leads
(`Site.Chronicle.gone`).
-/

namespace RemoteDebug

open Operation

/-- Once the target is gone when a reply comes, nothing more is asked for, and `final` is gone. -/
def Lasts {σ : Type} (model : σ → Target) (final : Target) : List (Exchange σ) → Prop
  | [] => True
  | .told _ :: later => Lasts model final later
  | .asked _ _ _ t :: later =>
    ((model t).isTerminated = true → final.isTerminated = true ∧ ∀ e ∈ later, ∃ n, e = .told n) ∧
      Lasts model final later

namespace Lasts

variable {σ : Type} {model : σ → Target} {between final : Target} {first second passed : List (Exchange σ)}

theorem of_told (told : ∀ e ∈ passed, ∃ n, e = .told n) : Lasts model final passed := by
  induction passed with
  | nil => trivial
  | cons e later ih =>
      obtain ⟨n, rfl⟩ := told e List.mem_cons_self
      exact ih fun e mem => told e (List.mem_cons_of_mem _ mem)

theorem of_alive (alive : ∀ q s reply t, .asked q s reply t ∈ passed → (model t).isTerminated = false) :
    Lasts model final passed := by
  induction passed with
  | nil => trivial
  | cons e later ih =>
      have rest := ih fun q s reply t mem => alive q s reply t (List.mem_cons_of_mem _ mem)
      cases e with
      | told n => exact rest
      | asked q s reply t =>
          refine ⟨fun gone => ?_, rest⟩
          cases gone.symm.trans (alive q s reply t List.mem_cons_self)

/-- What lasts up to some point and from there on, lasts. -/
theorem append (head : Lasts model between first)
    (stays : between.isTerminated = true → final.isTerminated = true ∧ ∀ e ∈ second, ∃ n, e = .told n)
    (tail : Lasts model final second) : Lasts model final (first ++ second) := by
  induction first with
  | nil => exact tail
  | cons e later ih =>
      cases e with
      | told n => exact ih head
      | asked q s reply t =>
          refine ⟨fun gone => ?_, ih head.2⟩
          obtain ⟨still, told⟩ := head.1 gone
          obtain ⟨last, told'⟩ := stays still
          exact ⟨last, List.forall_mem_append.mpr ⟨told, told'⟩⟩

theorem onPart_iff : Lasts id final (passed.map (Exchange.onPart model)) ↔ Lasts model final passed := by
  induction passed with
  | nil => exact Iff.rfl
  | cons e later ih =>
      cases e with
      | told n => exact ih
      | asked q s reply t =>
          have told_iff : (∀ e ∈ later.map (Exchange.onPart model), ∃ n, e = .told n) ↔
              ∀ e ∈ later, ∃ n, e = .told n := by
            simp only [List.forall_mem_map]
            refine forall₂_congr fun e _ => ?_
            cases e <;> simp [Exchange.onPart]
          simp only [List.map_cons, Exchange.onPart, Lasts, ih, told_iff, id]

/-- Where the target is gone when a reply comes, it is gone at the end. -/
theorem gone {q : Request} {s t : σ} {reply : q.Reply} (lasts : Lasts model final passed)
    (mem : .asked q s reply t ∈ passed) (here : (model t).isTerminated = true) :
    final.isTerminated = true := by
  induction passed with
  | nil => cases mem
  | cons e later ih =>
      cases e with
      | told n => exact ih lasts (by simpa using mem)
      | asked q' s' reply' t' =>
          rcases List.mem_cons.mp mem with same | mem
          · cases same
            exact (lasts.1 here).1
          · exact ih lasts.2 mem

/-- After such a reply nothing is asked for. -/
theorem not_asked {q q' : Request} {s s' t t' : σ} {reply : q.Reply} {reply' : q'.Reply}
    (lasts : Lasts model final (first ++ .asked q' s' reply' t' :: second))
    (mem : .asked q s reply t ∈ first) : (model t).isTerminated = false := by
  rw [← Bool.not_eq_true]
  intro here
  induction first with
  | nil => cases mem
  | cons e later ih =>
      cases e with
      | told n => exact ih lasts (by simpa using mem)
      | asked q₁ s₁ reply₁ t₁ =>
          rcases List.mem_cons.mp mem with same | mem
          · cases same
            obtain ⟨n, impossible⟩ := (lasts.1 here).2 _ (List.mem_append_right _ List.mem_cons_self)
            cases impossible
          · exact ih lasts.2 mem

end Lasts

/-! ### Dispatching -/

section Dispatching

variable {site site' : Site} {passed : List (Exchange Site)}

theorem Turn.lasts {turn : Turn} (others : ∀ e ∈ turn.passed, e.Passes fun _ => true)
    (alive : turn.before.target.isTerminated = false) :
    Lasts Site.target turn.after.target turn.passed := by
  cases found : turn.recipient? with
  | some recipient =>
      obtain ⟨request, listener⟩ := recipient
      obtain ⟨reply, -, passed⟩ := heard_of_recipient found
      rw [passed]
      have told : ∀ e ∈ turn.care.remarks, ∃ n, e = .told n := fun _ => Care.remarks_told
      exact ⟨fun gone => ⟨gone, told⟩, .of_told told⟩
  | none =>
      obtain ⟨result, waited, site, -, course, passed, after⟩ := handled_of_recipient found
      have told : ∀ e ∈ turn.care.remarks, ∃ n, e = .told n := fun _ => Care.remarks_told
      rw [passed] at others ⊢
      rw [after, Site.settle_target]
      refine Lasts.append ?_ (fun gone => ⟨gone, told⟩) (.of_told told)
      obtain ⟨r, heeded, -⟩ := Site.route_iff.mp course
      cases ends : turn.event.happening.isEnd with
      | true =>
          obtain ⟨status, notice, ending, -⟩ := Happening.ending_of_isEnd ends
          obtain ⟨reply, seen, -⟩ := Target.heed_of_end ending heeded
          have after : ∀ e ∈ (reply.remarks : List (Exchange Target)), ∃ n, e = .told n := by
            cases reply <;> simp [HookReply.remarks]
          rw [← Lasts.onPart_iff, seen]
          exact ⟨fun gone => ⟨gone, after⟩, .of_told after⟩
      | false =>
          have promised : ∀ q before reply after, .asked q before reply after ∈ waited →
              before.target.isTerminated = false → after.target.isTerminated = false :=
            fun q before reply after mem =>
              Site.Passage.alive (others (.asked q before reply after) (List.mem_append_left _ mem)) rfl
          obtain ⟨-, shown⟩ := Target.heed_keeps Target.stable_alive ends _ _ _ _ heeded alive
            (Exchange.keeps_onPart promised)
          exact .of_alive fun q before reply after mem =>
            promised q before reply after mem (Shown.onPart_iff.mp shown q before reply after mem)

theorem Delivery.lasts {events : List Event} {turns : List Turn}
    (delivery : Delivery events site turns site') (settled : site.Settled)
    (others : ∀ turn ∈ turns, ∀ e ∈ turn.passed, e.Passes fun _ => true) :
    Lasts Site.target site'.target (turns.flatMap Turn.passed) := by
  induction delivery with
  | done => trivial
  | stopped => trivial
  | last _ at_site reading =>
      rw [← at_site] at settled reading
      simpa using Turn.lasts (others _ List.mem_cons_self) (settled.alive reading)
  | @onward event rest site site' turn turns _ at_site reading _ delivery ih =>
      rw [← at_site] at settled reading
      have here := others _ List.mem_cons_self
      have later := fun turn mem => others turn (List.mem_cons_of_mem _ mem)
      obtain ⟨next, -⟩ := Turn.settled here (settled.alive reading)
      refine Lasts.append (Turn.lasts here (settled.alive reading)) ?_ (ih next later)
      intro gone
      obtain ⟨rfl, rfl⟩ := delivery.of_stopped (next gone).2
      exact ⟨gone, by simp⟩

theorem Ending.lasts {set : EventSet} {turns : List Turn} {delivered : Site}
    {r : Except Interruption DispatchOutcome} (ends : Ending set turns delivered passed r site') :
    Lasts Site.target site'.target passed := by
  cases ends with
  | unwound => trivial
  | closed _ closing =>
      cases closing with
      | left => trivial
      | resumed => exact ⟨fun gone => ⟨gone, by simp⟩, trivial⟩
      | @refused failure after =>
          refine ⟨fun gone => ⟨?_, by simp [Care.remarks]⟩, trivial⟩
          rw [Site.closed, Site.settle_target]
          exact gone

/-- After the end the set is left as it is. -/
theorem Ending.told_of_stopped {set : EventSet} {turns : List Turn} {delivered : Site}
    {r : Except Interruption DispatchOutcome} (ends : Ending set turns delivered passed r site')
    (stopped : delivered.dispatcher.keepReading = false) : ∀ e ∈ passed, ∃ n, e = .told n := by
  intro e mem
  cases e with
  | told n => exact ⟨n, rfl⟩
  | asked q before reply after =>
      obtain ⟨rfl, -⟩ := ends.asked mem
      have none := List.filterMap_eq_nil_iff.mp (ends.of_stopped stopped).1 _ mem
      cases none

namespace Site

theorem dispatch_lasts {set : EventSet} {r : Except Interruption DispatchOutcome}
    (course : (dispatch set).run.Course site passed r site')
    (others : ∀ e ∈ passed, e.Passes fun _ => true) (settled : site.Settled) :
    Lasts Site.target site'.target passed := by
  obtain ⟨account⟩ := dispatch_course course
  have opened := (site.opened_passage true set).settled settled
  have turns := account.forall_turns others
  obtain ⟨delivered, -⟩ := account.delivery.settled opened turns
  rw [account.passed_eq]
  refine Lasts.append (account.delivery.lasts opened turns) ?_ account.ends.lasts
  intro gone
  have stopped := (delivered gone).2
  obtain ⟨-, target, -⟩ := account.ends.of_stopped stopped
  exact ⟨by rw [target]; exact gone, account.ends.told_of_stopped stopped⟩

theorem Rounds.lasts {channel : Channel} (rounds : Rounds channel site [] passed site') :
    Lasts Site.target site'.target passed := by
  cases rounds with
  | stopped => trivial
  | failed => exact ⟨fun gone => ⟨gone, by simp [farewell]⟩, trivial⟩

/-- From a site that is gone a run goes on to its end without a question. -/
theorem Looped.silent_of_gone {channel : Channel} {r : Except Interruption Unit}
    (looped : Looped channel site passed r site') (settled : site.Settled)
    (gone : site.target.isTerminated = true) :
    site'.target.isTerminated = true ∧ ∀ e ∈ passed, ∃ n, e = .told n := by
  have stopped := (settled gone).2
  cases looped with
  | last rounds =>
      cases rounds with
      | stopped => exact ⟨gone, by simp [farewell]⟩
      | failed reading => cases reading.symm.trans stopped
  | unwound reading | next reading => cases reading.symm.trans stopped

theorem run_lasts {channel : Channel} {r : Except Interruption Unit}
    (course : (run channel).run.Course site passed r site')
    (others : ∀ e ∈ passed, e.Passes fun q => !q.isRead) (settled : site.Settled) :
    Lasts Site.target site'.target passed := by
  have looped := run_looped course
  clear course
  induction looped with
  | last rounds => exact Rounds.lasts rounds
  | @unwound set _ site ready _ _ _ _ dispatches =>
      have waited : Passage false site.awaiting ready := others _ List.mem_cons_self
      have awake := waited.settled ((site.awaiting_passage false).settled settled)
      have passes := passes_of_dispatch dispatches fun e mem => others e (List.mem_cons_of_mem _ mem)
      refine ⟨fun gone => ?_, dispatch_lasts dispatches passes awake⟩
      obtain ⟨told, target, -⟩ := dispatch_silent (awake gone).2 dispatches
      exact ⟨by rw [target]; exact gone, told⟩
  | @next set _ site ready between _ _ _ _ _ _ dispatches looped ih =>
      have waited : Passage false site.awaiting ready := others _ List.mem_cons_self
      have awake := waited.settled ((site.awaiting_passage false).settled settled)
      have following := fun e mem => others e (List.mem_cons_of_mem _ mem)
      have passes := passes_of_dispatch dispatches fun e mem => following e (List.mem_append_left _ mem)
      obtain ⟨settles, -⟩ := dispatch_settled dispatches passes awake
      have onward := ih (fun e mem => following e (List.mem_append_right _ mem)) settles
      refine ⟨fun gone => ?_, ?_⟩
      · obtain ⟨told, target, -⟩ := dispatch_silent (awake gone).2 dispatches
        rw [← target] at gone
        obtain ⟨last, told'⟩ := looped.silent_of_gone settles gone
        exact ⟨last, List.forall_mem_append.mpr ⟨told, told'⟩⟩
      · exact Lasts.append (dispatch_lasts dispatches passes awake) (looped.silent_of_gone settles) onward

end Site

end Dispatching

/-! ### Undertakings and chronicles -/

namespace Site

variable {site site' : Site} {passed : List (Exchange Site)} {undertaking : Undertaking}

theorem control_lasts {wish : Target.Control} {r : Except Fault Unit}
    (course : (onTarget wish.attempt).run.Course site passed r site')
    (others : ∀ e ∈ passed, e.Passes fun _ => true) : Lasts Site.target site'.target passed := by
  cases alive : site.target.isTerminated with
  | true =>
      obtain ⟨rfl, -⟩ := (control_iff_of_gone alive).mp course
      trivial
  | false =>
      have promised : ∀ q before reply after, .asked q before reply after ∈ passed →
          before.target.isTerminated = false → after.target.isTerminated = false :=
        fun q before reply after mem => Passage.alive (others (.asked q before reply after) mem) rfl
      have keeps := onTarget_keeps (wish.keeps Target.stable_alive)
      obtain ⟨-, shown⟩ := keeps _ _ _ _ course alive fun e mem => by
        cases e with
        | told n => trivial
        | asked q before reply after => exact promised q before reply after mem
      exact .of_alive fun q before reply after mem =>
        promised q before reply after mem (shown q before reply after mem)

theorem Undertaking.lasts (course : undertaking.Course site passed site')
    (other : undertaking.isEvaluation = false) (others : ∀ e ∈ passed, e.Passes undertaking.holds)
    (settled : site.Settled) : Lasts Site.target site'.target passed := by
  cases undertaking with
  | dispatch set =>
      obtain ⟨r, course⟩ := course
      exact dispatch_lasts course others settled
  | run channel =>
      obtain ⟨r, course⟩ := course
      exact run_lasts course others settled
  | control wish =>
      obtain ⟨r, course⟩ := course
      exact control_lasts course others
  | focus thread =>
      obtain ⟨r, course⟩ := course
      obtain ⟨rfl, -⟩ := focus_course course
      trivial
  | evaluate => cases other
  | subscribe change =>
      obtain ⟨_, course⟩ := course
      obtain ⟨rfl, -⟩ := Course.update_iff.mp course
      trivial
  | shutdown =>
      obtain ⟨_, course⟩ := course
      obtain ⟨later, updated, rfl⟩ := Course.tell_bind_iff.mp course
      obtain ⟨rfl, -⟩ := Course.update_iff.mp updated
      trivial

/-- What may come of a site, with the end of its target seen to the end. -/
structure Prospect (taken : Bool) (before : Site) (trace : List Incident) (after : Site) : Prop where
  passage : Passage taken before after
  gone : before.Settled → before.target.isTerminated = true → after.target.isTerminated = true
  seen : before.Settled → ∀ q site, .asks q site ∈ trace → site.target.isTerminated = true →
    after.target.isTerminated = true

namespace Prospect

variable {taken : Bool} {first second third : Site} {head tail : List Incident}

theorem refl (site : Site) : Prospect taken site [] site :=
  ⟨.refl site, fun _ => id, fun _ _ _ mem => nomatch mem⟩

theorem trans (former : Prospect taken first head second) (latter : Prospect taken second tail third) :
    Prospect taken first (head ++ tail) third where
  passage := former.passage.trans latter.passage
  gone settled gone := latter.gone (former.passage.settled settled) (former.gone settled gone)
  seen settled q site mem gone := by
    have between := former.passage.settled settled
    rcases List.mem_append.mp mem with mem | mem
    · exact latter.gone between (former.seen settled q site mem gone)
    · exact latter.seen between q site mem gone

theorem weaken (prospect : Prospect true first head second) : Prospect false first head second :=
  ⟨prospect.passage.weaken nofun, prospect.gone, prospect.seen⟩

end Prospect

/-- What is asked for in some episodes is asked for by those who wait in them, or meanwhile. -/
theorem asks_of_happened {episodes : List Episode} {q : Request} {site : Site}
    (mem : .asks q site ∈ happened episodes) :
    ∃ q' s reply t meanwhile, ⟨.asked q' s reply t, meanwhile⟩ ∈ episodes ∧
      (site = s ∨ .asks q site ∈ meanwhile) := by
  obtain ⟨⟨exchange, meanwhile⟩, found, inside⟩ := List.mem_flatMap.mp mem
  cases exchange with
  | told n => simp [Episode.incidents] at inside
  | asked q' s reply t =>
      refine ⟨q', s, reply, t, meanwhile, found, ?_⟩
      have parts : .asks q site ∈ .asks q' s :: (meanwhile ++ [.gets q' reply t]) := inside
      rcases List.mem_cons.mp parts with same | parts
      · cases same
        exact .inl rfl
      · exact .inr (by simpa using parts)

/-- What comes of a site in an undertaking, and up to each of its requests. -/
theorem Undertaking.prospect {taken : Bool} {episodes : List Episode}
    (other : undertaking.isEvaluation = false) (allowed : taken = true → ¬ undertaking.Enters site)
    (course : undertaking.Course site (episodes.map Episode.exchange) site')
    (others : ∀ q s reply t meanwhile, ⟨.asked q s reply t, meanwhile⟩ ∈ episodes →
      Prospect (taken || undertaking.holds q) s meanwhile t) :
    Prospect taken site (happened episodes) site' ∧
      ∀ front q here reply there meanwhile rest,
        episodes = front ++ ⟨.asked q here reply there, meanwhile⟩ :: rest →
        Prospect taken site (happened front ++ [.asks q here]) here := by
  have passes : ∀ e ∈ episodes.map Episode.exchange, e.Passes fun q => taken || undertaking.holds q := by
    intro e mem
    obtain ⟨⟨exchange, meanwhile⟩, found, rfl⟩ := List.mem_map.mp mem
    cases exchange with
    | told n => trivial
    | asked q s reply t => exact (others q s reply t meanwhile found).passage
  obtain ⟨last, shown⟩ := Undertaking.passage course allowed passes
  have lasts : site.Settled → Lasts Site.target site'.target (episodes.map Episode.exchange) := by
    refine Undertaking.lasts course other fun e mem => ?_
    have passes := passes e mem
    cases e with
    | told n => trivial
    | asked q s reply t => exact passes.weaken fun holds => by simp [holds]
  -- Where a request was put to a target that was gone, the reply comes when it is gone.
  have replied : site.Settled → ∀ q u, ∀ part ⊆ episodes, .asks q u ∈ happened part →
      u.target.isTerminated = true → ∃ q' s reply t,
        .asked q' s reply t ∈ part.map Episode.exchange ∧ t.target.isTerminated = true := by
    intro settled q u part within mem gone
    obtain ⟨q', s, reply, t, meanwhile, found, seen⟩ := asks_of_happened mem
    have exchanged : .asked q' s reply t ∈ part.map Episode.exchange :=
      List.mem_map_of_mem (f := Episode.exchange) found
    have prospect := others q' s reply t meanwhile (within found)
    have before := (shown q' s reply t (List.map_subset _ within exchanged)).settled settled
    refine ⟨q', s, reply, t, exchanged, ?_⟩
    rcases seen with rfl | seen
    · exact prospect.gone before gone
    · exact prospect.seen before q u seen gone
  refine ⟨⟨last, ?_, ?_⟩, ?_⟩
  · intro settled gone
    rw [(Undertaking.silent course gone settled).2]
    exact gone
  · intro settled q u mem gone
    obtain ⟨q', s, reply, t, exchanged, there⟩ := replied settled q u episodes (List.Subset.refl _) mem gone
    exact (lasts settled).gone exchanged there
  · rintro front q here reply there meanwhile rest rfl
    have mem : .asked q here reply there ∈
        (front ++ ⟨.asked q here reply there, meanwhile⟩ :: rest).map Episode.exchange := by simp
    refine ⟨shown q here reply there mem, ?_, ?_⟩
    · intro settled gone
      obtain ⟨n, impossible⟩ := (Undertaking.silent course gone settled).1 _ mem
      cases impossible
    · intro settled q' u asks gone
      rcases List.mem_append.mp asks with asks | asks
      · obtain ⟨q₁, s, reply₁, t, exchanged, after⟩ :=
          replied settled q' u front (List.subset_append_left _ _) asks gone
        have lasts := lasts settled
        rw [List.map_append] at lasts
        cases after.symm.trans (lasts.not_asked exchanged)
      · cases List.mem_singleton.mp asks
        exact gone

/-- Where a request was put to a target that was gone, the target is gone for good. -/
theorem Chronicle.gone {start moment : Moment} {trace : List Incident}
    (chronicle : Chronicle start trace moment) (settled : start.site.Settled) {q : Request} {site : Site}
    (mem : .asks q site ∈ trace) (gone : site.target.isTerminated = true) :
    moment.site.target.isTerminated = true :=
  (chronicle.rel (R := Prospect) (fun _ => .refl) .trans .weaken
    fun _ _ _ _ _ => Undertaking.prospect).1.seen settled q site mem gone

end Site

end RemoteDebug
