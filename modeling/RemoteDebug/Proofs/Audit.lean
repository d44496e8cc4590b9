import RemoteDebug.Proofs.Aftermath
import RemoteDebug.Proofs.Assembly
import RemoteDebug.Proofs.Bookkeeping
import RemoteDebug.Proofs.Chronicle

/-!
The books of pending steps over a history.

What handlers and controls enter is woven into what others enter while they wait. Whoever waits for anything
but the channel holds the mutation domain, and then nobody else touches the records of the threads
(`Site.Undertaking.outside`). So the books take all that happens in a chronicle (`Site.Chronicle.follows`).
-/

namespace RemoteDebug

open Operation Books

/-! ### Episodes -/

/-- What an incident enters. -/
def Incident.booked? : Incident → Option Books.Entry
  | .told note => note.booked?
  | .asks request site => request.booked? site.target
  | .gets request reply _ => request.settled? reply

/-- What is entered in a history. -/
def entries (trace : List Incident) : List Books.Entry := trace.filterMap Incident.booked?

@[simp] theorem entries_append (first second : List Incident) :
    entries (first ++ second) = entries first ++ entries second :=
  List.filterMap_append

@[simp] theorem entries_singleton (incident : Incident) : entries [incident] = incident.booked?.toList := by
  cases found : incident.booked? <;> simp [entries, found]

/-- What is entered while a request waits stands between the request and its reply. -/
theorem entries_asked (q : Request) (s t : Site) (reply : q.Reply) (meanwhile : List Incident) :
    entries (Episode.incidents ⟨.asked q s reply t, meanwhile⟩) =
      (q.booked? s.target).toList ++ (entries meanwhile ++ (q.settled? reply).toList) := by
  have parts : Episode.incidents ⟨.asked q s reply t, meanwhile⟩ =
      [.asks q s] ++ (meanwhile ++ [.gets q reply t]) := rfl
  simp only [parts, entries_append, entries_singleton, Incident.booked?]

theorem entries_happened_cons (episode : Episode) (episodes : List Episode) :
    entries (happened (episode :: episodes)) = entries episode.incidents ++ entries (happened episodes) :=
  entries_append _ _

/-- The books take what happens in some episodes if they take it whenever others are at work. -/
theorem Books.Along.weave {books books' : Books} {episodes : List Episode}
    (along : Along Site.target books (episodes.map Episode.exchange) books')
    (others : ∀ q s reply t meanwhile, ⟨.asked q s reply t, meanwhile⟩ ∈ episodes →
      s.target.books.Follows (entries meanwhile) t.target.books) :
    books.Follows (entries (happened episodes)) books' := by
  induction episodes generalizing books with
  | nil => exact along
  | cons episode episodes ih =>
      have rest := fun q s reply t meanwhile mem =>
        others q s reply t meanwhile (List.mem_cons_of_mem _ mem)
      rw [entries_happened_cons]
      obtain ⟨exchange, meanwhile⟩ := episode
      cases exchange with
      | told n =>
          obtain ⟨next, told, along⟩ := along
          have here : entries (Episode.incidents ⟨.told n, meanwhile⟩) = n.booked?.toList :=
            entries_singleton (.told n)
          rw [here]
          exact told.append (ih along rest)
      | asked q s reply t =>
          obtain ⟨asked, next, replied, along⟩ := along
          have waited := others q s reply t meanwhile List.mem_cons_self
          rw [entries_asked]
          exact (asked.append (waited.append replied)).append (ih along rest)

/-- Where nothing is entered by anybody, nothing is entered. -/
theorem entries_happened_of_idle {episodes : List Episode}
    (idle : ∀ e ∈ episodes.map Episode.exchange, e.Idle)
    (others : ∀ q s reply t meanwhile, ⟨.asked q s reply t, meanwhile⟩ ∈ episodes → entries meanwhile = []) :
    entries (happened episodes) = [] := by
  induction episodes with
  | nil => rfl
  | cons episode episodes ih =>
      rw [entries_happened_cons, ih (fun e mem => idle e (List.mem_cons_of_mem _ mem))
        fun q s reply t meanwhile mem => others q s reply t meanwhile (List.mem_cons_of_mem _ mem)]
      obtain ⟨exchange, meanwhile⟩ := episode
      have plain : exchange.Idle := idle _ List.mem_cons_self
      cases exchange with
      | told n =>
          have here : entries (Episode.incidents ⟨.told n, meanwhile⟩) = n.booked?.toList :=
            entries_singleton (.told n)
          rw [here, show n.booked? = none from plain]
          rfl
      | asked q s reply t =>
          rw [entries_asked, plain.booked, plain.settled, others q s reply t meanwhile List.mem_cons_self]
          rfl

/-! ### Undertakings -/

namespace Site

theorem onTarget_tracks {ε α : Type} {x : ExceptT ε (Operation Target) α} (tracks : x.run.Tracks id) :
    (onTarget x).run.Tracks Site.target := by
  intro site passed r site' course spares
  obtain ⟨course, -⟩ := onTarget_iff.mp course
  exact along_onPart_iff.mp (tracks _ _ _ _ course (Exchange.spares_onPart spares))

theorem route_tracks (event : Event) : (route event).run.Tracks Site.target := by
  intro site passed r site' course spares
  obtain ⟨r₀, heeded, -⟩ := route_iff.mp course
  exact along_onPart_iff.mp (Target.heed_tracks _ _ _ _ heeded (Exchange.spares_onPart spares))

theorem composable_tracks : Composable fun _ x => x.Tracks Site.target where
  pure _ := .pure
  bind := .bind
  read := .read
  update _ := .update fun _ => rfl
  tell remark := .tell (by cases remark <;> rfl)
  ask errand := by
    cases errand with
    | listen => exact .ask .listen
    | resumeSet => exact .ask (.call rfl)
    | read => exact .ask .read
  route := route_tracks

variable {site site' : Site} {passed : List (Exchange Site)} {undertaking : Undertaking}

/-- The books after an undertaking are those of the model it leaves. -/
theorem Undertaking.along (course : undertaking.Course site passed site')
    (other : undertaking.isEvaluation = false) (spares : ∀ e ∈ passed, e.Spares Site.target) :
    Along Site.target site.target.books passed site'.target.books := by
  cases undertaking with
  | dispatch set =>
      obtain ⟨r, course⟩ := course
      exact composable_tracks.dispatch set _ _ _ _ course spares
  | run channel =>
      obtain ⟨r, course⟩ := course
      exact composable_tracks.run channel _ _ _ _ course spares
  | control wish =>
      obtain ⟨r, course⟩ := course
      exact onTarget_tracks wish.tracks _ _ _ _ course spares
  | focus thread =>
      obtain ⟨r, course⟩ := course
      obtain ⟨rfl, rfl⟩ := focus_course course
      exact ThreadRegistry.pending_setFocus
  | evaluate => cases other
  | subscribe change =>
      obtain ⟨_, course⟩ := course
      obtain ⟨rfl, rfl⟩ := Course.update_iff.mp course
      rfl
  | shutdown =>
      obtain ⟨_, course⟩ := course
      obtain ⟨later, updated, rfl⟩ := Course.tell_bind_iff.mp course
      obtain ⟨rfl, rfl⟩ := Course.update_iff.mp updated
      exact .told rfl rfl

/-- Whoever waits for anything but the channel holds the mutation domain. -/
theorem Undertaking.holds_of_asked (course : undertaking.Course site passed site')
    (other : undertaking.isEvaluation = false) {q : Request} {s t : Site} {reply : q.Reply}
    (mem : .asked q s reply t ∈ passed) (waits : q.isRead = false) : undertaking.holds q = true := by
  cases undertaking with
  | dispatch set => rfl
  | run channel => simp [holds, waits]
  | control wish => rfl
  | focus thread =>
      obtain ⟨r, course⟩ := course
      obtain ⟨rfl, -⟩ := focus_course course
      cases mem
  | evaluate => cases other
  | subscribe change =>
      obtain ⟨_, course⟩ := course
      obtain ⟨rfl, -⟩ := Course.update_iff.mp course
      cases mem
  | shutdown =>
      obtain ⟨_, course⟩ := course
      obtain ⟨later, updated, rfl⟩ := Course.tell_bind_iff.mp course
      obtain ⟨rfl, -⟩ := Course.update_iff.mp updated
      simp at mem

/-- What leaves the mutation domain alone has nothing to enter and leaves the records of the threads to
others. -/
theorem Undertaking.outside (course : undertaking.Course site passed site')
    (other : undertaking.isEvaluation = false) (outside : ¬ undertaking.Enters site) :
    (∀ e ∈ passed, e.Idle) ∧ Carries (fun s : Site => s.target.threads.threads)
      site.target.threads.threads passed site'.target.threads.threads := by
  have failed : ∀ {failure : ChannelFailure} {u : Unit},
      (failedRead failure).Course site passed u site' →
      (∀ e ∈ passed, e.Idle) ∧ Carries (fun s : Site => s.target.threads.threads)
        site.target.threads.threads passed site'.target.threads.threads := by
    intro failure u course
    have ended : Rounds [.error failure] site [] passed site' := failedRead_course rfl course
    cases ended with
    | stopped => exact ⟨by simp [farewell, Exchange.Idle, Note.booked?], rfl⟩
    | failed => 
        refine ⟨?_, rfl, rfl⟩
        simp [farewell, Exchange.Idle, Note.booked?, Request.Idle.read]
  cases undertaking with
  | dispatch set => exact absurd trivial outside
  | control wish => exact absurd trivial outside
  | run channel =>
      obtain ⟨r, course⟩ := course
      rcases channel with _ | ⟨failure | set, rest⟩
      · obtain ⟨_, fails, -⟩ := Course.run_perform_iff.mp course
        exact failed fails
      · obtain ⟨_, fails, -⟩ := Course.run_perform_iff.mp course
        exact failed fails
      · have stopped : site.dispatcher.keepReading = false := by
          rw [← Bool.not_eq_true]
          exact fun reading => outside ⟨reading, set, rfl⟩
        obtain ⟨rfl, rfl⟩ := run_of_stopped stopped course
        exact ⟨by simp [farewell, Exchange.Idle, Note.booked?], rfl⟩
  | focus thread =>
      obtain ⟨r, course⟩ := course
      obtain ⟨rfl, rfl⟩ := focus_course course
      exact ⟨by simp, ThreadRegistry.threads_setFocus⟩
  | evaluate => cases other
  | subscribe change =>
      obtain ⟨_, course⟩ := course
      obtain ⟨rfl, rfl⟩ := Course.update_iff.mp course
      exact ⟨by simp, rfl⟩
  | shutdown =>
      obtain ⟨_, course⟩ := course
      obtain ⟨later, updated, rfl⟩ := Course.tell_bind_iff.mp course
      obtain ⟨rfl, rfl⟩ := Course.update_iff.mp updated
      exact ⟨by simp [Exchange.Idle, Note.booked?], rfl⟩

/-! ### Chronicles -/

/-- What becomes of the books from one site to another. -/
structure Booked (taken : Bool) (before : Site) (trace : List Incident) (after : Site) : Prop where
  follows : before.target.books.Follows (entries trace) after.target.books
  /-- While the mutation domain is taken nothing is entered, and the records are left alone. -/
  spared : taken = true →
    entries trace = [] ∧ after.target.threads.threads = before.target.threads.threads

namespace Booked

variable {taken : Bool} {first second third : Site} {head tail : List Incident}

theorem refl (site : Site) : Booked taken site [] site := ⟨rfl, fun _ => ⟨rfl, rfl⟩⟩

theorem trans (former : Booked taken first head second) (latter : Booked taken second tail third) :
    Booked taken first (head ++ tail) third where
  follows := by
    rw [entries_append]
    exact former.follows.append latter.follows
  spared held := by
    obtain ⟨nothing, kept⟩ := former.spared held
    obtain ⟨nothing', kept'⟩ := latter.spared held
    exact ⟨by rw [entries_append, nothing, nothing', List.nil_append], kept'.trans kept⟩

theorem weaken (booked : Booked true first head second) : Booked false first head second :=
  ⟨booked.follows, nofun⟩

end Booked

/-- What becomes of the books in an undertaking, and up to each of its requests. -/
theorem Undertaking.booked {taken : Bool} {episodes : List Episode}
    (other : undertaking.isEvaluation = false) (allowed : taken = true → ¬ undertaking.Enters site)
    (course : undertaking.Course site (episodes.map Episode.exchange) site')
    (others : ∀ q s reply t meanwhile, ⟨.asked q s reply t, meanwhile⟩ ∈ episodes →
      Booked (taken || undertaking.holds q) s meanwhile t) :
    Booked taken site (happened episodes) site' ∧
      ∀ front q here reply there meanwhile rest,
        episodes = front ++ ⟨.asked q here reply there, meanwhile⟩ :: rest →
        Booked taken site (happened front ++ [.asks q here]) here := by
  have spares : ∀ e ∈ episodes.map Episode.exchange, e.Spares Site.target := by
    intro e mem
    obtain ⟨⟨exchange, meanwhile⟩, found, rfl⟩ := List.mem_map.mp mem
    cases exchange with
    | told n => trivial
    | asked q s reply t =>
        intro waits
        have holds := Undertaking.holds_of_asked course other mem waits
        exact ((others q s reply t meanwhile found).spared (by simp [holds])).2
  have along := Undertaking.along course other spares
  have quiet : taken = true → (∀ e ∈ episodes.map Episode.exchange, e.Idle) ∧
      (∀ q s reply t meanwhile, ⟨.asked q s reply t, meanwhile⟩ ∈ episodes → entries meanwhile = []) ∧
      site'.target.threads.threads = site.target.threads.threads ∧
      ∀ q s reply t, .asked q s reply t ∈ episodes.map Episode.exchange →
        s.target.threads.threads = site.target.threads.threads := by
    intro held
    obtain ⟨idle, carries⟩ := Undertaking.outside course other (allowed held)
    have spared := fun q s reply t meanwhile mem =>
      (others q s reply t meanwhile mem).spared (by simp [held])
    obtain ⟨last, each⟩ := carries.rel (R := fun first last => last = first) (fun _ => rfl)
      (fun head tail => tail.trans head) fun q s reply t mem => by
        obtain ⟨⟨exchange, meanwhile⟩, found, rfl⟩ := List.mem_map.mp mem
        exact (spared q s reply t meanwhile found).2
    exact ⟨idle, fun q s reply t meanwhile mem => (spared q s reply t meanwhile mem).1, last, each⟩
  refine ⟨⟨along.weave fun q s reply t meanwhile mem => (others q s reply t meanwhile mem).follows, ?_⟩, ?_⟩
  · intro held
    obtain ⟨idle, waited, last, -⟩ := quiet held
    exact ⟨entries_happened_of_idle idle waited, last⟩
  · rintro front q here reply there meanwhile rest rfl
    rw [List.map_append, List.map_cons, along_append_iff] at along
    obtain ⟨between, former, asked, -⟩ := along
    have follows := former.weave fun q s reply t meanwhile mem =>
      (others q s reply t meanwhile (List.mem_append_left _ mem)).follows
    constructor
    · rw [entries_append, entries_singleton]
      exact follows.append asked
    · intro held
      obtain ⟨idle, waited, -, each⟩ := quiet held
      rw [List.map_append] at idle each
      have before := entries_happened_of_idle (fun e mem => idle e (List.mem_append_left _ mem))
        fun q s reply t meanwhile mem => waited q s reply t meanwhile (List.mem_append_left _ mem)
      have plain : q.Idle := idle _ (List.mem_append_right _ List.mem_cons_self)
      refine ⟨?_, each q here reply there (List.mem_append_right _ List.mem_cons_self)⟩
      rw [entries_append, before, entries_singleton, Incident.booked?, plain.booked]
      rfl

/-- The books take all that happens in a chronicle. -/
theorem Chronicle.follows {start moment : Moment} {trace : List Incident}
    (chronicle : Chronicle start trace moment) :
    start.site.target.books.Follows (entries trace) moment.site.target.books :=
  (chronicle.rel (R := Booked) (fun _ => .refl) .trans .weaken
    fun _ _ _ _ _ => Undertaking.booked).1.follows

end Site

end RemoteDebug
