import RemoteDebug.Proofs.Audit
import RemoteDebug.Proofs.Finality
import RemoteDebug.Proofs.Upkeep

/-!
The requests of steps, over whole histories.

If the target grants no request twice, the requests are in order at any moment: no two threads wait for the
same one, a pending step is never replaced by another, and a request is deleted at most once, after it was
granted and when nobody waits for it any more (`step_requests_in_order`). All of this is read off the books
of pending steps, which are those of the model at every moment that a history leads to.
-/

namespace RemoteDebug

open Books

/-! ### Grants and deletions -/

namespace Incident

/-- The request for a step that is granted. -/
def granted? : Incident → Option RequestRef
  | .gets (.call (.requestStep _ _)) (.ok request) _ => some request
  | _ => none

/-- The request whose deletion is asked for. -/
def deletion? : Incident → Option RequestRef
  | .asks (.call (.deleteRequest request)) _ => some request
  | _ => none

/-- The site that is handed over or comes back. -/
def site? : Incident → Option Site
  | .told _ => none
  | .asks _ site | .gets _ _ site => some site

variable {incident : Incident}

theorem issued_of_booked : incident.booked?.bind Entry.issued? = incident.granted? := by
  cases incident with
  | told note =>
      simp only [booked?, granted?, Note.booked?]
      split <;> rfl
  | asks request site =>
      simp only [booked?, granted?, Request.booked?]
      split <;> try split
      all_goals rfl
  | gets request reply site =>
      cases request with
      | call c => cases c <;> first | rfl | (cases reply <;> rfl)
      | _ => rfl

theorem deleted_of_booked : incident.booked?.bind Entry.deleted? = incident.deletion? := by
  cases incident with
  | told note =>
      simp only [booked?, deletion?, Note.booked?]
      split <;> rfl
  | asks request site =>
      cases request with
      | call c => cases c <;> rfl
      | hook notice =>
          change (Request.booked? (.hook notice) site.target).bind Entry.deleted? = none
          cases notice with
          | exit | disconnect =>
              simp only [Request.booked?]
              split <;> rfl
          | _ => rfl
      | _ => rfl
  | gets request reply site =>
      cases request with
      | call c => cases c <;> first | rfl | (cases reply <;> rfl)
      | _ => rfl

theorem eq_gets_of_booked {thread : ThreadRef} {step : PendingStep}
    (booked : incident.booked? = some (.issued thread step)) :
    ∃ site, incident = .gets (.call (.requestStep thread step.kind)) (.ok step.request) site := by
  cases incident with
  | told note =>
      simp only [booked?, Note.booked?] at booked
      split at booked <;> cases booked
  | asks request site =>
      simp only [booked?, Request.booked?] at booked
      split at booked <;> try split at booked
      all_goals cases booked
  | gets request reply site =>
      simp only [booked?, Request.settled?] at booked
      split at booked
      · cases booked
        exact ⟨site, rfl⟩
      · cases booked

end Incident

/-- The requests for steps that are granted, in order. -/
def granted (trace : List Incident) : List RequestRef := trace.filterMap Incident.granted?

/-- The requests whose deletion is asked for, in order. -/
def deletions (trace : List Incident) : List RequestRef := trace.filterMap Incident.deletion?

theorem issued_entries (trace : List Incident) : issued (entries trace) = granted trace := by
  simp only [issued, entries, granted, List.filterMap_filterMap, Incident.issued_of_booked]

theorem deleted_entries (trace : List Incident) : deleted (entries trace) = deletions trace := by
  simp only [deleted, entries, deletions, List.filterMap_filterMap, Incident.deleted_of_booked]

/-- What is granted once in a history is granted once in its beginning. -/
theorem granted_nodup_left {first second : List Incident} (once : (granted (first ++ second)).Nodup) :
    (granted first).Nodup :=
  once.sublist ((List.sublist_append_left first second).filterMap _)

/-- The requests that threads wait for. -/
def Target.awaited (target : Target) : List RequestRef :=
  target.threads.threads.filterMap fun thread => thread.pendingStep.map PendingStep.request

namespace Target

variable {target : Target}

/-- A record in an ordered registry is the one that the books go by. -/
theorem books_of_mem (ordered : target.threads.Ordered) {thread : Thread}
    (mem : thread ∈ target.threads.threads) : target.books thread.handle = thread.pendingStep :=
  ThreadRegistry.pending_of_get? (ordered.get?_of_mem mem)

theorem mem_of_books {handle : ThreadRef} {step : PendingStep} (pending : target.books handle = some step) :
    ∃ thread ∈ target.threads.threads, thread.handle = handle ∧ thread.pendingStep = some step := by
  obtain ⟨thread, known, waits⟩ := Option.bind_eq_some_iff.mp pending
  obtain ⟨mem, same⟩ := ThreadRegistry.get?_eq_some known
  exact ⟨thread, mem, same, waits⟩

theorem mem_awaited_iff (ordered : target.threads.Ordered) {request : RequestRef} :
    request ∈ target.awaited ↔ ∃ thread step, target.books thread = some step ∧ step.request = request := by
  constructor
  · intro awaited
    obtain ⟨thread, mem, waits⟩ := List.mem_filterMap.mp awaited
    obtain ⟨step, pending, same⟩ := Option.map_eq_some_iff.mp waits
    exact ⟨thread.handle, step, (books_of_mem ordered mem).trans pending, same⟩
  · rintro ⟨handle, step, pending, rfl⟩
    obtain ⟨thread, mem, -, waits⟩ := mem_of_books pending
    exact List.mem_filterMap.mpr ⟨thread, mem, by rw [waits]; rfl⟩

/-- If no two threads are booked for the same request, all requests that are waited for are different. -/
theorem awaited_nodup (ordered : target.threads.Ordered)
    (distinct : ∀ thread thread' step step', target.books thread = some step →
      target.books thread' = some step' → step.request = step'.request → thread = thread') :
    target.awaited.Nodup := by
  refine List.pairwise_filterMap.mpr ?_
  have apart : target.threads.threads.Pairwise fun a b => a.handle ≠ b.handle :=
    List.pairwise_map.mp ordered.distinct
  refine apart.imp_of_mem fun {one two} here there differ request waits request' waits' same => ?_
  obtain ⟨step, pending, rfl⟩ := Option.map_eq_some_iff.mp waits
  obtain ⟨step', pending', rfl⟩ := Option.map_eq_some_iff.mp waits'
  exact differ (distinct _ _ step step' ((books_of_mem ordered here).trans pending)
    ((books_of_mem ordered there).trans pending') same)

end Target

/-! ### Histories from the start -/

namespace Site

/-- The site of a target that has not started, before anything is undertaken. -/
def fresh (name : String) (dispatcher : Dispatcher) : Moment := ⟨⟨{ name }, dispatcher⟩, false⟩

namespace Chronicle

variable {name : String} {dispatcher : Dispatcher} {moment between : Moment}
  {trace first second : List Incident}

theorem ordered (chronicle : Chronicle (fresh name dispatcher) trace moment) :
    moment.site.target.threads.Ordered :=
  chronicle.reaches.sound.ordered

/-- If no request is granted twice, the books of any moment hold what is known of the history. -/
theorem ledger (chronicle : Chronicle (fresh name dispatcher) trace moment) (once : (granted trace).Nodup) :
    Ledger (entries trace) moment.site.target.books := by
  rw [← issued_entries] at once
  exact Ledger.empty.follow chronicle.follows once

/-- The books of a moment take what happens from then on. -/
theorem since (head : Chronicle (fresh name dispatcher) first between)
    (whole : Chronicle (fresh name dispatcher) (first ++ second) moment)
    (once : (granted (first ++ second)).Nodup) :
    between.site.target.books.Follows (entries second) moment.site.target.books := by
  have follows := whole.follows
  rw [entries_append] at follows
  obtain ⟨books, former, latter⟩ := follows_append_iff.mp follows
  have unrepeated := granted_nodup_left once
  rw [← issued_entries] at unrepeated
  have same := Ledger.empty.follows_unique former head.follows unrepeated
  rwa [same] at latter

/-- A pending step that was not pending before was granted in between, when none was pending. -/
theorem renewed (head : Chronicle (fresh name dispatcher) first between)
    (whole : Chronicle (fresh name dispatcher) (first ++ second) moment)
    (once : (granted (first ++ second)).Nodup) {thread : ThreadRef} {step : PendingStep}
    (now : moment.site.target.books thread = some step) :
    between.site.target.books thread = some step ∨ ∃ front rest there,
      second = front ++ .gets (.call (.requestStep thread step.kind)) (.ok step.request) there :: rest ∧
      there.target.books thread = none := by
  rcases (head.since whole once).renewed now with pending | ⟨earlier, later, books, split, since, idle⟩
  · exact .inl pending
  obtain ⟨front, tail, rfl, rfl, following⟩ := List.filterMap_eq_append_iff.mp split
  obtain ⟨quiet, incident, rest, rfl, unbooked, booked, -⟩ := List.filterMap_eq_cons_iff.mp following
  obtain ⟨there, rfl⟩ := Incident.eq_gets_of_booked booked
  have place : first ++ (front ++ (quiet ++ .gets (.call (.requestStep thread step.kind))
      (.ok step.request) there :: rest)) = (first ++ (front ++ quiet)) ++
        .gets (.call (.requestStep thread step.kind)) (.ok step.request) there :: rest := by simp
  obtain ⟨taken, upto⟩ := whole.at_incident place
  rw [place] at once
  have unrepeated := granted_nodup_left once
  have there_since := head.since upto unrepeated
  have nothing : entries quiet = [] := List.filterMap_eq_nil_iff.mpr unbooked
  rw [entries_append, nothing, List.append_nil] at there_since
  have same : books = there.target.books := by
    refine (head.ledger (granted_nodup_left unrepeated)).follows_unique since there_since ?_
    rw [← List.append_assoc] at unrepeated
    have issues := granted_nodup_left unrepeated
    rwa [← issued_entries, entries_append] at issues
  exact .inr ⟨front ++ quiet, rest, there, by simp, same ▸ idle⟩

end Chronicle

end Site

/-- The requests of steps are in order, in a history that leads to a site. -/
structure StepRequests (trace : List Incident) (site : Site) : Prop where
  /-- No two threads wait for the same request. -/
  distinct : site.target.awaited.Nodup
  /-- A step that is pending in place of an earlier one was granted in between, when none was pending. -/
  lasting : ∀ front incident rest here, trace = front ++ incident :: rest → incident.site? = some here →
    ∀ thread step step', here.target.books thread = some step → site.target.books thread = some step' →
      step' = step ∨ ∃ between later there, incident :: rest = between ++
        .gets (.call (.requestStep thread step'.kind)) (.ok step'.request) there :: later ∧
        there.target.books thread = none
  /-- A request is deleted after it was granted, when nobody waits for it. -/
  proper : ∀ front request here rest, trace = front ++ .asks (.call (.deleteRequest request)) here :: rest →
    request ∈ granted front ∧ request ∉ here.target.awaited
  once : (deletions trace).Nodup
  /-- Nobody will wait for a deleted request again. -/
  closed : ∀ request ∈ deletions trace, request ∉ site.target.awaited

theorem step_requests_in_order {name : String} {dispatcher : Dispatcher} {trace : List Incident}
    {moment : Site.Moment} (chronicle : Site.Chronicle (Site.fresh name dispatcher) trace moment)
    (fresh : (granted trace).Nodup) : StepRequests trace moment.site := by
  have closed : ∀ {trace moment}, Site.Chronicle (Site.fresh name dispatcher) trace moment →
      (granted trace).Nodup → ∀ request ∈ deletions trace, request ∉ moment.site.target.awaited := by
    intro trace moment chronicle fresh request deleted awaited
    obtain ⟨thread, step, pending, rfl⟩ := (Target.mem_awaited_iff chronicle.ordered).mp awaited
    rw [← deleted_entries] at deleted
    exact ((chronicle.ledger fresh).open_ thread step pending).2.1 deleted
  constructor
  case distinct => exact Target.awaited_nodup chronicle.ordered (chronicle.ledger fresh).distinct
  case lasting =>
    rintro front incident rest here rfl at_site thread step step' before now
    have same : here.target.books thread = some step' → step' = step := by
      intro still
      exact Option.some.inj (still.symm.trans before)
    cases incident with
    | told note => cases at_site
    | asks q site =>
        cases at_site
        obtain ⟨taken, upto⟩ := chronicle.at_incident rfl
        rw [List.append_cons] at chronicle fresh
        rcases upto.renewed chronicle fresh now with still | ⟨between, later, there, rfl, idle⟩
        · exact .inl (same still)
        · exact .inr ⟨.asks q here :: between, later, there, rfl, idle⟩
    | gets q reply site =>
        cases at_site
        obtain ⟨taken, upto⟩ := chronicle.at_incident rfl
        rcases upto.renewed chronicle fresh now with still | ⟨between, later, there, split, idle⟩
        · exact .inl (same still)
        · exact .inr ⟨between, later, there, split, idle⟩
  case proper =>
    rintro front request here rest rfl
    obtain ⟨taken, upto⟩ := chronicle.at_incident rfl
    rw [List.append_cons] at fresh
    have unrepeated := granted_nodup_left fresh
    have deleted : request ∈ deletions (front ++ [.asks (.call (.deleteRequest request)) here]) := by
      simp [deletions, Incident.deletion?]
    refine ⟨?_, closed upto unrepeated request deleted⟩
    have known := ((upto.ledger unrepeated).closed request (by rwa [deleted_entries])).1
    rw [issued_entries] at known
    simpa [granted, Incident.granted?] using known
  case once =>
    rw [← deleted_entries]
    exact (chronicle.ledger fresh).once
  case closed => exact closed chronicle fresh

/-! ### Histories to look at -/

namespace StepRequests.Sample

/-- A target with two threads that does all that is asked for, but grants no step. -/
def answer : (q : Request) → q.Reply
  | .call .threads => .ok [⟨1⟩, ⟨2⟩]
  | .call (.deleteRequest _) | .call (.resume _) | .call (.resumeSet _) => .ok ()
  | .call _ => .error .disconnected
  | .hook _ => .done
  | .listen .. => .vote true
  | .read _ => ()

/-- A wish to step, the request that is granted for it, and whether the thread is resumed then. -/
structure Wish where
  thread : ThreadRef
  request : RequestRef
  resumed : Bool := true

/-- The target as it meets a wish. -/
def Wish.answer (wish : Wish) : (q : Request) → q.Reply
  | .call (.requestStep ..) => .ok wish.request
  | .call (.resume _) => if wish.resumed then .ok () else .error (.notSupported "resume")
  | q => Sample.answer q

/-- How an operation goes when nobody else is at work. -/
def going {α : Type} (answer : (q : Request) → q.Reply) (x : Operation Site α) (site : Site) :
    List (Exchange Site) × α × Site :=
  (x site).follow fun q s => (answer q, s)

def starting := going answer (Site.dispatch ⟨.all, [⟨none, .vmStart ⟨1⟩⟩]⟩).run ⟨{ name := "sample" }, {}⟩

/-- The wishes are put one after the other. -/
def stepping : List Wish → Site → List Incident × Site
  | [], site => ([], site)
  | wish :: wishes, site =>
    let step := going wish.answer (Site.onTarget (Target.step wish.thread .over)).run site
    let rest := stepping wishes step.2.2
    (happened (step.1.map (⟨·, []⟩)) ++ rest.1, rest.2)

def ending (wishes : List Wish) (happening : Happening) :=
  going answer (Site.dispatch ⟨.all, [⟨none, happening⟩]⟩).run (stepping wishes starting.2.2).2

/-- The target starts, steps are wished for, and something happens. -/
def trace (wishes : List Wish) (happening : Happening) : List Incident :=
  happened (starting.1.map (⟨·, []⟩)) ++ (stepping wishes starting.2.2).1 ++
    happened ((ending wishes happening).1.map (⟨·, []⟩))

theorem going_untouched {α : Type} (answer : (q : Request) → q.Reply) (x : Operation Site α) (site : Site) :
    ∀ q s reply t, .asked q s reply t ∈ (going answer x site).1 → t = s :=
  fun _ _ _ _ => Dialogue.follow_untouched answer (x site)

theorem going_course {α : Type} (answer : (q : Request) → q.Reply) (x : Operation Site α) (site : Site) :
    x.Course site (going answer x site).1 (going answer x site).2.1 (going answer x site).2.2 :=
  Dialogue.course_follow _ (x site)

theorem stepping_chronicle {start : Site.Moment} (wishes : List Wish) {earlier : List Incident} {site : Site}
    (chronicle : Site.Chronicle start earlier ⟨site, false⟩) :
    Site.Chronicle start (earlier ++ (stepping wishes site).1) ⟨(stepping wishes site).2, false⟩ := by
  induction wishes generalizing earlier site with
  | nil =>
      rw [stepping, List.append_nil]
      exact chronicle
  | cons wish wishes ih =>
      rw [stepping, ← List.append_assoc]
      exact ih (chronicle.alone (.control (.step wish.thread .over)) rfl nofun ⟨_, going_course _ _ _⟩
        (going_untouched _ _ _))

theorem chronicle (wishes : List Wish) (happening : Happening) :
    Site.Chronicle (Site.fresh "sample" {}) (trace wishes happening)
      ⟨(ending wishes happening).2.2, false⟩ := by
  have fresh : Site.Chronicle (Site.fresh "sample" {}) [] ⟨⟨{ name := "sample" }, {}⟩, false⟩ := .refl
  have started := fresh.alone (.dispatch ⟨.all, [⟨none, .vmStart ⟨1⟩⟩]⟩) rfl nofun
    ⟨_, going_course answer _ _⟩ (going_untouched _ _ _)
  have stepped := stepping_chronicle wishes started
  exact stepped.alone (.dispatch ⟨.all, [⟨none, happening⟩]⟩) rfl nofun ⟨_, going_course answer _ _⟩
    (going_untouched _ _ _)

/-- Both threads are to step. The second one is not resumed, and steps at the next wish. -/
def wishes : List Wish := [⟨⟨1⟩, ⟨501⟩, true⟩, ⟨⟨2⟩, ⟨502⟩, false⟩, ⟨⟨2⟩, ⟨503⟩, true⟩]

/-- The step of the first thread completes. -/
def completed : Happening := .step ⟨1⟩ ⟨⟨1⟩, 0, 0⟩

end StepRequests.Sample

open StepRequests.Sample in
theorem step_requests_in_order_stepping :
    granted (trace wishes completed) = [⟨501⟩, ⟨502⟩, ⟨503⟩] ∧
      deletions (trace wishes completed) = [⟨502⟩, ⟨501⟩] ∧
      (ending wishes completed).2.2.target.awaited = [⟨503⟩] ∧
      StepRequests (trace wishes completed) (ending wishes completed).2.2 := by
  have once : [RequestRef.mk 501, ⟨502⟩, ⟨503⟩].Nodup := by decide
  exact ⟨rfl, rfl, rfl, step_requests_in_order (chronicle _ _) once⟩

/-! ### Lost requests -/

namespace Incident

/-- The request that a thread waited for when it died. -/
def loss? : Incident → Option RequestRef
  | .told (.log (.threadDied thread)) => thread.pendingStep.map PendingStep.request
  | _ => none

theorem lost_of_booked {incident : Incident} : incident.booked?.bind Entry.lost? = incident.loss? := by
  cases incident with
  | told note =>
      cases note with
      | log entry => cases entry <;> rfl
      | report => rfl
  | asks request site =>
      simp only [booked?, loss?, Request.booked?]
      split <;> try split
      all_goals rfl
  | gets request reply site =>
      cases request with
      | call c => cases c <;> first | rfl | (cases reply <;> rfl)
      | _ => rfl

/-- The model is released when the hook hears of the end. -/
theorem eq_asks_of_booked {incident : Incident} (booked : incident.booked? = some .released) :
    ∃ q site, incident = .asks q site ∧ site.target.isTerminated = true := by
  cases incident with
  | told note =>
      simp only [booked?, Note.booked?] at booked
      split at booked <;> cases booked
  | asks request site =>
      refine ⟨request, site, rfl, ?_⟩
      simp only [booked?, Request.booked?] at booked
      split at booked <;> try split at booked
      all_goals first | assumption | cases booked
  | gets request reply site =>
      simp only [booked?, Request.settled?] at booked
      split at booked <;> cases booked

/-- The incident is no failure of a call. -/
def succeeds : Incident → Bool
  | .gets (.call _) (.error _) _ => false
  | _ => true

end Incident

/-- The requests that were lost with their threads. -/
def losses (trace : List Incident) : List RequestRef := trace.filterMap Incident.loss?

theorem lost_entries (trace : List Incident) : lost (entries trace) = losses trace := by
  simp only [lost, entries, losses, List.filterMap_filterMap, Incident.lost_of_booked]

/-- While the target lives, a request that was granted is waited for or deleted, unless its thread died while
it waited for it. Then the request is forgotten: nobody waits for it, and it is never deleted. -/
theorem step_requests_kept_until_death {name : String} {dispatcher : Dispatcher} {trace : List Incident}
    {moment : Site.Moment} (chronicle : Site.Chronicle (Site.fresh name dispatcher) trace moment)
    (alive : moment.site.target.isTerminated = false) :
    (∀ request ∈ granted trace, request ∈ moment.site.target.awaited ∨ request ∈ deletions trace ∨
      request ∈ losses trace) ∧
    ((granted trace).Nodup → ∀ request ∈ losses trace,
      request ∉ moment.site.target.awaited ∧ request ∉ deletions trace) := by
  constructor
  · intro request known
    have accounted := Accounted.empty.follow chronicle.follows
    rcases accounted with released | each
    · obtain ⟨incident, mem, booked⟩ := List.mem_filterMap.mp released
      obtain ⟨q, site, rfl, gone⟩ := Incident.eq_asks_of_booked booked
      cases alive.symm.trans (chronicle.gone (.of_alive rfl) mem gone)
    · rw [Target.mem_awaited_iff chronicle.ordered, ← deleted_entries, ← lost_entries]
      rw [← issued_entries] at known
      exact each request known
  · intro once request gone
    have ledger := chronicle.ledger once
    rw [← lost_entries] at gone
    rw [Target.mem_awaited_iff chronicle.ordered, ← deleted_entries]
    constructor
    · rintro ⟨thread, step, pending, rfl⟩
      exact (ledger.open_ thread step pending).2.2 gone
    · intro deleted
      exact (ledger.closed request deleted).2 gone

open StepRequests.Sample in
theorem step_requests_kept_until_death_dying :
    (ending wishes (.threadDeath ⟨1⟩)).2.2.target.isTerminated = false ∧
      losses (trace wishes (.threadDeath ⟨1⟩)) = [⟨501⟩] ∧
      (∀ request ∈ granted (trace wishes (.threadDeath ⟨1⟩)),
        request ∈ (ending wishes (.threadDeath ⟨1⟩)).2.2.target.awaited ∨
          request ∈ deletions (trace wishes (.threadDeath ⟨1⟩)) ∨
          request ∈ losses (trace wishes (.threadDeath ⟨1⟩))) ∧
      ∀ request ∈ losses (trace wishes (.threadDeath ⟨1⟩)),
        request ∉ (ending wishes (.threadDeath ⟨1⟩)).2.2.target.awaited ∧
          request ∉ deletions (trace wishes (.threadDeath ⟨1⟩)) := by
  have once : [RequestRef.mk 501, ⟨502⟩, ⟨503⟩].Nodup := by decide
  have kept := step_requests_kept_until_death (chronicle wishes (.threadDeath ⟨1⟩)) rfl
  exact ⟨rfl, rfl, kept.1, kept.2 once⟩

/-- A thread dies with its step: every call succeeds and the target lives on, but the request of the step is
neither waited for nor deleted. -/
theorem step_request_lost :
    ∃ trace moment, Site.Chronicle (Site.fresh "sample" {}) trace moment ∧
      (∀ incident ∈ trace, incident.succeeds = true) ∧ moment.site.target.isTerminated = false ∧
      ⟨501⟩ ∈ granted trace ∧ ⟨501⟩ ∉ moment.site.target.awaited ∧ ⟨501⟩ ∉ deletions trace := by
  refine ⟨_, _, StepRequests.Sample.chronicle [⟨⟨1⟩, ⟨501⟩, true⟩] (.threadDeath ⟨1⟩),
    List.all_eq_true.mp rfl, rfl, ?_, ?_, ?_⟩
  · exact List.mem_singleton_self _
  · exact List.not_mem_nil
  · exact List.not_mem_nil

end RemoteDebug
