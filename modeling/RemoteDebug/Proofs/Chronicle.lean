import RemoteDebug.Proofs.Undertaking

/-!
Histories with all that happens in them.

`Site.Reaches` says which moments can come; a chronicle also says what has happened on the way. It is a
list of incidents: what is told, what is asked for, and the replies. While somebody waits for a reply,
others go on, so what they do stands between the request and its reply.

* `Site.Chronicle` joins undertakings to chronicles. Evaluations are left out of them: they do nothing to
  the model.
* `Chronicle.reaches` forgets what has happened.
* `Chronicle.at_incident`: whatever is asked for or replied, the chronicle up to there is one of its own.
* `Chronicle.rel` is the law of induction: what relates the two ends of each undertaking to what happens
  in it relates the two ends of a chronicle.
-/

namespace RemoteDebug

/-- What can happen at a site. -/
inductive Incident where
  | told (note : Note)
  /-- Something is asked for, and the site is handed over. -/
  | asks (request : Request) (site : Site)
  /-- The reply arrives, and the site comes back. -/
  | gets (request : Request) (reply : request.Reply) (site : Site)

/-- An exchange, and what others do while it waits. -/
structure Episode where
  exchange : Exchange Site
  meanwhile : List Incident

/-- What happens in an episode. -/
def Episode.incidents (episode : Episode) : List Incident :=
  match episode.exchange with
  | .told note => [.told note]
  | .asked request before reply after =>
    .asks request before :: (episode.meanwhile ++ [.gets request reply after])

/-- What happens in some episodes. -/
def happened (episodes : List Episode) : List Incident := episodes.flatMap Episode.incidents

/-- What happens up to a request comes first. -/
theorem happened_waiting (front rest : List Episode) (q : Request) (here there : Site) (reply : q.Reply)
    (meanwhile : List Incident) :
    happened (front ++ ⟨.asked q here reply there, meanwhile⟩ :: rest) =
      (happened front ++ [.asks q here]) ++ (meanwhile ++ .gets q reply there :: happened rest) := by
  simp [happened, Episode.incidents]

/-- A place in a list that is put together is a place in one of its parts. -/
theorem append_split {α : Type} {first second front rest : List α} {x : α}
    (split : first ++ second = front ++ x :: rest) :
    (∃ more, first = front ++ x :: more) ∨ ∃ more, front = first ++ more ∧ second = more ++ x :: rest := by
  rcases List.append_eq_append_iff.mp split with ⟨more, rfl, same⟩ | ⟨more, rfl, same⟩
  · exact .inr ⟨more, rfl, same⟩
  · cases more with
    | nil => exact .inr ⟨[], by simp, same.symm⟩
    | cons y more =>
        cases same
        exact .inl ⟨more, rfl⟩

/-- An incident of some episodes is an incident of one of them. -/
theorem happened_split {episodes : List Episode} {front rest : List Incident} {incident : Incident}
    (split : happened episodes = front ++ incident :: rest) :
    ∃ earlier episode later before after, episodes = earlier ++ episode :: later ∧
      episode.incidents = before ++ incident :: after ∧ front = happened earlier ++ before := by
  induction episodes generalizing front with
  | nil => simp [happened] at split
  | cons episode episodes ih =>
      have whole : episode.incidents ++ happened episodes = front ++ incident :: rest := split
      rcases append_split whole with ⟨more, here⟩ | ⟨more, rfl, later⟩
      · exact ⟨[], episode, episodes, front, more, rfl, here, rfl⟩
      · obtain ⟨earlier, other, others, before, after, rfl, inside, rfl⟩ := ih later
        exact ⟨episode :: earlier, other, others, before, after, rfl, inside, by simp [happened]⟩

/-- Surroundings that only answer leave the shared state as it was. -/
theorem Dialogue.follow_untouched {σ α : Type} (answer : (q : Request) → q.Reply) (d : Dialogue σ α)
    {q : Request} {s t : σ} {reply : q.Reply}
    (mem : .asked q s reply t ∈ (d.follow fun q s => (answer q, s)).1) : t = s := by
  induction d with
  | done => cases mem
  | note n rest ih => exact ih () (by simpa [Dialogue.follow] using mem)
  | ask q' s' next ih =>
      rcases List.mem_cons.mp mem with same | mem
      · cases same
        rfl
      · exact ih _ _ mem

namespace Site

/-- An expression is evaluated. -/
def Undertaking.isEvaluation : Undertaking → Bool
  | .evaluate .. => true
  | _ => false

/-- `Chronicle start trace moment`: undertakings in sequence lead from `start` to `moment`, and `trace` is
what happens on the way. -/
inductive Chronicle : Moment → List Incident → Moment → Prop where
  | refl {moment : Moment} : Chronicle moment [] moment
  | done {start : Moment} {earlier : List Incident} {before after : Site} {taken : Bool}
      {episodes : List Episode} (undertaking : Undertaking) :
      Chronicle start earlier ⟨before, taken⟩ → undertaking.isEvaluation = false →
      (taken = true → ¬ undertaking.Enters before) →
      undertaking.Course before (episodes.map Episode.exchange) after →
      (∀ q s reply t meanwhile, ⟨.asked q s reply t, meanwhile⟩ ∈ episodes →
        Chronicle ⟨s, taken || undertaking.holds q⟩ meanwhile ⟨t, taken || undertaking.holds q⟩) →
      Chronicle start (earlier ++ happened episodes) ⟨after, taken⟩
  | waiting {start : Moment} {earlier meanwhile : List Incident} {before after here there : Site}
      {taken : Bool} {front rest : List Episode} {q : Request} {reply : q.Reply}
      (undertaking : Undertaking) :
      Chronicle start earlier ⟨before, taken⟩ → undertaking.isEvaluation = false →
      (taken = true → ¬ undertaking.Enters before) →
      undertaking.Course before
        ((front ++ ⟨.asked q here reply there, meanwhile⟩ :: rest).map Episode.exchange) after →
      (∀ q' s reply' t meanwhile',
        ⟨.asked q' s reply' t, meanwhile'⟩ ∈ front ++ ⟨.asked q here reply there, meanwhile⟩ :: rest →
        Chronicle ⟨s, taken || undertaking.holds q'⟩ meanwhile' ⟨t, taken || undertaking.holds q'⟩) →
      Chronicle start (earlier ++ (happened front ++ [.asks q here])) ⟨here, taken || undertaking.holds q⟩

namespace Chronicle

variable {start between moment : Moment} {trace : List Incident}

theorem trans {first second : List Incident} (head : Chronicle start first between)
    (tail : Chronicle between second moment) : Chronicle start (first ++ second) moment := by
  induction tail with
  | refl =>
      rw [List.append_nil]
      exact head
  | done undertaking _ other allowed course others before _ =>
      rw [← List.append_assoc]
      exact .done undertaking (before head) other allowed course others
  | waiting undertaking _ other allowed course others before _ =>
      rw [← List.append_assoc]
      exact .waiting undertaking (before head) other allowed course others

/-- Nobody else is at work while the undertaking waits. -/
theorem alone {earlier : List Incident} {before after : Site} {taken : Bool} {passed : List (Exchange Site)}
    (chronicle : Chronicle start earlier ⟨before, taken⟩) (undertaking : Undertaking)
    (other : undertaking.isEvaluation = false) (allowed : taken = true → ¬ undertaking.Enters before)
    (course : undertaking.Course before passed after)
    (untouched : ∀ q s reply t, .asked q s reply t ∈ passed → t = s) :
    Chronicle start (earlier ++ happened (passed.map (⟨·, []⟩))) ⟨after, taken⟩ := by
  have exchanges : (passed.map (⟨·, []⟩)).map Episode.exchange = passed := by simp [Function.comp_def]
  refine .done undertaking chronicle other allowed (by rwa [exchanges]) ?_
  intro q s reply t meanwhile mem
  obtain ⟨e, here, same⟩ := List.mem_map.mp mem
  cases same
  rw [untouched q s reply t here]
  exact .refl

/-- What can be told of can be reached. -/
theorem reaches (chronicle : Chronicle start trace moment) : Reaches start moment := by
  have exchanged : ∀ {episodes : List Episode} {held : Request → Bool},
      (∀ q s reply t meanwhile, ⟨.asked q s reply t, meanwhile⟩ ∈ episodes →
        Reaches ⟨s, held q⟩ ⟨t, held q⟩) →
      ∀ q s reply t, .asked q s reply t ∈ episodes.map Episode.exchange →
        Reaches ⟨s, held q⟩ ⟨t, held q⟩ := by
    intro episodes held others q s reply t mem
    obtain ⟨⟨exchange, meanwhile⟩, here, rfl⟩ := List.mem_map.mp mem
    exact others q s reply t meanwhile here
  induction chronicle with
  | refl => exact .refl
  | done undertaking _ _ allowed course _ before others =>
      exact .done undertaking before allowed course (exchanged others)
  | waiting undertaking _ _ allowed course _ before others =>
      exact .waiting undertaking before allowed course (exchanged others)
        (List.mem_map_of_mem (f := Episode.exchange) (List.mem_append_right _ List.mem_cons_self))

/-- The incident comes when `front` has happened: a chronicle leads to its site, with the request but
without the reply. -/
def At (start : Moment) (front : List Incident) : Incident → Prop
  | .told _ => True
  | .asks q site => ∃ taken, Chronicle start (front ++ [.asks q site]) ⟨site, taken⟩
  | .gets _ _ site => ∃ taken, Chronicle start front ⟨site, taken⟩

theorem At.after {front : List Incident} {incident : Incident} (at_incident : At between front incident)
    (chronicle : Chronicle start trace between) : At start (trace ++ front) incident := by
  cases incident with
  | told note => trivial
  | asks q site =>
      obtain ⟨taken, further⟩ := at_incident
      refine ⟨taken, ?_⟩
      rw [List.append_assoc]
      exact chronicle.trans further
  | gets q reply site =>
      obtain ⟨taken, further⟩ := at_incident
      exact ⟨taken, chronicle.trans further⟩

/-- An incident in an undertaking that follows on a chronicle. -/
theorem at_happened {earlier front rest : List Incident} {before after : Site} {taken : Bool}
    {episodes : List Episode} {undertaking : Undertaking} {incident : Incident}
    (chronicle : Chronicle start earlier ⟨before, taken⟩) (other : undertaking.isEvaluation = false)
    (allowed : taken = true → ¬ undertaking.Enters before)
    (course : undertaking.Course before (episodes.map Episode.exchange) after)
    (others : ∀ q s reply t meanwhile, ⟨.asked q s reply t, meanwhile⟩ ∈ episodes →
      Chronicle ⟨s, taken || undertaking.holds q⟩ meanwhile ⟨t, taken || undertaking.holds q⟩)
    (inside : ∀ q s reply t meanwhile, ⟨.asked q s reply t, meanwhile⟩ ∈ episodes →
      ∀ {front rest incident}, meanwhile = front ++ incident :: rest →
        At ⟨s, taken || undertaking.holds q⟩ front incident)
    (split : happened episodes = front ++ incident :: rest) : At start (earlier ++ front) incident := by
  obtain ⟨former, ⟨exchange, meanwhile⟩, later, first, last, rfl, within, rfl⟩ := happened_split split
  cases exchange with
  | told note =>
      have only : [Incident.told note] = first ++ incident :: last := within
      obtain ⟨-, same⟩ := List.append_eq_singleton_iff.mp only.symm |>.resolve_right (by simp)
      cases same
      trivial
  | asked q s reply t =>
      have waits := Chronicle.waiting undertaking chronicle other allowed course others
      have mem : ⟨.asked q s reply t, meanwhile⟩ ∈ former ++ ⟨.asked q s reply t, meanwhile⟩ :: later :=
        List.mem_append_right _ List.mem_cons_self
      have whole : .asks q s :: (meanwhile ++ [.gets q reply t]) = first ++ incident :: last := within
      rcases List.cons_eq_append_iff.mp whole with ⟨rfl, same⟩ | ⟨first, rfl, following⟩
      · cases same
        rw [List.append_nil]
        exact ⟨_, by rw [List.append_assoc]; exact waits⟩
      · have shift : earlier ++ (happened former ++ .asks q s :: first) =
            earlier ++ (happened former ++ [.asks q s]) ++ first := by simp
        rw [shift]
        refine At.after ?_ waits
        rcases append_split following with ⟨more, within⟩ | ⟨more, rfl, only⟩
        · exact inside q s reply t meanwhile mem within
        · obtain ⟨rfl, same⟩ := List.append_eq_singleton_iff.mp only.symm |>.resolve_right (by simp)
          cases same
          rw [List.append_nil]
          exact ⟨_, others q s reply t meanwhile mem⟩

/-- Up to a request, and up to just before a reply, there is a chronicle that ends at the site of the
incident. -/
theorem at_incident (chronicle : Chronicle start trace moment) {front rest : List Incident}
    {incident : Incident} (split : trace = front ++ incident :: rest) : At start front incident := by
  induction chronicle generalizing front rest incident with
  | refl => simp at split
  | done undertaking told other allowed course others before inside =>
      rcases append_split split with ⟨more, earlier⟩ | ⟨more, rfl, later⟩
      · exact before earlier
      · exact at_happened told other allowed course others inside later
  | @waiting _ _ meanwhile _ _ here there _ former following q reply undertaking told other allowed course
      others before inside =>
      rcases append_split split with ⟨more, earlier⟩ | ⟨more, rfl, later⟩
      · exact before earlier
      · have whole := happened_waiting former following q here there reply meanwhile
        rw [later, List.append_assoc, List.cons_append] at whole
        exact at_happened told other allowed course others inside whole

/-- What relates the ends of undertakings to what happens in them, relates the ends of a chronicle. -/
theorem rel {R : Bool → Site → List Incident → Site → Prop} (refl : ∀ taken site, R taken site [] site)
    (trans : ∀ {taken a b c first second}, R taken a first b → R taken b second c →
      R taken a (first ++ second) c)
    (weaken : ∀ {a b trace}, R true a trace b → R false a trace b)
    (undertakes : ∀ (undertaking : Undertaking) taken before episodes after,
      undertaking.isEvaluation = false → (taken = true → ¬ undertaking.Enters before) →
      undertaking.Course before (episodes.map Episode.exchange) after →
      (∀ q s reply t meanwhile, ⟨.asked q s reply t, meanwhile⟩ ∈ episodes →
        R (taken || undertaking.holds q) s meanwhile t) →
      R taken before (happened episodes) after ∧
        ∀ front q here reply there meanwhile rest,
          episodes = front ++ ⟨.asked q here reply there, meanwhile⟩ :: rest →
          R taken before (happened front ++ [.asks q here]) here)
    (chronicle : Chronicle start trace moment) :
    R start.taken start.site trace moment.site ∧ (start.taken = true → moment.taken = true) := by
  have weaker : ∀ {held taken a b trace}, (held = true → taken = true) → R taken a trace b →
      R held a trace b := by
    intro held taken a b trace kept holds
    cases held with
    | true =>
        rw [kept rfl] at holds
        exact holds
    | false =>
        cases taken with
        | true => exact weaken holds
        | false => exact holds
  induction chronicle with
  | refl => exact ⟨refl _ _, id⟩
  | done undertaking _ other allowed course _ before others =>
      obtain ⟨first, kept⟩ := before
      have undertaken := undertakes undertaking _ _ _ _ other allowed course fun q s reply t meanwhile mem =>
        (others q s reply t meanwhile mem).1
      exact ⟨trans first (weaker kept undertaken.1), kept⟩
  | waiting undertaking _ other allowed course _ before others =>
      obtain ⟨first, kept⟩ := before
      have undertaken := undertakes undertaking _ _ _ _ other allowed course fun q s reply t meanwhile mem =>
        (others q s reply t meanwhile mem).1
      refine ⟨trans first (weaker kept (undertaken.2 _ _ _ _ _ _ _ rfl)), fun held => ?_⟩
      rw [Bool.or_eq_true]
      exact .inl (kept held)

end Chronicle

end Site

end RemoteDebug
