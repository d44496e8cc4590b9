import Mathlib.Logic.Function.Basic
import RemoteDebug.Proofs.Registry

/-!
The books of pending steps.

The request of a step is issued for a thread, and it is over when the request is deleted, when the thread
dies or when the model of the target is released. `Books` say which step is pending in which thread, and
`Books.Takes` which entries they can take: a step is entered only where none is pending, and a request is
deleted only while its step is pending.

* `Books.Follows` lets the books take entries one after another.
* `Ledger` is the invariant if no request is issued twice: pending steps have different requests, and no
  request is deleted twice or while it is pending. `Accounted` is the invariant in any case: no issued
  request is forgotten.
* `Books.Follows.renewed`: between two steps of a thread there is a moment without one.
-/

namespace RemoteDebug

/-- The pending steps by thread. -/
abbrev Books := ThreadRef → Option PendingStep

/-- The step that is pending in a thread, if it is a known one. -/
def ThreadRegistry.pending (registry : ThreadRegistry) : Books := fun handle =>
  (registry.get? handle).bind Thread.pendingStep

@[simp] theorem Thread.setStatus_pendingStep (thread : Thread) (status : ThreadStatus) :
    (thread.setStatus status).pendingStep = thread.pendingStep := by
  unfold setStatus
  split <;> rfl

namespace ThreadRegistry

variable {registry : ThreadRegistry} {handle : ThreadRef}

theorem pending_of_get? {thread : Thread} (known : registry.get? handle = some thread) :
    registry.pending handle = thread.pendingStep := by
  simp [pending, known]

/-- The books know only the records. -/
theorem pending_congr {other : ThreadRegistry} (same : other.threads = registry.threads) :
    other.pending = registry.pending := by
  unfold pending get?
  rw [same]

@[simp] theorem pending_register : (registry.register handle).pending = registry.pending := by
  unfold register
  split
  · rfl
  funext other
  cases known : registry.threads.find? (·.handle = other) with
  | some thread => simp [pending, get?, known]
  | none =>
      by_cases here : handle = other
      · simp [pending, get?, known, Thread.appear, here]
      · simp [pending, get?, known, Thread.appear, here]

@[simp] theorem pending_registerAll (handles : List ThreadRef) :
    (handles.foldl register registry).pending = registry.pending := by
  induction handles generalizing registry with
  | nil => rfl
  | cons handle rest ih => exact ih.trans pending_register

theorem get?_remove_self : (registry.remove handle).get? handle = none := by
  simp [get?, remove]

theorem get?_remove_of_ne {other : ThreadRef} (elsewhere : other ≠ handle) :
    (registry.remove handle).get? other = registry.get? other := by
  simp only [get?, remove, List.find?_filter]
  congr 1
  funext thread
  by_cases same : thread.handle = other
  · simp [same, elsewhere]
  · simp [same]

@[simp] theorem pending_remove :
    (registry.remove handle).pending = Function.update registry.pending handle none := by
  funext other
  by_cases here : other = handle
  · subst here
    simp [pending, get?_remove_self]
  · simp [pending, get?_remove_of_ne here, Function.update_of_ne here]

@[simp] theorem pending_clear : registry.clear.pending = fun _ => none := rfl

@[simp] theorem threads_setFocus : (registry.setFocus handle).threads = registry.threads := by
  unfold setFocus
  split <;> rfl

@[simp] theorem pending_setFocus : (registry.setFocus handle).pending = registry.pending :=
  pending_congr threads_setFocus

/-- A change of records that leaves the handle of each alone changes what is found. -/
theorem get?_map {f : Thread → Thread} (same : ∀ thread, (f thread).handle = thread.handle) :
    get? { registry with threads := registry.threads.map f } handle = (registry.get? handle).map f := by
  simp only [get?, List.find?_map]
  congr 2
  funext thread
  simp [same]

theorem get?_modify {f : Thread → Thread} {thread : Thread} (same : ∀ thread, (f thread).handle = thread.handle)
    (known : registry.get? handle = some thread) : (registry.modify handle f).get? handle = some (f thread) := by
  obtain ⟨-, here⟩ := get?_eq_some known
  refine (get?_map fun thread => ?_).trans ?_
  · split
    · exact same thread
    · rfl
  · simp [known, here]

@[simp] theorem pending_setStatusAll {status : ThreadStatus} :
    (registry.setStatusAll status).pending = registry.pending := by
  funext other
  have found : (registry.setStatusAll status).get? other = (registry.get? other).map (·.setStatus status) :=
    get?_map (·.setStatus_handle status)
  simp only [pending, found, Option.bind_map]
  congr 1
  funext thread
  exact thread.setStatus_pendingStep status

theorem pending_modify {f : Thread → Thread} (same : ∀ thread, (f thread).handle = thread.handle) :
    (registry.modify handle f).pending =
      Function.update registry.pending handle ((registry.get? handle).bind fun t => (f t).pendingStep) := by
  have found : ∀ other, (registry.modify handle f).get? other =
      (registry.get? other).map fun thread => if thread.handle = handle then f thread else thread := by
    refine fun other => get?_map fun thread => ?_
    split
    · exact same thread
    · rfl
  funext other
  cases known : registry.get? other with
  | none =>
      by_cases here : other = handle
      · subst here
        simp [pending, found, known]
      · simp [pending, found, known, here]
  | some thread =>
      obtain ⟨-, rfl⟩ := get?_eq_some known
      by_cases here : thread.handle = handle
      · subst here
        simp [pending, found, known]
      · simp [pending, found, known, here]

end ThreadRegistry

namespace Books

/-- What can happen to the request of a step. -/
inductive Entry where
  | issued (thread : ThreadRef) (step : PendingStep)
  | deleted (request : RequestRef)
  /-- A thread died, with or without a step. -/
  | died (thread : ThreadRef) (step : Option PendingStep)
  /-- The model was released. -/
  | released

namespace Entry

def issued? : Entry → Option RequestRef
  | .issued _ step => some step.request
  | _ => none

def deleted? : Entry → Option RequestRef
  | .deleted request => some request
  | _ => none

/-- The request whose thread died. -/
def lost? : Entry → Option RequestRef
  | .died _ step => step.map PendingStep.request
  | _ => none

end Entry

/-- The requests that were issued, in order. -/
def issued (entries : List Entry) : List RequestRef := entries.filterMap Entry.issued?

def deleted (entries : List Entry) : List RequestRef := entries.filterMap Entry.deleted?

/-- The requests that were lost with their threads. -/
def lost (entries : List Entry) : List RequestRef := entries.filterMap Entry.lost?

theorem filterMap_snoc {f : Entry → Option RequestRef} (past : List Entry) (entry : Entry) :
    (past ++ [entry]).filterMap f = past.filterMap f ++ (f entry).toList := by
  cases found : f entry <;> simp [found]

section Lists

variable (past : List Entry) (entry : Entry)

@[simp] theorem issued_snoc : issued (past ++ [entry]) = issued past ++ entry.issued?.toList :=
  filterMap_snoc past entry

@[simp] theorem deleted_snoc : deleted (past ++ [entry]) = deleted past ++ entry.deleted?.toList :=
  filterMap_snoc past entry

@[simp] theorem lost_snoc : lost (past ++ [entry]) = lost past ++ entry.lost?.toList :=
  filterMap_snoc past entry

variable {past entry} {request : RequestRef}

theorem mem_issued_snoc :
    request ∈ issued (past ++ [entry]) ↔ request ∈ issued past ∨ entry.issued? = some request := by
  rw [issued_snoc, List.mem_append, Option.mem_toList]

theorem mem_deleted_snoc :
    request ∈ deleted (past ++ [entry]) ↔ request ∈ deleted past ∨ entry.deleted? = some request := by
  rw [deleted_snoc, List.mem_append, Option.mem_toList]

theorem mem_lost_snoc :
    request ∈ lost (past ++ [entry]) ↔ request ∈ lost past ∨ entry.lost? = some request := by
  rw [lost_snoc, List.mem_append, Option.mem_toList]

end Lists

/-- Crossed out in one thread, the others wait as before. -/
theorem update_none_iff {books : Books} {thread other : ThreadRef} {step : PendingStep} :
    Function.update books thread none other = some step ↔ other ≠ thread ∧ books other = some step := by
  by_cases here : other = thread
  · simp [here]
  · simp [here]

/-- `books.Takes entry books'`: the books can take the entry and are `books'` then. -/
inductive Takes (books : Books) : Entry → Books → Prop where
  | issue {thread : ThreadRef} {step : PendingStep} : books thread = none →
      Takes books (.issued thread step) (Function.update books thread (some step))
  | delete {thread : ThreadRef} {step : PendingStep} : books thread = some step →
      Takes books (.deleted step.request) (Function.update books thread none)
  | die {thread : ThreadRef} : Takes books (.died thread (books thread)) (Function.update books thread none)
  | release : Takes books .released fun _ => none

/-- The books take some entries, the first one first. -/
def Follows : Books → List Entry → Books → Prop
  | books, [], books' => books' = books
  | books, entry :: later, books' => ∃ between, Takes books entry between ∧ Follows between later books'

theorem follows_append_iff {books books' : Books} {first second : List Entry} :
    books.Follows (first ++ second) books' ↔
      ∃ between, books.Follows first between ∧ between.Follows second books' := by
  induction first generalizing books with
  | nil =>
      constructor
      · intro follows
        exact ⟨books, rfl, follows⟩
      · rintro ⟨between, rfl, follows⟩
        exact follows
  | cons entry first ih =>
      simp only [List.cons_append, Follows, ih]
      constructor
      · rintro ⟨next, takes, between, head, tail⟩
        exact ⟨between, ⟨next, takes, head⟩, tail⟩
      · rintro ⟨between, ⟨next, takes, head⟩, tail⟩
        exact ⟨next, takes, between, head, tail⟩

theorem Follows.append {books between books' : Books} {first second : List Entry}
    (head : books.Follows first between) (tail : between.Follows second books') :
    books.Follows (first ++ second) books' :=
  follows_append_iff.mpr ⟨between, head, tail⟩

theorem Takes.follows {books books' : Books} {entry : Entry} (takes : books.Takes entry books') :
    books.Follows [entry] books' :=
  ⟨books', takes, rfl⟩

/-- A step that is pending now was pending before, or it was entered since then, when none was. -/
theorem Follows.renewed {books books' : Books} {entries : List Entry} {thread : ThreadRef}
    {step : PendingStep} (follows : books.Follows entries books') (now : books' thread = some step) :
    books thread = some step ∨ ∃ front rest between, entries = front ++ .issued thread step :: rest ∧
      books.Follows front between ∧ between thread = none := by
  induction entries generalizing books with
  | nil =>
      cases follows
      exact .inl now
  | cons entry later ih =>
      obtain ⟨next, takes, follows⟩ := follows
      rcases ih follows with pending | ⟨front, rest, between, rfl, since, idle⟩
      · cases takes with
        | @issue other step' idle =>
            by_cases here : thread = other
            · subst here
              rw [Function.update_self] at pending
              cases pending
              exact .inr ⟨[], later, books, rfl, rfl, idle⟩
            · rw [Function.update_of_ne here] at pending
              exact .inl pending
        | delete => exact .inl (update_none_iff.mp pending).2
        | die => exact .inl (update_none_iff.mp pending).2
        | release => cases pending
      · exact .inr ⟨entry :: front, rest, between, rfl, ⟨next, takes, since⟩, idle⟩

/-! ### Requests that are issued once -/

/-- What is known of the books after some entries, if no request was issued twice. -/
structure Ledger (past : List Entry) (books : Books) : Prop where
  /-- A pending step was requested, and its request is neither deleted nor lost. -/
  open_ : ∀ thread step, books thread = some step →
    step.request ∈ issued past ∧ step.request ∉ deleted past ∧ step.request ∉ lost past
  /-- Two threads do not wait for the same request. -/
  distinct : ∀ thread thread' step step', books thread = some step → books thread' = some step' →
    step.request = step'.request → thread = thread'
  /-- No request is deleted twice. -/
  once : (deleted past).Nodup
  /-- Only issued requests are deleted, and none that was lost. -/
  closed : ∀ request ∈ deleted past, request ∈ issued past ∧ request ∉ lost past
  gone : ∀ request ∈ lost past, request ∈ issued past

namespace Ledger

theorem empty : Ledger [] fun _ => none where
  open_ _ _ pending := nomatch pending
  distinct _ _ _ _ pending := nomatch pending
  once := .nil
  closed _ mem := nomatch mem
  gone _ mem := nomatch mem

variable {past : List Entry} {books books' : Books}

/-- The request of a new step is unlike all others. -/
theorem issue {thread : ThreadRef} {step : PendingStep} (ledger : Ledger past books)
    (unknown : step.request ∉ issued past) :
    Ledger (past ++ [.issued thread step]) (Function.update books thread (some step)) := by
  have pending_iff : ∀ {other step'}, Function.update books thread (some step) other = some step' →
      other = thread ∧ step' = step ∨
        books other = some step' ∧ step'.request ≠ step.request := by
    intro other step' pending
    by_cases here : other = thread
    · subst here
      exact .inl ⟨rfl, by simpa using pending.symm⟩
    · rw [Function.update_of_ne here] at pending
      have known := (ledger.open_ other step' pending).1
      exact .inr ⟨pending, fun same => unknown (same ▸ known)⟩
  constructor
  case open_ =>
    intro other step' pending
    rcases pending_iff pending with ⟨rfl, rfl⟩ | ⟨pending, -⟩
    · have undeleted := fun closed => unknown (ledger.closed step'.request closed).1
      have kept := fun gone => unknown (ledger.gone step'.request gone)
      simpa [Entry.issued?, Entry.deleted?, Entry.lost?] using ⟨undeleted, kept⟩
    · obtain ⟨known, undeleted, kept⟩ := ledger.open_ other step' pending
      simpa [Entry.issued?, Entry.deleted?, Entry.lost?] using ⟨.inl known, undeleted, kept⟩
  case distinct =>
    intro one two first second pending₁ pending₂ same
    rcases pending_iff pending₁ with ⟨rfl, rfl⟩ | ⟨pending₁, other₁⟩
    · rcases pending_iff pending₂ with ⟨rfl, -⟩ | ⟨-, other⟩
      · rfl
      · exact absurd same.symm other
    · rcases pending_iff pending₂ with ⟨rfl, rfl⟩ | ⟨pending₂, -⟩
      · exact absurd same other₁
      · exact ledger.distinct one two first second pending₁ pending₂ same
  case once => simpa [Entry.deleted?] using ledger.once
  case closed =>
    intro request closed
    obtain ⟨known, kept⟩ := ledger.closed request (by simpa [Entry.deleted?] using closed)
    simpa [Entry.issued?, Entry.lost?] using ⟨.inl known, kept⟩
  case gone =>
    intro request gone
    have known := ledger.gone request (by simpa [Entry.lost?] using gone)
    simpa [Entry.issued?] using .inl known

section Close

variable {thread : ThreadRef}

/-- A deleted request is pending no more. -/
theorem delete {step : PendingStep} (ledger : Ledger past books) (pending : books thread = some step) :
    Ledger (past ++ [.deleted step.request]) (Function.update books thread none) := by
  obtain ⟨requested, undeleted, kept⟩ := ledger.open_ thread step pending
  constructor
  case open_ =>
    intro other step' still
    obtain ⟨elsewhere, still⟩ := update_none_iff.mp still
    obtain ⟨known, others, safe⟩ := ledger.open_ other step' still
    have differ : step'.request ≠ step.request := fun same =>
      elsewhere (ledger.distinct other thread step' step still pending same)
    simpa [Entry.issued?, Entry.deleted?, Entry.lost?] using ⟨known, ⟨others, differ⟩, safe⟩
  case distinct =>
    intro one two first second pending₁ pending₂ same
    exact ledger.distinct one two first second (update_none_iff.mp pending₁).2
      (update_none_iff.mp pending₂).2 same
  case once =>
    simp only [deleted_snoc, Entry.deleted?, Option.toList_some, List.nodup_append]
    refine ⟨ledger.once, List.pairwise_singleton _ _, ?_⟩
    intro request closed other here same
    rw [List.mem_singleton] at here
    exact undeleted (here ▸ same ▸ closed)
  case closed =>
    intro request closed
    simp only [issued_snoc, lost_snoc, Entry.issued?, Entry.lost?, Option.toList_none, List.append_nil]
    rcases mem_deleted_snoc.mp closed with closed | same
    · exact ledger.closed request closed
    · cases same
      exact ⟨requested, kept⟩
  case gone =>
    intro request gone
    simpa [Entry.issued?] using ledger.gone request (by simpa [Entry.lost?] using gone)

/-- With a thread its step is lost. -/
theorem die (ledger : Ledger past books) :
    Ledger (past ++ [.died thread (books thread)]) (Function.update books thread none) := by
  have gone_iff : ∀ request, request ∈ lost (past ++ [.died thread (books thread)]) ↔
      request ∈ lost past ∨ ∃ step, books thread = some step ∧ step.request = request := by
    intro request
    simp [Entry.lost?]
  constructor
  case open_ =>
    intro other step' still
    obtain ⟨elsewhere, still⟩ := update_none_iff.mp still
    obtain ⟨known, others, safe⟩ := ledger.open_ other step' still
    refine ⟨by simpa [Entry.issued?] using known, by simpa [Entry.deleted?] using others, ?_⟩
    rw [gone_iff]
    rintro (gone | ⟨step, pending, same⟩)
    · exact safe gone
    · exact elsewhere (ledger.distinct other thread step' step still pending same.symm)
  case distinct =>
    intro one two first second pending₁ pending₂ same
    exact ledger.distinct one two first second (update_none_iff.mp pending₁).2
      (update_none_iff.mp pending₂).2 same
  case once => simpa [Entry.deleted?] using ledger.once
  case closed =>
    intro request closed
    have closed : request ∈ deleted past := by simpa [Entry.deleted?] using closed
    obtain ⟨known, kept⟩ := ledger.closed request closed
    refine ⟨by simpa [Entry.issued?] using known, ?_⟩
    rw [gone_iff]
    rintro (gone | ⟨step, pending, rfl⟩)
    · exact kept gone
    · exact (ledger.open_ thread step pending).2.1 closed
  case gone =>
    intro request gone
    rcases (gone_iff request).mp gone with gone | ⟨step, pending, rfl⟩
    · simpa [Entry.issued?] using ledger.gone request gone
    · simpa [Entry.issued?] using (ledger.open_ thread step pending).1

end Close

theorem release (ledger : Ledger past books) : Ledger (past ++ [.released]) fun _ => none where
  open_ _ _ pending := nomatch pending
  distinct _ _ _ _ pending := nomatch pending
  once := by simpa [Entry.deleted?] using ledger.once
  closed request closed := by
    simpa [Entry.issued?, Entry.lost?] using
      ledger.closed request (by simpa [Entry.deleted?] using closed)
  gone request gone := by
    simpa [Entry.issued?] using ledger.gone request (by simpa [Entry.lost?] using gone)

/-- What one entry preserves. -/
theorem take {entry : Entry} (ledger : Ledger past books) (takes : books.Takes entry books')
    (fresh : (issued (past ++ [entry])).Nodup) : Ledger (past ++ [entry]) books' := by
  cases takes with
  | issue idle =>
      rw [issued_snoc, List.nodup_append] at fresh
      exact ledger.issue fun known => fresh.2.2 _ known _ (List.mem_singleton_self _) rfl
  | delete pending => exact ledger.delete pending
  | die => exact ledger.die
  | release => exact ledger.release

/-- What any entries preserve. -/
theorem follow {later : List Entry} (ledger : Ledger past books) (follows : books.Follows later books')
    (fresh : (issued (past ++ later)).Nodup) : Ledger (past ++ later) books' := by
  induction later generalizing past books with
  | nil =>
      cases follows
      rwa [List.append_nil]
  | cons entry later ih =>
      obtain ⟨between, takes, follows⟩ := follows
      rw [List.append_cons] at fresh ⊢
      have first : (issued (past ++ [entry])).Nodup :=
        fresh.sublist ((List.sublist_append_left _ _).filterMap _)
      exact ih (ledger.take takes first) follows fresh

/-- What the books are after an entry is settled by the books before. -/
theorem takes_unique {entry : Entry} {one two : Books} (ledger : Ledger past books)
    (first : books.Takes entry one) (second : books.Takes entry two) : one = two := by
  cases first with
  | issue => cases second; rfl
  | @delete thread step pending =>
      generalize same : step.request = request at second
      cases second with
      | @delete thread' step' pending' => rw [ledger.distinct thread thread' step step' pending pending' same]
  | die => cases second; rfl
  | release => cases second; rfl

theorem follows_unique {later : List Entry} {one two : Books} (ledger : Ledger past books)
    (first : books.Follows later one) (second : books.Follows later two)
    (fresh : (issued (past ++ later)).Nodup) : one = two := by
  induction later generalizing past books with
  | nil => exact first.trans second.symm
  | cons entry later ih =>
      obtain ⟨between, takes, first⟩ := first
      obtain ⟨between', takes', second⟩ := second
      cases ledger.takes_unique takes takes'
      rw [List.append_cons] at fresh
      exact ih (ledger.take takes (fresh.sublist ((List.sublist_append_left _ _).filterMap _))) first
        second fresh

end Ledger

/-! ### Requests that may come twice -/

/-- Every issued request is pending, deleted or lost, unless the model was released. -/
def Accounted (past : List Entry) (books : Books) : Prop :=
  .released ∈ past ∨ ∀ request ∈ issued past,
    (∃ thread step, books thread = some step ∧ step.request = request) ∨
      request ∈ deleted past ∨ request ∈ lost past

namespace Accounted

variable {past : List Entry} {books books' : Books}

theorem empty : Accounted [] fun _ => none := .inr fun _ mem => nomatch mem

theorem take {entry : Entry} (accounted : Accounted past books) (takes : books.Takes entry books') :
    Accounted (past ++ [entry]) books' := by
  rcases accounted with released | each
  · exact .inl (List.mem_append_left _ released)
  have elsewhere : ∀ {thread other step value}, other ≠ thread → books other = some step →
      Function.update books thread value other = some step := by
    intro thread other step value away pending
    rwa [Function.update_of_ne away]
  cases takes with
  | @issue thread step idle =>
      refine .inr fun request mem => ?_
      rw [mem_deleted_snoc, mem_lost_snoc]
      rcases mem_issued_snoc.mp mem with known | issued
      · rcases each request known with ⟨other, step', pending, same⟩ | closed | gone
        · refine .inl ⟨other, step', elsewhere ?_ pending, same⟩
          rintro rfl
          cases idle.symm.trans pending
        · exact .inr (.inl (.inl closed))
        · exact .inr (.inr (.inl gone))
      · exact .inl ⟨thread, step, Function.update_self .., Option.some.inj issued⟩
  | @delete thread step pending =>
      refine .inr fun request mem => ?_
      rw [mem_deleted_snoc, mem_lost_snoc]
      have known := (mem_issued_snoc.mp mem).resolve_right nofun
      rcases each request known with ⟨other, step', pending', same⟩ | closed | gone
      · by_cases here : other = thread
        · subst here
          cases pending.symm.trans pending'
          exact .inr (.inl (.inr (congrArg some same)))
        · exact .inl ⟨other, step', elsewhere here pending', same⟩
      · exact .inr (.inl (.inl closed))
      · exact .inr (.inr (.inl gone))
  | @die thread =>
      refine .inr fun request mem => ?_
      rw [mem_deleted_snoc, mem_lost_snoc]
      have known := (mem_issued_snoc.mp mem).resolve_right nofun
      rcases each request known with ⟨other, step', pending', same⟩ | closed | gone
      · by_cases here : other = thread
        · subst here
          exact .inr (.inr (.inr (by simp [Entry.lost?, pending', same])))
        · exact .inl ⟨other, step', elsewhere here pending', same⟩
      · exact .inr (.inl (.inl closed))
      · exact .inr (.inr (.inl gone))
  | release => exact .inl (List.mem_append_right _ (List.mem_singleton_self _))

theorem follow {later : List Entry} (accounted : Accounted past books)
    (follows : books.Follows later books') : Accounted (past ++ later) books' := by
  induction later generalizing past books with
  | nil =>
      cases follows
      rwa [List.append_nil]
  | cons entry later ih =>
      obtain ⟨between, takes, follows⟩ := follows
      rw [List.append_cons]
      exact ih (accounted.take takes) follows

end Accounted

end Books

end RemoteDebug
