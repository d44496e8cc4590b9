import Mathlib.Data.List.Nodup
import RemoteDebug.Thread

/-!
The thread registry.

* `ThreadRegistry.Ordered` is the order of the registry: records stand in the order of appearance, no
  handle has two of them, and the focus is on a registered thread.
* `Thread.Coherent` is the agreement of a record with itself: a thread is stepping exactly while a step
  is pending. `ThreadRegistry.Records` asks for something of every record.
* `ThreadRegistry.Elects` says which thread is the one for evaluation.
* `ThreadRegistry.Sound` joins order and coherence, which is what every change of a registry keeps.
-/

namespace RemoteDebug

/-! ### Records -/

/-- Status and pending step of a record agree, and the record is of a living thread. -/
structure Thread.Coherent (thread : Thread) : Prop where
  stepping_iff : thread.status = .stepping ↔ thread.isStepping = true
  alive : thread.status ≠ .terminated

namespace Thread

variable (thread : Thread) (status : ThreadStatus)

@[simp] theorem setStatus_number : (thread.setStatus status).number = thread.number := by
  unfold setStatus
  split <;> rfl

@[simp] theorem setStatus_handle : (thread.setStatus status).handle = thread.handle := by
  unfold setStatus
  split <;> rfl

end Thread

namespace Thread.Coherent

variable {thread : Thread}

theorem appear {number : Nat} {handle : ThreadRef} : (Thread.appear number handle).Coherent :=
  ⟨by simp [Thread.appear, isStepping], nofun⟩

theorem startStep {step : PendingStep} : (thread.startStep step).Coherent :=
  ⟨by simp [Thread.startStep, isStepping], nofun⟩

theorem of_suspended (suspended : thread.status = .suspended) (idle : thread.pendingStep = none) :
    thread.Coherent :=
  ⟨by simp [isStepping, suspended, idle], by simp [suspended]⟩

theorem stopAt {location : Location} : (thread.stopAt location).Coherent :=
  .of_suspended rfl rfl

/-- A status for threads that wait for no step keeps a record coherent. -/
theorem setStatus {status : ThreadStatus} (coherent : thread.Coherent) (plain : status ≠ .stepping)
    (alive : status ≠ .terminated) : (thread.setStatus status).Coherent := by
  unfold Thread.setStatus
  split
  · exact coherent
  · rename_i idle
    refine ⟨?_, alive⟩
    constructor
    · intro stepping
      exact absurd stepping plain
    · intro stepping
      exact absurd stepping idle

end Thread.Coherent

namespace ThreadRegistry

variable {registry : ThreadRegistry}

theorem get?_eq_some {handle : ThreadRef} {thread : Thread}
    (found : registry.get? handle = some thread) :
    thread ∈ registry.threads ∧ thread.handle = handle :=
  ⟨List.mem_of_find?_eq_some found, by simpa using List.find?_some found⟩

theorem contains_iff {handle : ThreadRef} :
    registry.contains handle = true ↔ ∃ thread ∈ registry.threads, thread.handle = handle := by
  simp [contains, get?]

theorem contains_register (registry : ThreadRegistry) (handle : ThreadRef) :
    (registry.register handle).contains handle = true := by
  cases known : registry.contains handle with
  | true => simp [register, known]
  | false =>
      refine contains_iff.mpr ⟨.appear (registry.lastNumber + 1) handle, ?_, rfl⟩
      simp [register, known]

/-! ### Changes of one record -/

section Modify

variable {handle : ThreadRef} {f g : Thread → Thread}

theorem modify_congr (same : ∀ thread ∈ registry.threads, thread.handle = handle → f thread = g thread) :
    registry.modify handle f = registry.modify handle g := by
  have alike : registry.threads.map (fun t => if t.handle = handle then f t else t) =
      registry.threads.map fun t => if t.handle = handle then g t else t := by
    refine List.map_congr_left fun thread mem => ?_
    split
    · exact same thread mem ‹_›
    · rfl
  rw [modify, modify, alike]

/-- A change that leaves the record alone leaves the registry alone. -/
theorem modify_eq_self (same : ∀ thread ∈ registry.threads, thread.handle = handle → f thread = thread) :
    registry.modify handle f = registry := by
  refine (modify_congr (g := id) same).trans ?_
  simp [modify]

theorem modify_of_unknown (unknown : registry.get? handle = none) : registry.modify handle f = registry := by
  refine modify_eq_self fun thread mem same => ?_
  have known : registry.contains handle = true := contains_iff.mpr ⟨thread, mem, same⟩
  rw [contains, unknown] at known
  cases known

theorem modify_modify (same : ∀ thread, (f thread).handle = thread.handle) :
    (registry.modify handle f).modify handle g = registry.modify handle (g ∘ f) := by
  simp only [modify, List.map_map]
  congr 2
  funext thread
  by_cases here : thread.handle = handle
  · simp [here, same]
  · simp [here]

end Modify

/-- All records of a registry satisfy a condition. -/
def Records (registry : ThreadRegistry) (P : Thread → Prop) : Prop := ∀ thread ∈ registry.threads, P thread

namespace Records

variable {P : Thread → Prop} {handle : ThreadRef}

theorem register (records : registry.Records P) (fresh : ∀ number, P (.appear number handle)) :
    (registry.register handle).Records P := by
  unfold ThreadRegistry.register
  split
  · exact records
  · intro thread mem
    rcases List.mem_append.mp mem with mem | mem
    · exact records thread mem
    · rw [List.mem_singleton.mp mem]
      exact fresh _

theorem remove (records : registry.Records P) : (registry.remove handle).Records P :=
  fun thread mem => records thread (List.mem_filter.mp mem).1

theorem clear : registry.clear.Records P := fun _ mem => nomatch mem

theorem modify {f : Thread → Thread} (records : registry.Records P) (keeps : ∀ thread, P thread → P (f thread)) :
    (registry.modify handle f).Records P := by
  intro thread mem
  obtain ⟨old, here, rfl⟩ := List.mem_map.mp mem
  split
  · exact keeps old (records old here)
  · exact records old here

theorem setFocus (records : registry.Records P) : (registry.setFocus handle).Records P := by
  unfold ThreadRegistry.setFocus
  split
  · exact records
  · exact records

theorem setStatusAll {status : ThreadStatus} (records : registry.Records P)
    (keeps : ∀ thread, P thread → P (thread.setStatus status)) :
    (registry.setStatusAll status).Records P := by
  intro thread mem
  obtain ⟨old, here, rfl⟩ := List.mem_map.mp mem
  exact keeps old (records old here)

end Records

/-! ### Order -/

/-- Records stand in the order of appearance, each handle has one, and the focus is on one of them. -/
structure Ordered (registry : ThreadRegistry) : Prop where
  ascending : registry.threads.Pairwise (·.number < ·.number)
  distinct : (registry.threads.map Thread.handle).Nodup
  handedOut : registry.Records fun thread => thread.number ≤ registry.lastNumber
  focused : ∀ handle, registry.focus = some handle → registry.contains handle = true

namespace Ordered

variable {handle : ThreadRef}

theorem empty : ({} : ThreadRegistry).Ordered :=
  ⟨.nil, .nil, fun _ mem => (nomatch mem), fun _ impossible => (nomatch impossible)⟩

/-- In an ordered registry a record is found by its handle. -/
theorem get?_of_mem (ordered : registry.Ordered) {thread : Thread} (mem : thread ∈ registry.threads) :
    registry.get? thread.handle = some thread := by
  have known : registry.contains thread.handle = true := contains_iff.mpr ⟨thread, mem, rfl⟩
  obtain ⟨found, same⟩ := Option.isSome_iff_exists.mp known
  obtain ⟨here, handle⟩ := get?_eq_some same
  rw [same, List.inj_on_of_nodup_map ordered.distinct here mem handle]

theorem register (ordered : registry.Ordered) : (registry.register handle).Ordered := by
  unfold ThreadRegistry.register
  split
  · exact ordered
  · rename_i unknown
    have below : ∀ thread ∈ registry.threads, thread.number < registry.lastNumber + 1 :=
      fun thread mem => Nat.lt_succ_of_le (ordered.handedOut thread mem)
    constructor
    case ascending =>
      refine List.pairwise_append.mpr ⟨ordered.ascending, List.pairwise_singleton _ _, ?_⟩
      intro thread mem new here
      rw [List.mem_singleton.mp here]
      exact below thread mem
    case distinct =>
      rw [List.map_append, List.nodup_append]
      refine ⟨ordered.distinct, List.pairwise_singleton _ _, ?_⟩
      rintro _ old _ new rfl
      obtain ⟨thread, mem, same⟩ := List.mem_map.mp old
      rw [List.map_singleton, List.mem_singleton] at new
      exact unknown (contains_iff.mpr ⟨thread, mem, same.trans new⟩)
    case handedOut =>
      intro thread mem
      rcases List.mem_append.mp mem with mem | mem
      · exact Nat.le_of_lt (below thread mem)
      · rw [List.mem_singleton.mp mem]
        exact Nat.le_refl _
    case focused =>
      intro other focus
      obtain ⟨thread, mem, same⟩ := contains_iff.mp (ordered.focused other focus)
      exact contains_iff.mpr ⟨thread, List.mem_append_left _ mem, same⟩

theorem remove (ordered : registry.Ordered) : (registry.remove handle).Ordered where
  ascending := ordered.ascending.filter _
  distinct := ordered.distinct.sublist (List.filter_sublist.map _)
  handedOut := Records.remove ordered.handedOut
  focused := by
    intro other focus
    unfold ThreadRegistry.remove at focus
    split at focus
    · cases focus
    · rename_i elsewhere
      obtain ⟨thread, mem, rfl⟩ := contains_iff.mp (ordered.focused other focus)
      refine contains_iff.mpr ⟨thread, List.mem_filter.mpr ⟨mem, ?_⟩, rfl⟩
      rw [focus, Option.some.injEq] at elsewhere
      exact decide_eq_true elsewhere

/-- To forget an unknown thread changes nothing: the focus is on a known one. -/
theorem remove_of_unknown (ordered : registry.Ordered) (unknown : registry.get? handle = none) :
    registry.remove handle = registry := by
  have absent : ∀ thread ∈ registry.threads, thread.handle ≠ handle := by
    intro thread mem same
    subst same
    cases unknown.symm.trans (ordered.get?_of_mem mem)
  have elsewhere : registry.focus ≠ some handle := by
    intro focus
    obtain ⟨thread, mem, same⟩ := contains_iff.mp (ordered.focused handle focus)
    exact absent thread mem same
  have kept : registry.threads.filter (·.handle ≠ handle) = registry.threads :=
    List.filter_eq_self.mpr fun thread mem => by simpa using absent thread mem
  rw [ThreadRegistry.remove, if_neg elsewhere, kept]

theorem clear : registry.clear.Ordered where
  ascending := .nil
  distinct := .nil
  handedOut := Records.clear
  focused := fun _ impossible => nomatch impossible

/-- A change of records that leaves number and handle of each alone keeps the order. -/
theorem map {f : Thread → Thread} (ordered : registry.Ordered)
    (number : ∀ thread, (f thread).number = thread.number)
    (handle : ∀ thread, (f thread).handle = thread.handle) :
    Ordered { registry with threads := registry.threads.map f } where
  ascending := by
    refine List.pairwise_map.mpr (ordered.ascending.imp ?_)
    intro first second ascends
    rw [number, number]
    exact ascends
  distinct := by
    have same : Thread.handle ∘ f = Thread.handle := funext handle
    rw [List.map_map, same]
    exact ordered.distinct
  handedOut := by
    intro thread mem
    obtain ⟨old, here, rfl⟩ := List.mem_map.mp mem
    rw [number]
    exact ordered.handedOut old here
  focused := by
    intro other focus
    obtain ⟨thread, mem, same⟩ := contains_iff.mp (ordered.focused other focus)
    exact contains_iff.mpr ⟨f thread, List.mem_map_of_mem mem, (handle thread).trans same⟩

theorem modify {f : Thread → Thread} (ordered : registry.Ordered)
    (number : ∀ thread, (f thread).number = thread.number)
    (same : ∀ thread, (f thread).handle = thread.handle) : (registry.modify handle f).Ordered := by
  refine ordered.map ?_ ?_
  · intro thread
    split
    · exact number thread
    · rfl
  · intro thread
    split
    · exact same thread
    · rfl

theorem setStatusAll (ordered : registry.Ordered) {status : ThreadStatus} :
    (registry.setStatusAll status).Ordered :=
  ordered.map (·.setStatus_number status) (·.setStatus_handle status)

theorem setFocus (ordered : registry.Ordered) : (registry.setFocus handle).Ordered := by
  unfold ThreadRegistry.setFocus
  split
  · rename_i known
    refine ⟨ordered.ascending, ordered.distinct, ordered.handedOut, ?_⟩
    intro other focus
    cases focus
    exact known
  · exact ordered

end Ordered

/-! ### The thread for evaluation -/

/-- Of the suspended threads this one appeared first. -/
def IsFirstSuspended (registry : ThreadRegistry) (thread : Thread) : Prop :=
  thread ∈ registry.threads ∧ thread.isSuspended = true ∧
    ∀ other ∈ registry.threads, other.isSuspended = true → thread.number ≤ other.number

/-- The focus is on no suspended thread. -/
def Unfocused (registry : ThreadRegistry) : Prop :=
  ∀ thread ∈ registry.threads, registry.focus = some thread.handle → thread.isSuspended = false

/-- The choice of the thread for evaluation: the one in focus if it is suspended, else the suspended
thread that appeared first. -/
structure Elects (registry : ThreadRegistry) (elected : Option ThreadRef) : Prop where
  focused : ∀ thread ∈ registry.threads, registry.focus = some thread.handle →
    thread.isSuspended = true → elected = some thread.handle
  first : registry.Unfocused → ∀ handle, elected = some handle ↔
    ∃ thread, registry.IsFirstSuspended thread ∧ thread.handle = handle
  registered : ∀ handle, elected = some handle →
    ∃ thread ∈ registry.threads, thread.handle = handle ∧ thread.isSuspended = true
  none_iff : elected = none ↔ ∀ thread ∈ registry.threads, thread.isSuspended = false

theorem firstSuspended?_eq_none_iff :
    registry.firstSuspended? = none ↔ ∀ thread ∈ registry.threads, thread.isSuspended = false := by
  simp [firstSuspended?]

namespace Ordered

/-- The suspended thread that is found first appeared first. -/
theorem isFirstSuspended_of_find? (ordered : registry.Ordered) {thread : Thread}
    (found : registry.threads.find? Thread.isSuspended = some thread) :
    registry.IsFirstSuspended thread := by
  refine ⟨List.mem_of_find?_eq_some found, List.find?_some found, ?_⟩
  intro other mem suspended
  obtain ⟨-, before, after, parts, skipped⟩ := List.find?_eq_some_iff_append.mp found
  have ascending := ordered.ascending
  rw [parts] at mem ascending
  rcases List.mem_append.mp mem with mem | mem
  · have running := skipped other mem
    rw [suspended] at running
    cases running
  · rcases List.mem_cons.mp mem with rfl | mem
    · exact Nat.le_refl _
    · have tail := (List.pairwise_append.mp ascending).2.1
      exact Nat.le_of_lt (List.rel_of_pairwise_cons tail mem)

/-- No two threads appeared first. -/
theorem isFirstSuspended_unique (ordered : registry.Ordered) {first second : Thread}
    (left : registry.IsFirstSuspended first) (right : registry.IsFirstSuspended second) :
    first = second := by
  have level : first.number = second.number :=
    Nat.le_antisymm (left.2.2 second right.1 right.2.1) (right.2.2 first left.1 left.2.1)
  have distinct : (registry.threads.map Thread.number).Nodup :=
    List.pairwise_map.mpr (ordered.ascending.imp Nat.ne_of_lt)
  exact List.inj_on_of_nodup_map distinct left.1 right.1 level

theorem firstSuspended?_iff (ordered : registry.Ordered) {handle : ThreadRef} :
    registry.firstSuspended? = some handle ↔
      ∃ thread, registry.IsFirstSuspended thread ∧ thread.handle = handle := by
  unfold firstSuspended?
  rw [Option.map_eq_some_iff]
  constructor
  · rintro ⟨thread, found, same⟩
    exact ⟨thread, ordered.isFirstSuspended_of_find? found, same⟩
  · rintro ⟨thread, first, same⟩
    have some : (registry.threads.find? Thread.isSuspended).isSome :=
      List.find?_isSome.mpr ⟨thread, first.1, first.2.1⟩
    obtain ⟨other, found⟩ := Option.isSome_iff_exists.mp some
    have unique := ordered.isFirstSuspended_unique (ordered.isFirstSuspended_of_find? found) first
    exact ⟨thread, unique ▸ found, same⟩

theorem current?_of_focus (ordered : registry.Ordered) {thread : Thread}
    (mem : thread ∈ registry.threads) (focus : registry.focus = some thread.handle)
    (suspended : thread.isSuspended = true) : registry.current? = some thread.handle := by
  simp [current?, focus, ordered.get?_of_mem mem, suspended]

theorem current?_of_unfocused (ordered : registry.Ordered) (unfocused : registry.Unfocused) :
    registry.current? = registry.firstSuspended? := by
  cases focus : registry.focus with
  | none => simp [current?, focus]
  | some handle =>
      obtain ⟨thread, mem, rfl⟩ := contains_iff.mp (ordered.focused handle focus)
      simp [current?, focus, ordered.get?_of_mem mem, unfocused thread mem focus, Option.filter]

theorem elects (ordered : registry.Ordered) : registry.Elects registry.current? := by
  by_cases unfocused : registry.Unfocused
  · rw [ordered.current?_of_unfocused unfocused]
    refine ⟨?_, fun _ _ => ordered.firstSuspended?_iff, ?_, firstSuspended?_eq_none_iff⟩
    · intro thread mem focus suspended
      cases suspended.symm.trans (unfocused thread mem focus)
    · intro handle elected
      obtain ⟨thread, first, same⟩ := ordered.firstSuspended?_iff.mp elected
      exact ⟨thread, first.1, same, first.2.1⟩
  · obtain ⟨thread, mem, focus, suspended⟩ : ∃ thread ∈ registry.threads,
        registry.focus = some thread.handle ∧ thread.isSuspended = true := by
      simpa [Unfocused] using unfocused
    have current := ordered.current?_of_focus mem focus suspended
    refine ⟨fun _ => ordered.current?_of_focus, fun none => absurd none unfocused, ?_, ?_⟩
    · intro handle elected
      exact ⟨thread, mem, Option.some.inj (current.symm.trans elected), suspended⟩
    · rw [current]
      refine iff_of_false nofun ?_
      intro running
      cases suspended.symm.trans (running thread mem)

end Ordered

/-! ### Sound registries -/

/-- A registry in order, with coherent records. -/
structure Sound (registry : ThreadRegistry) : Prop where
  ordered : registry.Ordered
  coherent : registry.Records Thread.Coherent

namespace Sound

variable {handle : ThreadRef}

theorem empty : ({} : ThreadRegistry).Sound := ⟨.empty, fun _ mem => nomatch mem⟩

theorem register (sound : registry.Sound) : (registry.register handle).Sound :=
  ⟨sound.ordered.register, sound.coherent.register fun _ => .appear⟩

theorem registerAll (sound : registry.Sound) (handles : List ThreadRef) :
    (handles.foldl .register registry).Sound := by
  induction handles generalizing registry with
  | nil => exact sound
  | cons handle rest ih => exact ih sound.register

theorem remove (sound : registry.Sound) : (registry.remove handle).Sound :=
  ⟨sound.ordered.remove, sound.coherent.remove⟩

theorem clear : registry.clear.Sound := ⟨.clear, .clear⟩

theorem modify {f : Thread → Thread} (sound : registry.Sound)
    (number : ∀ thread, (f thread).number = thread.number)
    (same : ∀ thread, (f thread).handle = thread.handle)
    (coherent : ∀ thread, thread.Coherent → (f thread).Coherent) :
    (registry.modify handle f).Sound :=
  ⟨sound.ordered.modify number same, sound.coherent.modify coherent⟩

theorem setFocus (sound : registry.Sound) : (registry.setFocus handle).Sound :=
  ⟨sound.ordered.setFocus, sound.coherent.setFocus⟩

theorem setStatusAll {status : ThreadStatus} (sound : registry.Sound) (plain : status ≠ .stepping)
    (alive : status ≠ .terminated) : (registry.setStatusAll status).Sound :=
  ⟨sound.ordered.setStatusAll, sound.coherent.setStatusAll fun _ coherent =>
    coherent.setStatus plain alive⟩

end Sound

end ThreadRegistry

end RemoteDebug
