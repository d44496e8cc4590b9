import Mathlib.Data.List.Range
import RemoteDebug.Proofs.Registry

/-!
The numbers of threads, over the whole history of a registry.

Numbers are handed out in the order 1, 2, 3, and so on, one for each record that is created. None comes back:
a thread that was forgotten and appears again gets a new number.

* `ThreadRegistry.enrol` is registration in the form that returns the record. It tells a new record from an
  old one by its number alone. That is right in registries in order, where no number is above the last one.
* `ThreadRegistry.Change` lists what can be done to a registry. `run` does several changes in a row, and
  `created` collects the records that come up on the way. `runByNumber` is the same with `enrol` in place of
  `register`, and leads to the same registry (`Ordered.runByNumber_eq`).
* `ThreadRegistry.Counts` relates a registry to the records created so far. Every change keeps it
  (`Counts.change`), so it holds after every history (`Counts.run`).
-/

namespace RemoteDebug

/-- An update of a record: it may write anything but the number and the handle. -/
structure Thread.Update where
  apply : Thread → Thread
  number_apply : ∀ thread, (apply thread).number = thread.number
  handle_apply : ∀ thread, (apply thread).handle = thread.handle

namespace Thread.Update

/-- A step is requested. -/
def startStep (step : PendingStep) : Update := ⟨(·.startStep step), fun _ => rfl, fun _ => rfl⟩

/-- A thread stops, with or without a step that completes. -/
def stopAt (location : Location) : Update := ⟨(·.stopAt location), fun _ => rfl, fun _ => rfl⟩

/-- A step is given up. -/
def abandonStep (status : ThreadStatus) : Update :=
  ⟨fun thread => { thread with pendingStep := none, status }, fun _ => rfl, fun _ => rfl⟩

def setStatus (status : ThreadStatus) : Update :=
  ⟨(·.setStatus status), (·.setStatus_number status), (·.setStatus_handle status)⟩

end Thread.Update

namespace ThreadRegistry

variable {registry : ThreadRegistry} {handle : ThreadRef} {thread : Thread}

/-! ### Registration by number -/

/-- Find the record of a handle, or add one under the next number. The number is handed out if it is the
number of that record. -/
def enrol (registry : ThreadRegistry) (handle : ThreadRef) : Thread × ThreadRegistry :=
  let next := registry.lastNumber + 1
  let thread := (registry.get? handle).getD (.appear next handle)
  let threads := if registry.contains handle then registry.threads else registry.threads ++ [thread]
  let lastNumber := if thread.number = next then next else registry.lastNumber
  (thread, { registry with threads, lastNumber })

theorem register_of_known (found : registry.get? handle = some thread) :
    registry.register handle = registry := by
  simp [register, contains, found]

theorem register_of_unknown (unknown : registry.get? handle = none) :
    registry.register handle = { registry with
      threads := registry.threads ++ [.appear (registry.lastNumber + 1) handle]
      lastNumber := registry.lastNumber + 1 } := by
  simp [register, contains, unknown]

theorem enrol_of_unknown (unknown : registry.get? handle = none) :
    registry.enrol handle = (.appear (registry.lastNumber + 1) handle, registry.register handle) := by
  rw [register_of_unknown unknown]
  simp [enrol, contains, unknown, Thread.appear]

namespace Ordered

/-- No record has the next number, so a known one is told from a new one. -/
theorem enrol_of_known (ordered : registry.Ordered) (found : registry.get? handle = some thread) :
    registry.enrol handle = (thread, registry) := by
  have old : thread.number ≠ registry.lastNumber + 1 :=
    Nat.ne_of_lt (Nat.lt_succ_of_le (ordered.handedOut thread (get?_eq_some found).1))
  simp [enrol, contains, found, old]

theorem enrol_snd (ordered : registry.Ordered) : (registry.enrol handle).2 = registry.register handle := by
  cases found : registry.get? handle with
  | none => rw [enrol_of_unknown found]
  | some thread => rw [ordered.enrol_of_known found, register_of_known found]

/-- A record is taken out and the others stay in their places. -/
theorem remove_of_known (ordered : registry.Ordered) (found : registry.get? handle = some thread) :
    ∃ before after, registry.threads = before ++ thread :: after ∧
      (registry.remove handle).threads = before ++ after := by
  obtain ⟨mem, rfl⟩ := get?_eq_some found
  obtain ⟨before, after, parts⟩ := List.append_of_mem mem
  have distinct := ordered.distinct
  rw [parts, List.map_append, List.map_cons, List.nodup_middle, List.nodup_cons,
    ← List.map_append] at distinct
  have others : ∀ other ∈ before ++ after, decide (other.handle ≠ thread.handle) = true := by
    intro other here
    refine decide_eq_true fun same => distinct.1 ?_
    rw [← same]
    exact List.mem_map_of_mem here
  refine ⟨before, after, parts, ?_⟩
  rw [ThreadRegistry.remove, parts, List.filter_append, List.filter_cons_of_neg (by simp),
    ← List.filter_append]
  exact List.filter_eq_self.mpr others

end Ordered

/-! ### Histories -/

/-- What can be done to a registry. -/
inductive Change where
  | register (handle : ThreadRef)
  | remove (handle : ThreadRef)
  | setFocus (handle : ThreadRef)
  | setStatusAll (status : ThreadStatus)
  | clear
  | update (handle : ThreadRef) (writing : Thread.Update)

namespace Change

def apply (registry : ThreadRegistry) : Change → ThreadRegistry
  | .register handle => registry.register handle
  | .remove handle => registry.remove handle
  | .setFocus handle => registry.setFocus handle
  | .setStatusAll status => registry.setStatusAll status
  | .clear => registry.clear
  | .update handle writing => registry.modify handle writing.apply

/-- A change, with registration by number. -/
def applyByNumber (registry : ThreadRegistry) : Change → ThreadRegistry
  | .register handle => (registry.enrol handle).2
  | change => change.apply registry

/-- The records that a change brings: those of handles that were unknown. -/
def creates (registry : ThreadRegistry) (change : Change) : List Thread :=
  (change.apply registry).threads.filter fun thread => !registry.contains thread.handle

end Change

/-- The registry after changes. -/
def run (registry : ThreadRegistry) (changes : List Change) : ThreadRegistry :=
  changes.foldl Change.apply registry

/-- The registry after changes, with registration by number. -/
def runByNumber (registry : ThreadRegistry) (changes : List Change) : ThreadRegistry :=
  changes.foldl Change.applyByNumber registry

/-- The records that come up in a history, in the order of their creation. -/
def created (registry : ThreadRegistry) : List Change → List Thread
  | [] => []
  | change :: later => change.creates registry ++ created (change.apply registry) later

/-- The record is there, as far as number and handle go. -/
def Stems (records : List Thread) (thread : Thread) : Prop :=
  ∃ record ∈ records, record.number = thread.number ∧ record.handle = thread.handle

namespace Change

theorem ordered (change : Change) (ordered : registry.Ordered) : (change.apply registry).Ordered := by
  cases change with
  | register handle => exact ordered.register
  | remove handle => exact ordered.remove
  | setFocus handle => exact ordered.setFocus
  | setStatusAll status => exact ordered.setStatusAll
  | clear => exact .clear
  | update handle writing => exact ordered.modify writing.number_apply writing.handle_apply

/-- In a registry in order it makes no difference how a thread is registered. -/
theorem applyByNumber_eq (change : Change) (ordered : registry.Ordered) :
    change.applyByNumber registry = change.apply registry := by
  cases change with
  | register handle => exact ordered.enrol_snd
  | _ => rfl

/-- Registration of an unknown thread adds one record under the next number. No other change adds a record
or touches a number. -/
theorem adds_or_keeps (registry : ThreadRegistry) (change : Change) :
    (∃ handle, change.apply registry = registry.register handle ∧ registry.get? handle = none) ∨
      (change.apply registry).lastNumber = registry.lastNumber ∧
        (change.apply registry).Records (Stems registry.threads) := by
  have here : registry.Records (Stems registry.threads) := fun thread mem => ⟨thread, mem, rfl, rfl⟩
  cases change with
  | register handle =>
      cases found : registry.get? handle with
      | none => exact .inl ⟨handle, rfl, found⟩
      | some thread =>
          refine .inr ?_
          rw [apply, register_of_known found]
          exact ⟨rfl, here⟩
  | remove handle => exact .inr ⟨rfl, here.remove⟩
  | setFocus handle =>
      refine .inr ⟨?_, here.setFocus⟩
      rw [apply, ThreadRegistry.setFocus]
      split <;> rfl
  | setStatusAll status =>
      refine .inr ⟨rfl, here.setStatusAll fun thread ⟨record, mem, number, handle⟩ => ?_⟩
      exact ⟨record, mem, by simpa using number, by simpa using handle⟩
  | clear => exact .inr ⟨rfl, .clear⟩
  | update handle writing =>
      refine .inr ⟨rfl, here.modify fun thread ⟨record, mem, number, handle⟩ => ?_⟩
      exact ⟨record, mem, number.trans (writing.number_apply thread).symm,
        handle.trans (writing.handle_apply thread).symm⟩

/-- What is known stays out of the records that are created. -/
theorem creates_of_keeps {change : Change}
    (keeps : (change.apply registry).Records (Stems registry.threads)) : change.creates registry = [] := by
  refine List.filter_eq_nil_iff.mpr fun thread mem => ?_
  obtain ⟨record, old, -, same⟩ := keeps thread mem
  have known : registry.contains thread.handle = true := contains_iff.mpr ⟨record, old, same⟩
  simp [known]

theorem creates_of_adds {change : Change} (adds : change.apply registry = registry.register handle)
    (unknown : registry.get? handle = none) :
    change.creates registry = [.appear (registry.lastNumber + 1) handle] := by
  have old : registry.threads.filter (fun thread => !registry.contains thread.handle) = [] := by
    refine List.filter_eq_nil_iff.mpr fun thread mem => ?_
    have known : registry.contains thread.handle = true := contains_iff.mpr ⟨thread, mem, rfl⟩
    simp [known]
  have new : registry.contains (Thread.appear (registry.lastNumber + 1) handle).handle = false := by
    simp [Thread.appear, contains, unknown]
  rw [creates, adds, register_of_unknown unknown, List.filter_append, old,
    List.filter_cons_of_pos (by simp [new]), List.filter_nil, List.nil_append]

end Change

/-- A history stays in order, so the decision by number leads to the same registry. -/
theorem Ordered.runByNumber_eq (ordered : registry.Ordered) (changes : List Change) :
    registry.runByNumber changes = registry.run changes := by
  induction changes generalizing registry with
  | nil => rfl
  | cons first later ih =>
      rw [runByNumber, run, List.foldl_cons, List.foldl_cons, first.applyByNumber_eq ordered]
      exact ih (first.ordered ordered)

/-- The registry is in order, the records created so far have the numbers from 1 on, and every record that
is present is one of them. -/
structure Counts (registry : ThreadRegistry) (records : List Thread) : Prop where
  ordered : registry.Ordered
  last : registry.lastNumber = records.length
  numbers : records.map Thread.number = List.range' 1 records.length
  stems : registry.Records (Stems records)

namespace Counts

variable {records : List Thread}

theorem empty : Counts {} [] := ⟨.empty, rfl, rfl, fun _ mem => nomatch mem⟩

theorem register (counts : Counts registry records) (unknown : registry.get? handle = none) :
    Counts (registry.register handle) (records ++ [.appear (registry.lastNumber + 1) handle]) where
  ordered := counts.ordered.register
  last := by simp [register_of_unknown unknown, counts.last]
  numbers := by
    rw [List.map_append, counts.numbers, List.length_append, List.length_singleton, List.range'_1_concat,
      counts.last, Nat.add_comm 1]
    rfl
  stems := by
    rw [register_of_unknown unknown]
    intro thread mem
    rcases List.mem_append.mp mem with old | new
    · obtain ⟨record, here, same⟩ := counts.stems thread old
      exact ⟨record, List.mem_append_left _ here, same⟩
    · rw [List.mem_singleton.mp new]
      exact ⟨_, List.mem_append_right _ List.mem_cons_self, rfl, rfl⟩

/-- A change keeps the count. -/
theorem change (counts : Counts registry records) (change : Change) :
    Counts (change.apply registry) (records ++ change.creates registry) := by
  rcases change.adds_or_keeps registry with ⟨handle, adds, unknown⟩ | ⟨last, keeps⟩
  · rw [Change.creates_of_adds adds unknown, adds]
    exact counts.register unknown
  · rw [Change.creates_of_keeps keeps, List.append_nil]
    refine ⟨change.ordered counts.ordered, last.trans counts.last, counts.numbers, fun thread mem => ?_⟩
    obtain ⟨old, here, number, handle⟩ := keeps thread mem
    obtain ⟨record, first, number', handle'⟩ := counts.stems old here
    exact ⟨record, first, number'.trans number, handle'.trans handle⟩

/-- A history keeps the count. -/
theorem run (counts : Counts registry records) (changes : List Change) :
    Counts (registry.run changes) (records ++ registry.created changes) := by
  induction changes generalizing registry records with
  | nil =>
      rw [created, List.append_nil]
      exact counts
  | cons first later ih =>
      rw [created, ← List.append_assoc]
      exact ih (counts.change first)

theorem nodup_numbers (counts : Counts registry records) : (records.map Thread.number).Nodup := by
  rw [counts.numbers]
  exact List.nodup_range'

end Counts

theorem created_append (registry : ThreadRegistry) (first later : List Change) :
    registry.created (first ++ later) = registry.created first ++ (registry.run first).created later := by
  induction first generalizing registry with
  | nil => rfl
  | cons change rest ih =>
      rw [List.cons_append, created, ih, created, List.append_assoc]
      rfl

/-- After every history the registry is in order, each of the records created so far got the next number, so
that none was handed out twice, and every record that is present was created under its number and handle. To
register a known handle changes nothing and finds its record, and to remove it takes its record out from
between the others. An unknown handle gets the next number when it is registered, and there is nothing to
remove. The decision by number is right: a history that registers by number leads to the same registry. -/
theorem numbers_never_reused (changes : List Change) :
    Counts (run {} changes) (created {} changes) ∧ ((created {} changes).map Thread.number).Nodup ∧
    runByNumber {} changes = run {} changes ∧
    (∀ handle, ((run {} changes).enrol handle).2 = (run {} changes).register handle) ∧
    (∀ handle thread, (run {} changes).get? handle = some thread →
      thread.handle = handle ∧ (run {} changes).enrol handle = (thread, run {} changes) ∧
      ∃ before after, (run {} changes).threads = before ++ thread :: after ∧
        ((run {} changes).remove handle).threads = before ++ after) ∧
    ∀ handle, (run {} changes).get? handle = none →
      ((run {} changes).enrol handle).1 = .appear ((created {} changes).length + 1) handle ∧
        created {} (changes ++ [.register handle]) =
          created {} changes ++ [((run {} changes).enrol handle).1] ∧
        (run {} changes).remove handle = run {} changes := by
  have counts : Counts (run {} changes) (created {} changes) := Counts.empty.run changes
  refine ⟨counts, counts.nodup_numbers, Ordered.empty.runByNumber_eq changes,
    fun _ => counts.ordered.enrol_snd, fun handle thread found => ?_, fun handle unknown => ?_⟩
  · exact ⟨(get?_eq_some found).2, counts.ordered.enrol_of_known found, counts.ordered.remove_of_known found⟩
  · have creates : (Change.register handle).creates (run {} changes) = [.appear _ handle] :=
      Change.creates_of_adds rfl unknown
    refine ⟨?_, ?_, counts.ordered.remove_of_unknown unknown⟩
    · rw [enrol_of_unknown unknown, counts.last]
    · rw [enrol_of_unknown unknown, created_append, created, created, creates, List.append_nil]

end ThreadRegistry

namespace Numbering.Sample

/-- A thread steps while another one goes away and comes back. -/
def returning : List ThreadRegistry.Change :=
  [.register ⟨1⟩, .register ⟨2⟩, .setFocus ⟨1⟩, .update ⟨2⟩ (.startStep ⟨.into, ⟨5⟩⟩), .remove ⟨1⟩,
    .setStatusAll .suspended, .update ⟨2⟩ (.abandonStep .suspended), .register ⟨1⟩,
    .update ⟨1⟩ (.setStatus .suspended), .update ⟨1⟩ (.stopAt default)]

end Numbering.Sample

open Numbering.Sample in
theorem ThreadRegistry.numbers_never_reused_returning :
    ∃ thread, (run {} returning).get? ⟨1⟩ = some thread ∧ thread.number = 3 ∧
      (run {} returning).enrol ⟨1⟩ = (thread, run {} returning) ∧
      ((created {} returning).map Thread.number).Nodup ∧ runByNumber {} returning = run {} returning ∧
      (run {} returning).get? ⟨9⟩ = none ∧ (run {} returning).remove ⟨9⟩ = run {} returning := by
  obtain ⟨-, distinct, same, -, known, unknown⟩ := numbers_never_reused returning
  have found : (run {} returning).get? ⟨1⟩ =
      some ⟨3, ⟨1⟩, .suspended, none, some default⟩ := by decide
  have absent : (run {} returning).get? ⟨9⟩ = none := by decide
  exact ⟨_, found, rfl, (known _ _ found).2.1, distinct, same, absent, (unknown _ absent).2.2⟩

end RemoteDebug
