import RemoteDebug.Proofs.Handling

/-!
What operations keep.

While an operation waits, others may change the shared state. `Operation.Keeps I` says that the operation
does its part for a condition `I`: as long as the others keep it, the operation hands over only states
that satisfy it and leaves one that does. The laws follow the ways in which operations are put together.
-/

namespace RemoteDebug

open Operation

/-- Whoever had the shared state while the operation waited kept the condition. -/
def Exchange.Keeps {σ : Type} (I : σ → Prop) : Exchange σ → Prop
  | .told _ => True
  | .asked _ before _ after => I before → I after

/-- While the operation waited, a part of the shared state was left alone. -/
def Exchange.LeavesAlone {σ τ : Type} (part : σ → τ) : Exchange σ → Prop
  | .told _ => True
  | .asked _ before _ after => part after = part before

/-- The shared states that are handed over satisfy a condition. -/
def Shown {σ : Type} (I : σ → Prop) (passed : List (Exchange σ)) : Prop :=
  ∀ q before reply after, .asked q before reply after ∈ passed → I before

/-- An operation that keeps a condition if the others do. -/
def Operation.Keeps {σ α : Type} (I : σ → Prop) (x : Operation σ α) : Prop :=
  ∀ s passed a t, x.Course s passed a t → I s → (∀ e ∈ passed, e.Keeps I) → I t ∧ Shown I passed

section Shown

variable {σ : Type} {I : σ → Prop}

theorem Shown.nil : Shown I [] := fun _ _ _ _ mem => nomatch mem

theorem Shown.told {n : Note} {passed : List (Exchange σ)} (shown : Shown I passed) :
    Shown I (.told n :: passed) :=
  fun q before reply after mem => shown q before reply after (by simpa using mem)

theorem Shown.asked {q : Request} {before after : σ} {reply : q.Reply} {passed : List (Exchange σ)}
    (here : I before) (shown : Shown I passed) : Shown I (.asked q before reply after :: passed) := by
  intro q' before' reply' after' mem
  rcases List.mem_cons.mp mem with same | mem
  · cases same
    exact here
  · exact shown q' before' reply' after' mem

theorem Shown.append {first second : List (Exchange σ)} (head : Shown I first) (tail : Shown I second) :
    Shown I (first ++ second) := by
  intro q before reply after mem
  rcases List.mem_append.mp mem with mem | mem
  · exact head q before reply after mem
  · exact tail q before reply after mem

end Shown

namespace Operation.Keeps

variable {σ α β ε : Type} {I : σ → Prop}

theorem pure {a : α} : (pure a : Operation σ α).Keeps I := by
  intro s passed b t course holds _
  obtain ⟨rfl, rfl, rfl⟩ := Course.pure_iff.mp course
  exact ⟨holds, .nil⟩

theorem bind {x : Operation σ α} {f : α → Operation σ β} (keeps : x.Keeps I)
    (next : ∀ a, (f a).Keeps I) : (x >>= f).Keeps I := by
  intro s passed b t course holds others
  obtain ⟨a, u, first, second, head, tail, rfl⟩ := Course.bind_iff.mp course
  obtain ⟨between, shown⟩ := keeps _ _ _ _ head holds fun e mem => others e (List.mem_append_left _ mem)
  obtain ⟨last, shown'⟩ := next a _ _ _ _ tail between fun e mem =>
    others e (List.mem_append_right _ mem)
  exact ⟨last, shown.append shown'⟩

theorem read : (Operation.read : Operation σ σ).Keeps I := by
  intro s passed a t course holds _
  cases course
  exact ⟨holds, .nil⟩

theorem update {f : σ → σ} (keeps : ∀ s, I s → I (f s)) : (Operation.update f).Keeps I := by
  intro s passed a t course holds _
  obtain ⟨rfl, rfl⟩ := Course.update_iff.mp course
  exact ⟨keeps s holds, .nil⟩

theorem tell {n : Note} : (Operation.tell n : Operation σ Unit).Keeps I := by
  intro s passed a t course holds _
  obtain ⟨rfl, rfl⟩ := Course.tell_iff.mp course
  exact ⟨holds, .told .nil⟩

theorem ask {q : Request} : (Operation.ask q : Operation σ q.Reply).Keeps I := by
  intro s passed reply t course holds others
  obtain rfl := Course.ask_iff.mp course
  exact ⟨others _ List.mem_cons_self holds, .asked holds .nil⟩

/-! ### Operations that can end early -/

theorem run_pure {b : β} : (ExceptT.run (Pure.pure b : ExceptT ε (Operation σ) β)).Keeps I :=
  Keeps.pure

theorem run_throw {e : ε} : (ExceptT.run (throw e : ExceptT ε (Operation σ) β)).Keeps I :=
  Keeps.pure

theorem run_bind {x : ExceptT ε (Operation σ) α} {f : α → ExceptT ε (Operation σ) β}
    (keeps : x.run.Keeps I) (next : ∀ a, (f a).run.Keeps I) : (x >>= f).run.Keeps I := by
  rw [ExceptT.run_bind]
  refine keeps.bind fun r => ?_
  cases r with
  | ok a => exact next a
  | error e => exact .pure

theorem run_perform {x : Operation σ β} (keeps : x.Keeps I) :
    (ExceptT.run (perform x : ExceptT ε (Operation σ) β)).Keeps I :=
  keeps.bind fun _ => .pure

theorem handling_call {c : Call} : (Handling.call c : Handling σ c.Answer).run.Keeps I := by
  refine .run_bind (.run_perform .ask) fun answer => ?_
  cases answer with
  | ok answer => exact .run_pure
  | error failure => exact .run_throw

theorem attempt_call {c : Call} : (Attempt.call c : Attempt σ c.Answer).run.Keeps I := by
  refine .run_bind (.run_perform .ask) fun answer => ?_
  cases answer with
  | ok answer => exact .run_pure
  | error failure => exact .run_throw

theorem announce {notice : Notice} : (Handling.announce notice : Handling σ Unit).run.Keeps I := by
  refine .run_bind (.run_perform .ask) fun reply => ?_
  cases reply with
  | done => exact .run_pure
  | failed problem => exact .run_perform .tell
  | panicked text => exact .run_throw

end Operation.Keeps

/-! ### Parts of the shared state -/

section Parts

variable {σ τ : Type} {I : τ → Prop} {part : σ → τ} {passed : List (Exchange σ)}

theorem Exchange.keeps_onPart
    (others : ∀ q s reply t, .asked q s reply t ∈ passed → I (part s) → I (part t)) :
    ∀ e ∈ passed.map (Exchange.onPart part), e.Keeps I := by
  intro e mem
  obtain ⟨whole, here, rfl⟩ := List.mem_map.mp mem
  cases whole with
  | told n => trivial
  | asked q s reply t => exact others q s reply t here

theorem Exchange.leavesAlone_onPart (alone : ∀ e ∈ passed, e.LeavesAlone part) :
    ∀ e ∈ passed.map (Exchange.onPart part), e.LeavesAlone id := by
  intro e mem
  obtain ⟨whole, here, rfl⟩ := List.mem_map.mp mem
  cases whole with
  | told n => trivial
  | asked q s reply t => exact alone (.asked q s reply t) here

theorem Shown.onPart_iff :
    Shown I (passed.map (Exchange.onPart part)) ↔ Shown (fun s => I (part s)) passed := by
  constructor
  · intro shown q s reply t mem
    exact shown q _ reply _ (List.mem_map_of_mem mem)
  · intro shown q before reply after mem
    obtain ⟨whole, here, same⟩ := List.mem_map.mp mem
    cases whole with
    | told n => cases same
    | asked q' s reply' t =>
        cases same
        exact shown q s reply t here

end Parts

/-- What an operation on the target keeps, it keeps at work on the site. -/
theorem Site.onTarget_keeps {ε α : Type} {x : ExceptT ε (Operation Target) α} {I : Target → Prop}
    (keeps : x.run.Keeps I) : (onTarget x).run.Keeps fun site => I site.target := by
  intro site passed r site' course holds others
  obtain ⟨course, -⟩ := onTarget_iff.mp course
  obtain ⟨last, shown⟩ := keeps _ _ _ _ course holds <|
    Exchange.keeps_onPart fun q s reply t mem => others (.asked q s reply t) mem
  exact ⟨last, Shown.onPart_iff.mp shown⟩

end RemoteDebug
