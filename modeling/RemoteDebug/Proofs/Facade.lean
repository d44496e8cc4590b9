import RemoteDebug.Proofs.Composition

/-!
Facades: what a target replies to whatever is asked.

A facade is a target as a run sees it: it has a reply to each request, which may depend on all that passed
before. The flag that lets the evaluation run is not its business. Others may clear the flag while a
request waits for its reply, and then it stays cleared.

* `Meets` says that the replies on a course are those of a facade, and where the flag is cleared. A dialogue
  has one such course, see `Dialogue.exists_meets` and `Dialogue.Course.settled`.
* `Operation.Heedless` operations hand the flag on and do not look at it. All parts of instructions are
  heedless (`Evaluation.Composed.heedless`), so with another flag they go the same way.
-/

namespace RemoteDebug

/-- A course as the target sees it: without the flag. -/
def outward (passed : List (Exchange Bool)) : List (Exchange Unit) := passed.map (.onPart fun _ => ())

/-- The same course under a flag that stays set. -/
def kept (passed : List (Exchange Bool)) : List (Exchange Bool) := passed.map (.onPart fun _ => true)

/-- The replies of a target: to a request, after what passed before. -/
abbrev Facade : Type := List (Exchange Unit) → (request : Request) → request.Reply

/-- `Meets facade clears prior passed`: after `prior`, the replies on `passed` are those of the facade, and
the flag comes back as it was handed over, except that it comes back cleared at the places `clears`. -/
def Meets (facade : Facade) (clears : Nat → Bool) :
    List (Exchange Unit) → List (Exchange Bool) → Prop
  | _, [] => True
  | prior, .told n :: later => Meets facade clears (prior ++ [.told n]) later
  | prior, .asked q s reply t :: later =>
    (reply = facade prior q ∧ t = (s && !clears prior.length)) ∧
      Meets facade clears (prior ++ [.asked q () reply ()]) later

/-- Nobody clears the flag. -/
def undisturbed (_ : Nat) : Bool := false

/-- The flag is cleared while the request at one place waits. -/
def stopAt (place : Nat) (n : Nat) : Bool := n == place

theorem outward_append (first second : List (Exchange Bool)) :
    outward (first ++ second) = outward first ++ outward second :=
  List.map_append

theorem kept_append (first second : List (Exchange Bool)) :
    kept (first ++ second) = kept first ++ kept second :=
  List.map_append

theorem outward_kept (passed : List (Exchange Bool)) : outward (kept passed) = outward passed := by
  unfold outward kept
  rw [List.map_map]
  congr 1
  funext e
  cases e <;> rfl

namespace Meets

variable {facade : Facade} {clears clears' : Nat → Bool} {prior : List (Exchange Unit)}
  {passed : List (Exchange Bool)} {s t : Bool}

theorem append_iff {first second : List (Exchange Bool)} :
    Meets facade clears prior (first ++ second) ↔
      Meets facade clears prior first ∧ Meets facade clears (prior ++ outward first) second := by
  induction first generalizing prior with
  | nil => simp [Meets, outward]
  | cons e first ih =>
      cases e with
      | told n =>
          simp only [List.cons_append, Meets, ih, outward, List.map_cons, Exchange.onPart,
            List.append_assoc, List.nil_append]
      | asked q s reply t =>
          simp only [List.cons_append, Meets, ih, outward, List.map_cons, Exchange.onPart,
            List.append_assoc, List.nil_append, and_assoc]

/-- What matters is who clears the flag on the way. -/
theorem congr (meets : Meets facade clears prior passed)
    (same : ∀ n, prior.length ≤ n → n < prior.length + passed.length → clears n = clears' n) :
    Meets facade clears' prior passed := by
  induction passed generalizing prior with
  | nil => trivial
  | cons e later ih =>
      have sameLater : ∀ (e' : Exchange Unit) n, (prior ++ [e']).length ≤ n →
          n < (prior ++ [e']).length + later.length → clears n = clears' n := by
        intro e' n low high
        rw [List.length_append, List.length_singleton] at low high
        exact same n (by omega) (by rw [List.length_cons]; omega)
      cases e with
      | told n => exact ih meets (sameLater _)
      | asked q s reply t =>
          obtain ⟨⟨replies, back⟩, rest⟩ := meets
          rw [same prior.length (Nat.le_refl _) (by simp)] at back
          exact ⟨⟨replies, back⟩, ih rest (sameLater _)⟩

theorem keep (meets : Meets facade clears prior passed) :
    Meets facade undisturbed prior (kept passed) := by
  induction passed generalizing prior with
  | nil => trivial
  | cons e later ih =>
      cases e with
      | told n => exact ih meets
      | asked q s reply t => exact ⟨⟨meets.1.1, rfl⟩, ih meets.2⟩

/-- A cleared flag stays cleared. -/
theorem stays_cleared (meets : Meets facade clears prior passed) (carries : Carries id false passed t) :
    t = false := by
  induction passed generalizing prior with
  | nil => exact carries
  | cons e later ih =>
      cases e with
      | told n => exact ih meets carries
      | asked q u reply v =>
          obtain ⟨⟨-, rfl⟩, rest⟩ := meets
          obtain ⟨rfl, carries⟩ := carries
          exact ih rest carries

end Meets

theorem Carries.append_iff {σ ρ : Type} {part : σ → ρ} {r r' : ρ} {first second : List (Exchange σ)} :
    Carries part r (first ++ second) r' ↔
      ∃ u, Carries part r first u ∧ Carries part u second r' := by
  induction first generalizing r with
  | nil => simp [Carries]
  | cons e first ih =>
      cases e with
      | told n => simp only [List.cons_append, Carries, ih]
      | asked q s reply t => simp only [List.cons_append, Carries, ih, and_assoc, exists_and_left]

/-- A flag that is cleared on the way is cleared at the end. -/
theorem Meets.cleared {facade : Facade} {prior : List (Exchange Unit)}
    {before after : List (Exchange Bool)} {q : Request} {s t u v : Bool} {reply : q.Reply}
    (meets : Meets facade (stopAt (prior.length + before.length)) prior
      (before ++ .asked q u reply v :: after))
    (carries : Carries id s (before ++ .asked q u reply v :: after) t) : t = false := by
  obtain ⟨-, ⟨-, back⟩, rest⟩ := Meets.append_iff.mp meets
  obtain ⟨_, -, -, carries⟩ := Carries.append_iff.mp carries
  have clears : v = false := by
    rw [back]
    simp [stopAt, outward]
  rw [id, clears] at carries
  exact rest.stays_cleared carries

/-- Courses that look the same to the target have the same requests at the same places. -/
theorem split_of_outward {passed before after : List (Exchange Bool)} {q : Request} {s t : Bool}
    {reply : q.Reply} (same : outward passed = outward (before ++ .asked q s reply t :: after)) :
    ∃ before' s' t' after', passed = before' ++ .asked q s' reply t' :: after' ∧
      before'.length = before.length := by
  rw [outward_append] at same
  obtain ⟨before', rest, rfl, alike, same⟩ := List.map_eq_append_iff.mp same
  obtain ⟨e, after', rfl, looks, -⟩ := List.map_eq_cons_iff.mp same
  refine ⟨before', ?_⟩
  cases e with
  | told n => cases looks
  | asked q' s' reply' t' =>
      cases looks
      refine ⟨s', t', after', rfl, ?_⟩
      simpa [outward] using congrArg List.length alike

namespace Dialogue

variable {α : Type} {facade : Facade} {clears : Nat → Bool}

theorem exists_meets (d : Dialogue Bool α) (prior : List (Exchange Unit)) :
    ∃ passed a, d.Course passed a ∧ Meets facade clears prior passed := by
  induction d generalizing prior with
  | done a => exact ⟨[], a, .done, trivial⟩
  | note n rest ih =>
      obtain ⟨later, a, course, meets⟩ := ih () (prior ++ [.told n])
      exact ⟨_, a, .note course, meets⟩
  | ask q s next ih =>
      obtain ⟨later, a, course, meets⟩ :=
        ih (facade prior q) (s && !clears prior.length) (prior ++ [.asked q () (facade prior q) ()])
      exact ⟨_, a, .ask course, ⟨rfl, rfl⟩, meets⟩

theorem Course.settled {d : Dialogue Bool α} {prior : List (Exchange Unit)}
    {passed passed' : List (Exchange Bool)} {a a' : α} (course : Course d passed a)
    (course' : Course d passed' a') (meets : Meets facade clears prior passed)
    (meets' : Meets facade clears prior passed') : passed = passed' ∧ a = a' := by
  induction course generalizing prior passed' with
  | done =>
      obtain ⟨rfl, rfl⟩ := done_iff.mp course'
      exact ⟨rfl, rfl⟩
  | note _ ih =>
      obtain ⟨later, goes, rfl⟩ := note_iff.mp course'
      obtain ⟨rfl, rfl⟩ := ih goes meets meets'
      exact ⟨rfl, rfl⟩
  | ask _ ih =>
      obtain ⟨reply, t, later, goes, rfl⟩ := ask_iff.mp course'
      obtain ⟨⟨rfl, rfl⟩, rest⟩ := meets
      obtain ⟨⟨rfl, rfl⟩, rest'⟩ := meets'
      obtain ⟨rfl, rfl⟩ := ih goes rest rest'
      exact ⟨rfl, rfl⟩

end Dialogue

/-! ### Heedless operations -/

/-- The operation hands the flag on as it came back, and under a flag that stays set it goes the same way. -/
def Operation.Heedless {α : Type} (x : Operation Bool α) : Prop :=
  ∀ s passed a t, x.Course s passed a t → Carries id s passed t ∧ x.Course true (kept passed) a true

namespace Operation.Heedless

variable {α β : Type}

theorem pure (a : α) : Heedless (Pure.pure a : Operation Bool α) := by
  intro s passed b t course
  obtain ⟨rfl, rfl, rfl⟩ := Operation.Course.pure_iff.mp course
  exact ⟨rfl, Operation.Course.pure_iff.mpr ⟨rfl, rfl, rfl⟩⟩

theorem bind {x : Operation Bool α} {f : α → Operation Bool β} (first : x.Heedless)
    (rest : ∀ a, (f a).Heedless) : (x >>= f).Heedless := by
  intro s passed b t course
  obtain ⟨a, u, _, _, head, tail, rfl⟩ := Operation.Course.bind_iff.mp course
  obtain ⟨carries, keeps⟩ := first _ _ _ _ head
  obtain ⟨carries', keeps'⟩ := rest a _ _ _ _ tail
  rw [kept_append]
  exact ⟨Carries.append_iff.mpr ⟨u, carries, carries'⟩,
    Operation.Course.bind_iff.mpr ⟨a, true, _, _, keeps, keeps', rfl⟩⟩

theorem tell (n : Note) : Heedless (Operation.tell n) := by
  intro s passed u t course
  obtain ⟨rfl, rfl⟩ := Operation.Course.tell_iff.mp course
  exact ⟨rfl, Operation.Course.tell_iff.mpr ⟨rfl, rfl⟩⟩

theorem ask (q : Request) : Heedless (Operation.ask q) := by
  intro s passed reply t course
  cases Operation.Course.ask_iff.mp course
  exact ⟨⟨rfl, rfl⟩, Operation.Course.ask_iff.mpr rfl⟩

theorem run_bind {ε : Type} {x : ExceptT ε (Operation Bool) α} {f : α → ExceptT ε (Operation Bool) β}
    (first : x.run.Heedless) (rest : ∀ a, (f a).run.Heedless) : (x >>= f).run.Heedless := by
  rw [ExceptT.run_bind]
  refine first.bind fun r => ?_
  cases r with
  | ok a => exact rest a
  | error e => exact pure _

theorem run_perform {ε : Type} {x : Operation Bool α} (heedless : x.Heedless) :
    (perform x : ExceptT ε (Operation Bool) α).run.Heedless :=
  heedless.bind fun _ => pure _

theorem run_call (c : Call) : (Attempt.call c : Attempt Bool c.Answer).run.Heedless := by
  refine run_bind (run_perform (ask _)) fun answer => ?_
  cases answer with
  | ok answer => exact pure _
  | error failure => exact pure _

end Operation.Heedless

open Operation in
theorem Resolution.load_heedless (resolution : Resolution) (name : String) :
    (resolution.load name : Attempt Bool _).run.Heedless := by
  unfold load
  refine .run_bind (.run_call _) fun types => ?_
  split
  · refine .run_bind (.run_call _) fun argument => .run_bind (.run_perform (.ask _)) fun loaded => ?_
    split
    · exact .pure _
    · split
      · exact .run_bind (.run_perform (.tell _)) fun _ => .pure _
      · exact .pure _
  · exact .pure _

/-- No part of an instruction looks at the flag. -/
theorem Evaluation.Composed.heedless {scope : Scope} {changes : Machine → Machine → Prop} {α : Type}
    {x : Evaluation α} (composed : Composed scope changes x) (m : Machine) :
    Operation.Heedless (x.run.run m) := by
  have attempts {β : Type} {y : Attempt Bool β} (heedless : y.run.Heedless) (m : Machine) :
      Operation.Heedless ((attempt y).run.run m) :=
    heedless.bind fun _ => .pure _
  have binds {β γ : Type} {y : Evaluation β} {f : β → Evaluation γ}
      (first : ∀ m, Operation.Heedless (y.run.run m))
      (rest : ∀ b m, Operation.Heedless ((f b).run.run m)) (m : Machine) :
      Operation.Heedless ((y >>= f).run.run m) := by
    rw [run_bind]
    refine (first m).bind fun p => ?_
    obtain ⟨fault | b, n⟩ := p
    · exact .pure _
    · exact rest b n
  induction composed generalizing m with
  | pure a => exact .pure _
  | throw own => exact .pure _
  | bind _ _ ihx ihf => exact binds ihx ihf m
  | get => exact .pure _
  | modify change => exact .pure _
  | call c => exact attempts (.run_call c) m
  | log entry => exact attempts (.run_perform (.tell _)) m
  | survey name _ ih =>
      refine binds (attempts (Resolution.load_heedless _ _)) (fun loaded => ?_) m
      exact binds (attempts (.run_call _)) (ih loaded)

end RemoteDebug
