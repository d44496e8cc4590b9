import RemoteDebug.Proofs.Announcement

/-!
Surroundings that hooks cannot sway.

Surroundings reply to requests by what has passed before, but for which hooks failed: failures of hooks are
forgiven (`Exchange.forgiven?`). `Among` says that the replies on a course are those of the surroundings, up
to failures of hooks. Whoever goes on after the failure of a hook as if there had been none goes one way only
among the same surroundings (`Dialogue.Blind.one_way`).
-/

namespace RemoteDebug

open Operation

/-! ### Forgiven failures -/

/-- The reply as if the hook had not failed. -/
def HookReply.forgiven : HookReply → HookReply
  | .failed _ => .done
  | reply => reply

/-- A reply as if no hook had failed. -/
def Request.forgive : (request : Request) → request.Reply → request.Reply
  | .hook _, reply => HookReply.forgiven reply
  | .call _, reply | .listen .., reply | .read _, reply => reply

/-- An exchange as if no hook had failed: then there is no report of it. -/
def Exchange.forgiven? {σ : Type} : Exchange σ → Option (Exchange σ)
  | .told (.report (.error .target (.hook _))) => none
  | .told note => some (.told note)
  | .asked q s reply t => some (.asked q s (q.forgive reply) t)

/-- What passes, as if no hook had failed. -/
def forgiven {σ : Type} (passed : List (Exchange σ)) : List (Exchange σ) :=
  passed.filterMap Exchange.forgiven?

theorem Request.forgive_of_not_hook {q : Request} (other : q.isHook = false) (reply : q.Reply) :
    q.forgive reply = reply := by
  cases q with
  | hook => cases other
  | call | listen | read => rfl

section Forgiven

variable {σ : Type}

@[simp] theorem forgiven_append (first second : List (Exchange σ)) :
    forgiven (first ++ second) = forgiven first ++ forgiven second :=
  List.filterMap_append

theorem forgiven_cons (e : Exchange σ) (later : List (Exchange σ)) :
    forgiven (e :: later) = forgiven [e] ++ forgiven later :=
  forgiven_append [e] later

@[simp] theorem forgiven_remarks (reply : HookReply) :
    forgiven (reply.remarks : List (Exchange σ)) = [] := by
  cases reply <;> rfl

theorem forgiven_hook {notice : Notice} {s t : σ} {reply : HookReply} {later : List (Exchange σ)} :
    forgiven (.asked (.hook notice) s reply t :: (reply.remarks ++ later)) =
      .asked (.hook notice) s reply.forgiven t :: forgiven later := by
  rw [forgiven_cons, forgiven_append, forgiven_remarks]
  rfl

/-- What is asked for, with the shared state that is handed over. -/
def Exchange.demand? : Exchange σ → Option (Request × σ)
  | .told _ => none
  | .asked q s _ _ => some (q, s)

/-- No request is lost when failures are forgiven. -/
theorem demands_forgiven (passed : List (Exchange σ)) :
    (forgiven passed).filterMap Exchange.demand? = passed.filterMap Exchange.demand? := by
  rw [forgiven, List.filterMap_filterMap]
  congr 1
  funext e
  cases e with
  | asked => rfl
  | told note =>
      unfold Exchange.forgiven?
      split
      · rfl
      · rfl
      · contradiction

end Forgiven

/-! ### Surroundings -/

/-- What the surroundings do about a request, by what passed before: they reply, and the shared state comes
back. -/
abbrev Surroundings (σ : Type) : Type := List (Exchange σ) → (request : Request) → σ → request.Reply × σ

/-- `Among surroundings prior passed`: after `prior`, the replies on `passed` are those of the surroundings,
and the shared state comes back as they leave it. Only, where a hook should return it may as well fail. -/
inductive Among {σ : Type} (surroundings : Surroundings σ) :
    List (Exchange σ) → List (Exchange σ) → Prop where
  | nil {prior : List (Exchange σ)} : Among surroundings prior []
  | told {prior later : List (Exchange σ)} {n : Note} :
      Among surroundings (prior ++ forgiven [.told n]) later → Among surroundings prior (.told n :: later)
  | asked {prior later : List (Exchange σ)} {q : Request} {s t : σ} {reply : q.Reply} :
      q.forgive reply = q.forgive (surroundings prior q s).1 → t = (surroundings prior q s).2 →
      Among surroundings (prior ++ forgiven [.asked q s reply t]) later →
      Among surroundings prior (.asked q s reply t :: later)

namespace Among

variable {σ α : Type} {surroundings : Surroundings σ} {prior : List (Exchange σ)}

theorem told_iff {n : Note} {later : List (Exchange σ)} :
    Among surroundings prior (.told n :: later) ↔ Among surroundings (prior ++ forgiven [.told n]) later := by
  constructor
  · intro among
    cases among with
    | told rest => exact rest
  · exact .told

theorem asked_iff {q : Request} {s t : σ} {reply : q.Reply} {later : List (Exchange σ)} :
    Among surroundings prior (.asked q s reply t :: later) ↔
      (q.forgive reply = q.forgive (surroundings prior q s).1 ∧ t = (surroundings prior q s).2) ∧
        Among surroundings (prior ++ forgiven [.asked q s reply t]) later := by
  constructor
  · intro among
    cases among with
    | asked replies back rest => exact ⟨⟨replies, back⟩, rest⟩
  · rintro ⟨⟨replies, back⟩, rest⟩
    exact .asked replies back rest

theorem append_iff {first second : List (Exchange σ)} :
    Among surroundings prior (first ++ second) ↔
      Among surroundings prior first ∧ Among surroundings (prior ++ forgiven first) second := by
  induction first generalizing prior with
  | nil => simp [Among.nil, forgiven]
  | cons e first ih =>
      rw [forgiven_cons, ← List.append_assoc, List.cons_append]
      cases e with
      | told n => rw [told_iff, told_iff, ih]
      | asked q s reply t => rw [asked_iff, asked_iff, ih, ← and_assoc]

/-- The surroundings do not hear of a failure. -/
theorem hook_iff {notice : Notice} {s t : σ} {reply : HookReply} {later : List (Exchange σ)} :
    Among surroundings prior (.asked (.hook notice) s reply t :: (reply.remarks ++ later)) ↔
      (reply.forgiven = HookReply.forgiven (surroundings prior (.hook notice) s).1 ∧
        t = (surroundings prior (.hook notice) s).2) ∧
      Among surroundings (prior ++ [.asked (.hook notice) s reply.forgiven t]) later := by
  have told : ∀ prior, Among surroundings prior (reply.remarks : List (Exchange σ)) := by
    intro prior
    cases reply with
    | done | panicked => exact .nil
    | failed problem => exact .told .nil
  rw [asked_iff, append_iff, forgiven_remarks, List.append_nil, and_iff_right (told _)]
  rfl

/-- Surroundings that reply without regard to what passed before. -/
theorem follow {reply : (request : Request) → σ → request.Reply × σ}
    (replies : ∀ prior q s, q.forgive (reply q s).1 = q.forgive (surroundings prior q s).1 ∧
      (reply q s).2 = (surroundings prior q s).2)
    (d : Dialogue σ α) : Among surroundings prior (d.follow reply).1 := by
  induction d generalizing prior with
  | done => exact .nil
  | note n rest ih => exact .told (ih ())
  | ask q s next ih => exact .asked (replies _ _ _).1 (replies _ _ _).2 (ih _ _)

end Among

namespace Dialogue

variable {σ α : Type} {surroundings : Surroundings σ} {prior : List (Exchange σ)}

/-- A dialogue that goes on after the failure of a hook goes on as with the forgiven reply. -/
theorem course_forgiven {next : HookReply → σ → Dialogue σ α} {reply : HookReply} {t : σ}
    {passed : List (Exchange σ)} {a : α}
    (fails : ∀ problem t, next (.failed problem) t =
      .note (HookReply.complaint problem) fun _ => next .done t)
    (course : (next reply t).Course passed a) :
    ∃ later, passed = reply.remarks ++ later ∧ (next reply.forgiven t).Course later a := by
  cases reply with
  | done | panicked => exact ⟨passed, rfl, course⟩
  | failed problem =>
      rw [fails] at course
      obtain ⟨later, goes, rfl⟩ := Course.note_iff.mp course
      exact ⟨later, rfl, goes⟩

/-- Among the same surroundings there is one way to go, whichever hooks fail. -/
theorem Blind.one_way {d : Dialogue σ α} (blind : d.Blind) {passed passed' : List (Exchange σ)} {a a' : α}
    (course : d.Course passed a) (course' : d.Course passed' a') (among : Among surroundings prior passed)
    (among' : Among surroundings prior passed') : forgiven passed = forgiven passed' ∧ a = a' := by
  induction blind generalizing prior passed passed' with
  | done =>
      obtain ⟨rfl, rfl⟩ := Course.done_iff.mp course
      obtain ⟨rfl, rfl⟩ := Course.done_iff.mp course'
      exact ⟨rfl, rfl⟩
  | note _ ih =>
      obtain ⟨later, goes, rfl⟩ := Course.note_iff.mp course
      obtain ⟨later', goes', rfl⟩ := Course.note_iff.mp course'
      obtain ⟨same, rfl⟩ := ih goes goes' (Among.told_iff.mp among) (Among.told_iff.mp among')
      exact ⟨by rw [forgiven_cons, same, ← forgiven_cons], rfl⟩
  | ask other _ ih =>
      obtain ⟨reply, t, later, goes, rfl⟩ := Course.ask_iff.mp course
      obtain ⟨reply', t', later', goes', rfl⟩ := Course.ask_iff.mp course'
      obtain ⟨⟨replies, rfl⟩, rest⟩ := Among.asked_iff.mp among
      obtain ⟨⟨replies', rfl⟩, rest'⟩ := Among.asked_iff.mp among'
      have alike := replies.trans replies'.symm
      rw [Request.forgive_of_not_hook other, Request.forgive_of_not_hook other] at alike
      subst alike
      obtain ⟨same, rfl⟩ := ih _ _ goes goes' rest rest'
      exact ⟨by rw [forgiven_cons, same, ← forgiven_cons], rfl⟩
  | hook fails _ _ ih ih' =>
      obtain ⟨reply, t, after, goes, rfl⟩ := Course.ask_iff.mp course
      obtain ⟨reply', t', after', goes', rfl⟩ := Course.ask_iff.mp course'
      obtain ⟨later, rfl, further⟩ := course_forgiven fails goes
      obtain ⟨later', rfl, further'⟩ := course_forgiven fails goes'
      obtain ⟨⟨replies, rfl⟩, rest⟩ := Among.hook_iff.mp among
      obtain ⟨⟨replies', rfl⟩, rest'⟩ := Among.hook_iff.mp among'
      rw [replies] at further rest
      rw [replies'] at further' rest'
      have ends : forgiven later = forgiven later' ∧ a = a' := by
        -- A forgiven reply is no failure.
        cases expected : HookReply.forgiven (surroundings prior (.hook _) _).1 with
        | done =>
            rw [expected] at further further' rest rest'
            exact ih _ further further' rest rest'
        | panicked text =>
            rw [expected] at further further' rest rest'
            exact ih' text _ further further' rest rest'
        | failed problem => cases reply <;> cases replies.trans expected
      obtain ⟨same, rfl⟩ := ends
      exact ⟨by rw [forgiven_hook, forgiven_hook, replies, replies', same], rfl⟩

end Dialogue

end RemoteDebug
