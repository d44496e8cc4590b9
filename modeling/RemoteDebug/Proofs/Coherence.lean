import RemoteDebug.Proofs.Act
import RemoteDebug.Proofs.Registry

/-!
The coherence of a target model.

Every change that an act makes keeps the registry sound, so along every history a thread is stepping
exactly while a step is pending, the focus is on a registered thread and the thread for evaluation is a
suspended one (`coherent_of_reaches`).
-/

namespace RemoteDebug.Target

open Operation

/-- The registry of a model is sound. -/
def Sound (target : Target) : Prop := target.threads.Sound

theorem stable_sound : Stable Sound := by
  intro before after change sound
  unfold Sound at sound ⊢
  cases change with
  | register handle => exact sound.register
  | remove handle => exact sound.remove
  | setFocus handle => exact sound.setFocus
  | setStatusAll status =>
      rcases status with rfl | rfl
      · exact sound.setStatusAll nofun nofun
      · exact sound.setStatusAll nofun nofun
  | resumeThread handle =>
      exact sound.modify (·.setStatus_number _) (·.setStatus_handle _) fun _ coherent =>
        coherent.setStatus nofun nofun
  | startStep handle step =>
      exact sound.modify (fun _ => rfl) (fun _ => rfl) fun _ _ => .startStep
  | stopAt handle location =>
      exact sound.modify (fun _ => rfl) (fun _ => rfl) fun _ _ => .stopAt
  | withdraw handle =>
      exact sound.modify (fun _ => rfl) (fun _ => rfl) fun _ _ => .of_suspended rfl rfl
  | prepare type => exact sound
  | setStatus mild => exact sound

theorem Handler.keeps_sound (handler : Handler) : handler.handling.run.Keeps Sound := by
  cases ends : handler.isEnd with
  | true => exact handler.keeps_of_end (fun _ _ _ => .clear) ends
  | false => exact handler.keeps stable_sound ends

/-- Whatever is done to a model, its registry stays sound if others keep it so in the meantime. -/
theorem Act.keeps_sound {act : Act} {before after : Target} {passed : List (Exchange Target)}
    (course : act.Course before passed after) (sound : before.Sound)
    (others : ∀ e ∈ passed, e.Keeps Sound) : after.Sound ∧ Shown Sound passed := by
  cases act with
  | handle handler =>
      obtain ⟨r, course⟩ := course
      exact handler.keeps_sound _ _ _ _ course sound others
  | control wish =>
      obtain ⟨r, course⟩ := course
      exact wish.keeps stable_sound _ _ _ _ course sound others
  | focus thread =>
      obtain ⟨r, course⟩ := course
      exact setFocus_keeps stable_sound _ _ _ _ course sound others

theorem Reaches.sound {start target : Target} (reached : Reaches start target) (sound : start.Sound) :
    target.Sound := by
  have keeps : ∀ {passed : List (Exchange Target)},
      (∀ q s reply t, .asked q s reply t ∈ passed → s.Sound → t.Sound) →
      ∀ e ∈ passed, e.Keeps Sound := by
    intro passed each e mem
    cases e with
    | told n => trivial
    | asked q s reply t => exact each q s reply t mem
  induction reached with
  | refl => exact sound
  | act _ _ course _ before others => exact (Act.keeps_sound course (before sound) (keeps others)).1
  | waiting _ _ course _ mem before others =>
      exact (Act.keeps_sound course (before sound) (keeps others)).2 _ _ _ _ mem

/-- A model in which everything fits together. -/
structure Coherent (target : Target) : Prop where
  /-- A thread is stepping exactly while a step is pending, and none is dead. -/
  records : ∀ thread ∈ target.threads.threads,
    (thread.status = .stepping ↔ thread.pendingStep ≠ none) ∧ thread.status ≠ .terminated
  focus : ∀ handle, target.threads.focus = some handle →
    ∃ thread ∈ target.threads.threads, thread.handle = handle
  /-- The records are in the order of appearance, one for each thread. -/
  ordered : target.threads.Ordered
  current : target.threads.Elects target.currentThread?

/-- A model is coherent after whatever is done to it from its start on. -/
theorem coherent_of_reaches {name : String} {target : Target}
    (reached : Reaches { name } target) : target.Coherent := by
  have sound : target.threads.Sound := reached.sound .empty
  constructor
  case records =>
    intro thread mem
    have coherent := sound.coherent thread mem
    refine ⟨coherent.stepping_iff.trans ?_, coherent.alive⟩
    simp [Thread.isStepping, Option.isSome_iff_ne_none]
  case focus =>
    intro handle focus
    exact ThreadRegistry.contains_iff.mp (sound.ordered.focused handle focus)
  case ordered => exact sound.ordered
  case current => exact sound.ordered.elects

/-! ### A history to look at -/

namespace Sample

def fresh : Target := { name := "sample" }

/-- The model after the start of a target with two threads. -/
def started : Target where
  name := "sample"
  status := .suspended
  threads := {
    focus := some ⟨1⟩
    threads := [⟨1, ⟨1⟩, .suspended, none, none⟩, ⟨2, ⟨2⟩, .suspended, none, none⟩]
    lastNumber := 2 }

/-- The model while the first thread is about to run. -/
def stepping : Target :=
  { started with threads := started.threads.modify ⟨1⟩ (·.startStep ⟨.over, ⟨501⟩⟩) }

/-- The model after the focus went to the second thread. -/
def refocused : Target := { stepping with threads := stepping.threads.setFocus ⟨2⟩ }

/-- The model after the step began. -/
def running : Target := { refocused with status := .running }

theorem reaches_started : Reaches fresh started := by
  have course : (Handler.vmStart ⟨1⟩).handling.run.Course fresh [
      .asked (.call .threads) fresh (.ok [⟨1⟩, ⟨2⟩]) fresh,
      .told (.log (.statusSet "sample" .suspended)),
      .asked (.hook (.start ⟨1⟩)) started .done started] (.ok ()) started :=
    .ask (.note (.ask .done))
  refine .act (.handle (.vmStart ⟨1⟩)) .refl ⟨_, course⟩ ?_
  intro q s reply t mem
  simp only [List.mem_cons, List.not_mem_nil, or_false, reduceCtorEq, false_or] at mem
  rcases mem with same | same
  · cases same
    exact .refl
  · cases same
    exact .refl

/-- The focus is moved while the step waits for its thread to be resumed. -/
theorem reaches_running : Reaches fresh running := by
  have moved : Reaches stepping refocused := by
    have course : (Target.setFocus ⟨2⟩).run.Course stepping [] (.ok ()) refocused := .done
    exact .act (.focus ⟨2⟩) .refl ⟨_, course⟩ fun _ _ _ _ mem => nomatch mem
  have course : (Control.step ⟨1⟩ .over).attempt.run.Course started [
      .asked (.call (.requestStep ⟨1⟩ .over)) started (.ok ⟨501⟩) started,
      .told (.log (.stepRequested .over ⟨1⟩ ⟨501⟩)),
      .asked (.call (.resume ⟨1⟩)) stepping (.ok ()) refocused,
      .told (.log (.statusSet "sample" .running))] (.ok ()) running :=
    .ask (.note (.ask (.note .done)))
  refine .act (.control (.step ⟨1⟩ .over)) reaches_started ⟨_, course⟩ ?_
  intro q s reply t mem
  simp only [List.mem_cons, List.not_mem_nil, or_false, reduceCtorEq, false_or] at mem
  rcases mem with same | same
  · cases same
    exact .refl
  · cases same
    exact moved

end Sample

theorem coherent_of_reaches_running :
    Reaches { name := "sample" } Sample.running ∧ Sample.running.Coherent :=
  ⟨Sample.reaches_running, coherent_of_reaches Sample.reaches_running⟩

end RemoteDebug.Target
