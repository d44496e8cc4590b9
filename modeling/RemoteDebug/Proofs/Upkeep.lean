import RemoteDebug.Proofs.Aftermath
import RemoteDebug.Proofs.Assembly
import RemoteDebug.Proofs.Coherence

/-!
What all undertakings keep.

A condition on the model of a target that every single change keeps, and its release at the end, is kept
by whatever is undertaken at a site (`Site.Reaches.keeps`). So the registry of threads is sound at every
moment that can be reached (`Site.Reaches.sound`).
-/

namespace RemoteDebug

open Operation

/-- The condition is kept by all single changes of a model and by its release. -/
structure Target.Lasting (I : Target → Prop) : Prop where
  stable : Stable I
  released : ∀ target status, I target → I (target.released status)

theorem Target.lasting_sound : Lasting Sound where
  stable := stable_sound
  released _ _ _ := .clear

namespace Site

section Lasting

variable {I : Target → Prop}

theorem updateDispatcher_keeps {f : Dispatcher → Dispatcher} :
    (updateDispatcher f).Keeps fun site => I site.target :=
  .update fun _ => id

variable (lasting : Target.Lasting I)

include lasting

theorem route_keeps (event : Event) : (route event).run.Keeps fun site => I site.target := by
  intro site passed r site' course holds others
  obtain ⟨r₀, heeded, -⟩ := route_iff.mp course
  have keeps : (Target.heed event).run.Keeps I := by
    cases ends : event.happening.isEnd with
    | true => exact Target.heed_keeps_of_end lasting.released ends
    | false => exact Target.heed_keeps lasting.stable ends
  obtain ⟨last, shown⟩ := keeps _ _ _ _ heeded holds <|
    Exchange.keeps_onPart fun q s reply t mem => others (.asked q s reply t) mem
  exact ⟨last, Shown.onPart_iff.mp shown⟩

theorem composable_keeps : Composable fun _ x => x.Keeps fun site => I site.target where
  pure _ := .pure
  bind := .bind
  read := .read
  update _ := updateDispatcher_keeps
  tell _ := .tell
  ask _ := .ask
  route := route_keeps lasting

/-- Whatever is undertaken keeps a condition if others do in the meantime. -/
theorem Undertaking.keeps {undertaking : Undertaking} {before after : Site}
    {passed : List (Exchange Site)} (course : undertaking.Course before passed after)
    (holds : I before.target) (others : ∀ e ∈ passed, e.Keeps fun site => I site.target) :
    I after.target ∧ Shown (fun site => I site.target) passed := by
  cases undertaking with
  | dispatch set =>
      obtain ⟨r, course⟩ := course
      exact (composable_keeps lasting).dispatch set _ _ _ _ course holds others
  | run channel =>
      obtain ⟨r, course⟩ := course
      exact (composable_keeps lasting).run channel _ _ _ _ course holds others
  | control wish =>
      obtain ⟨r, course⟩ := course
      exact onTarget_keeps (wish.keeps lasting.stable) _ _ _ _ course holds others
  | focus thread =>
      obtain ⟨r, course⟩ := course
      exact onTarget_keeps (Target.setFocus_keeps lasting.stable) _ _ _ _ course holds others
  | evaluate interpreter fuel frame =>
      obtain ⟨shared, result, course, rfl⟩ := course
      obtain ⟨-, carries⟩ := evaluate_iff.mp course
      obtain ⟨last, each⟩ := carries.rel
        (R := fun first last : Site => I first.target → I last.target)
        (fun _ => id) (fun head tail holds => tail (head holds)) fun q before reply after mem =>
          others (.asked q before.1 reply after.1) (List.mem_map_of_mem (f := Exchange.onPart Prod.fst) mem)
      refine ⟨last holds, ?_⟩
      exact Shown.onPart_iff.mpr fun q s reply t mem => each q s reply t mem holds
  | subscribe change =>
      obtain ⟨u, course⟩ := course
      exact updateDispatcher_keeps _ _ _ _ course holds others
  | shutdown =>
      obtain ⟨u, course⟩ := course
      have keeps : Site.shutdown.Keeps fun site => I site.target :=
        .bind .tell fun _ => updateDispatcher_keeps
      exact keeps _ _ _ _ course holds others

theorem Reaches.keeps {start moment : Moment} (reached : Reaches start moment)
    (holds : I start.site.target) : I moment.site.target := by
  have keeps : ∀ {passed : List (Exchange Site)},
      (∀ q s reply t, .asked q s reply t ∈ passed → I s.target → I t.target) →
      ∀ e ∈ passed, e.Keeps fun site => I site.target := by
    intro passed each e mem
    cases e with
    | told n => trivial
    | asked q s reply t => exact each q s reply t mem
  induction reached with
  | refl => exact holds
  | done _ _ _ course _ before others =>
      exact (Undertaking.keeps lasting course (before holds) (keeps others)).1
  | waiting _ _ _ course _ mem before others =>
      exact (Undertaking.keeps lasting course (before holds) (keeps others)).2 _ _ _ _ mem

end Lasting

/-- Whatever has been undertaken since the start of a model, its registry is sound. -/
theorem Reaches.sound {name : String} {dispatcher : Dispatcher} {moment : Moment}
    (reached : Reaches ⟨⟨{ name }, dispatcher⟩, false⟩ moment) : moment.site.target.Sound :=
  reached.keeps Target.lasting_sound .empty

end Site

end RemoteDebug
