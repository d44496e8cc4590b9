import Mathlib.Algebra.Group.Int.Defs
import Mathlib.Algebra.Group.Nat.Defs
import RemoteDebug.Proofs.Balance

/-!
Where jumps land.

The target of a jump is found by two additions that stop at the largest position a word can hold. In a program
that is shorter than that the first addition never stops, and the second one stops only far behind the end of
the program, so nobody lands where the offset does not say.

* `jumpTarget_eq` is the target of a jump on unbounded numbers.
* `Stands` says where a program can come to stand, and with which machine. Walks stand nowhere else
  (`Walk.stands`).
* `Evaluation.loop_after_iff` is what follows an executed instruction, `Interpreter.jumps_land` the statement
  about all programs and offsets.
-/

namespace RemoteDebug

theorem lastPosition_eq : lastPosition = 2 ^ 63 - 1 := by decide

/-- The target of a jump is exact, and one that is no position of the program is reported. -/
theorem jumpTarget_eq {position length : Nat} (offset : Int64) (within : position < length)
    (short : (length : Int) < lastPosition) :
    jumpTarget position offset length =
      if 0 ≤ position + 1 + offset.toInt ∧ position + 1 + offset.toInt ≤ length then
        .ok (position + 1 + offset.toInt).toNat
      else .error (.jumpOutOfRange (min (position + 1 + offset.toInt) lastPosition)) := by
  split
  · rename_i inside
    exact jumpTarget_of_inside within (Int.le_of_lt short) inside
  · rename_i outside
    have following : min (position + 1 : Int) lastPosition = position + 1 := by omega
    unfold jumpTarget
    dsimp only
    rw [following, if_pos]
    omega

/-- A jump that succeeds lands on a position of the program or at its end. -/
theorem le_of_jumpTarget {position length target : Nat} {offset : Int64}
    (lands : jumpTarget position offset length = .ok target) : target ≤ length := by
  unfold jumpTarget at lands
  dsimp only at lands
  split at lands
  · cases lands
  · have same := Except.ok.inj lands
    omega

section Steps

variable {scope : Scope} {program : Program}

/-- A step leads to the next position, or where a jump lands. -/
theorem Step.leads_eq_some {step : Step scope program} {next : Nat} (leads : step.leads = .ok (some next)) :
    (step.result = .ok .next ∧ next = step.position + 1) ∨
      ∃ offset, step.result = .ok (.jump offset) ∧
        jumpTarget step.position offset program.length = .ok next := by
  cases result : step.result with
  | error fault =>
      rw [Step.leads_of_fault result] at leads
      cases leads
  | ok flow =>
      cases flow with
      | next =>
          rw [Step.leads_of_next result] at leads
          cases leads
          exact .inl ⟨rfl, rfl⟩
      | jump offset =>
          rw [Step.leads_of_jump result] at leads
          cases lands : jumpTarget step.position offset program.length with
          | error fault =>
              rw [lands] at leads
              cases leads
          | ok target =>
              rw [lands] at leads
              cases leads
              exact .inr ⟨offset, rfl, lands⟩
      | «return» =>
          rw [Step.leads_of_return result] at leads
          cases leads

/-- A step leads to a position of the program or to its end. -/
theorem Step.le_of_leads {step : Step scope program} {next : Nat} (leads : step.leads = .ok (some next)) :
    next ≤ program.length := by
  rcases Step.leads_eq_some leads with ⟨-, rfl⟩ | ⟨offset, -, lands⟩
  · exact (List.getElem?_eq_some_iff.mp step.found).1
  · exact le_of_jumpTarget lands

/-- `Stands scope program position machine`: a run of the program can come to stand at a position with a
machine. It starts at the first position with an empty machine, and every step leads on. -/
inductive Stands (scope : Scope) (program : Program) : Nat → Machine → Prop where
  | start : Stands scope program 0 {}
  | onward {next : Nat} (step : Step scope program) : Stands scope program step.position step.before →
      step.leads = .ok (some next) → Stands scope program next step.after

theorem Stands.le {position : Nat} {machine : Machine} (stands : Stands scope program position machine) :
    position ≤ program.length := by
  cases stands with
  | start => exact Nat.zero_le _
  | onward step _ leads => exact Step.le_of_leads leads

/-- A walk takes its steps where the program can come to stand. -/
theorem Walk.stands {between : Bool → Bool → Prop} {fuel position : Nat} {machine machine' : Machine}
    {running running' : Bool} {steps : List (Step scope program)} {passed : List (Exchange Bool)}
    {r : Except Fault Outcome}
    (walk : Walk scope program between fuel position machine running steps passed r machine' running')
    (stands : Stands scope program position machine) :
    ∀ step ∈ steps, Stands scope program step.position step.before := by
  induction walk with
  | exhausted | ended | cancelled => exact List.forall_mem_nil _
  | failed | returned => exact List.forall_mem_singleton.mpr stands
  | onward step leads flag walk ih =>
      exact List.forall_mem_cons.mpr ⟨stands, ih (.onward step stands leads)⟩

/-- What follows an executed instruction is a matter of its flow. -/
theorem Evaluation.loop_after_iff (step : Step scope program) {flow : Flow} (flows : step.result = .ok flow)
    {fuel : Nat} {later : List (Exchange Bool)} {r : Except Fault Outcome} {m' : Machine} {t : Bool} :
    (loop scope program (fuel + 1) step.position).Course step.before true (step.exchanges ++ later) r m' t ↔
      (follow scope program fuel step.position flow).Course step.after step.running later r m' t := by
  have executed := step.course
  rw [flows] at executed
  rw [loop_of_some step.found]
  constructor
  · intro course
    obtain ⟨rest, goes, same⟩ := log_bind_iff.mp (mayRun_bind_iff.mp course)
    cases same
    exact executed.tail goes
  · intro follows
    refine mayRun_bind_iff.mpr (log_bind_iff.mpr ⟨step.passed ++ later, ?_, rfl⟩)
    exact bind_iff.mpr (.inr ⟨flow, _, _, _, _, executed, follows, rfl⟩)

end Steps

open Evaluation in
/-- In a program of fewer than `2 ^ 63 - 1` instructions the position is never beyond the end, whatever the
target replies and whenever somebody asks for a stop. A jump goes on at its exact target if that is a position
of the program or its end. Any other target is reported as it is, or as `2 ^ 63 - 1` if it is larger. -/
theorem Interpreter.jumps_land (interpreter : Interpreter) (frame : Frame)
    (short : interpreter.program.length < 2 ^ 63 - 1) :
    (∀ fuel target passed outcome left, target.isTerminated = false →
      (interpreter.run fuel target frame).Course passed (outcome, left) →
      ∃ steps, interpreter.Ran Eq fuel frame steps passed outcome left) ∧
    (∀ between fuel steps passed outcome left,
      interpreter.Ran between fuel frame steps passed outcome left → ∀ step ∈ steps,
        Stands ⟨frame, interpreter.settings⟩ interpreter.program step.position step.before) ∧
    (∀ position machine, Stands ⟨frame, interpreter.settings⟩ interpreter.program position machine →
      position ≤ interpreter.program.length) ∧
    ∀ (step : Step ⟨frame, interpreter.settings⟩ interpreter.program) (offset : Int64),
      step.result = .ok (.jump offset) → ∀ fuel later r m' t,
        (loop ⟨frame, interpreter.settings⟩ interpreter.program (fuel + 1) step.position).Course step.before
            true (step.exchanges ++ later) r m' t ↔
          if 0 ≤ step.position + 1 + offset.toInt ∧
              step.position + 1 + offset.toInt ≤ interpreter.program.length then
            (loop ⟨frame, interpreter.settings⟩ interpreter.program fuel
              (step.position + 1 + offset.toInt).toNat).Course step.after step.running later r m' t
          else later = [] ∧
            r = .error (.jumpOutOfRange (min (step.position + 1 + offset.toInt) (2 ^ 63 - 1))) ∧
            m' = step.after ∧ t = step.running := by
  refine ⟨fun fuel target passed outcome left alive course => run_course alive course, ?_,
    fun position machine stands => stands.le, ?_⟩
  · rintro between fuel steps passed outcome left ⟨walk⟩
    exact walk.stands .start
  · intro step offset jumps fuel later r m' t
    have within : step.position < interpreter.program.length :=
      (List.getElem?_eq_some_iff.mp step.found).1
    have addressable : (interpreter.program.length : Int) < lastPosition := by
      rw [lastPosition_eq]
      omega
    rw [loop_after_iff step jumps, ← lastPosition_eq]
    simp only [follow, jumpTarget_eq offset within addressable]
    split
    · rfl
    · exact throw_iff

namespace Jump.Sample

/-- The first jump leads to the end of the program, the second one as far as an offset can say. -/
def leaping : Interpreter where
  program := [.jump 1, .jump Int64.maxValue]

def first : Step ⟨⟨⟨1⟩, 0⟩, {}⟩ leaping.program :=
  ⟨0, .jump 1, {}, [], .ok (.jump 1), {}, true, rfl, Evaluation.pure_iff.mpr ⟨rfl, rfl, rfl, rfl⟩⟩

def second : Step ⟨⟨⟨1⟩, 0⟩, {}⟩ leaping.program :=
  ⟨1, .jump Int64.maxValue, {}, [], .ok (.jump Int64.maxValue), {}, true, rfl,
    Evaluation.pure_iff.mpr ⟨rfl, rfl, rfl, rfl⟩⟩

end Jump.Sample

open Jump.Sample in
theorem Interpreter.jumps_land_leaping :
    leaping.program.length < 2 ^ 63 - 1 ∧
      (Evaluation.loop ⟨⟨⟨1⟩, 0⟩, {}⟩ leaping.program 5 0).Course {} true
        [.told (.log (.instruction 0 (.jump 1)))] (.ok (.completed none)) {} true ∧
      (Evaluation.loop ⟨⟨⟨1⟩, 0⟩, {}⟩ leaping.program 5 1).Course {} true
        [.told (.log (.instruction 1 (.jump Int64.maxValue)))] (.error (.jumpOutOfRange (2 ^ 63 - 1))) {}
        true := by
  have short : leaping.program.length < 2 ^ 63 - 1 := by decide
  obtain ⟨-, -, -, lands⟩ := jumps_land leaping ⟨⟨1⟩, 0⟩ short
  refine ⟨short, (lands first 1 rfl 4 [] _ _ _).mpr ?_, (lands second Int64.maxValue rfl 4 [] _ _ _).mpr ?_⟩
  · rw [if_pos (by decide)]
    exact Dialogue.Course.done
  · have limited : min (second.position + 1 + Int64.maxValue.toInt) (2 ^ 63 - 1) = 2 ^ 63 - 1 := by decide
    rw [if_neg (by decide), limited]
    exact ⟨rfl, rfl, rfl, rfl⟩

end RemoteDebug
