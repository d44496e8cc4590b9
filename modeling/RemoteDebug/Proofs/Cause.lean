import RemoteDebug.Interpreter

/-!
The causes of local faults.

What an evaluation computes by itself fails for few reasons, and each computation has its own. No local
fault is the failure of a call: `Fault.failure?` tells the two apart.
-/

namespace RemoteDebug

/-- The failure of a call that a fault passes on, if it does. -/
def Fault.failure? : Fault → Option RemoteFailure
  | .remote failure => some failure
  | _ => none

theorem Fault.failure?_eq_some {fault : Fault} {failure : RemoteFailure} :
    fault.failure? = some failure ↔ fault = .remote failure := by
  constructor
  · intro same
    cases fault <;> cases same
    rfl
  · rintro rfl
    rfl

variable {fault : Fault}

theorem eq_of_elim_error {α : Type} {found : Option α} {other : Fault}
    (failed : (found.elim (.error other) .ok : Except Fault α) = .error fault) : fault = other := by
  cases found with
  | some a => cases failed
  | none =>
      cases failed
      rfl

theorem BinaryOp.cause_of_apply {op : BinaryOp} {left right : Value}
    (failed : op.apply left right = .error fault) :
    fault = .illegalPromotion op left.kind right.kind ∨ fault = .divisionByZero := by
  unfold BinaryOp.apply at failed
  split at failed
  · cases failed
  · split at failed
    · exact .inl (eq_of_elim_error failed)
    · split at failed
      · split at failed
        · cases failed
          exact .inr rfl
        · exact .inl (eq_of_elim_error failed)
      · cases failed
        exact .inl rfl

theorem Value.cause_of_truth {value : Value} (failed : value.truth = .error fault) :
    fault = .invalidOperand .conditionNotBoolean := by
  unfold Value.truth at failed
  split at failed
  · cases failed
  · cases failed
    rfl

theorem Value.cause_of_index {value : Value} (failed : value.index = .error fault) :
    fault = .invalidOperand .indexNotIntegral := by
  unfold Value.index at failed
  split at failed
  · cases failed
  · cases failed
    rfl

namespace Internals

variable {internals : Internals} {name : String}

theorem cause_of_get (failed : internals.get name = .error fault) :
    fault = .internalVariableNotFound name := by
  unfold get at failed
  split at failed
  · cases failed
  · cases failed
    rfl

theorem cause_of_set {value : Value} (failed : internals.set name value = .error fault) :
    fault = .internalVariableNotFound name := by
  unfold set at failed
  split at failed
  · cases failed
  · cases failed
    rfl

theorem cause_of_create {declared : InternalVariable}
    (failed : internals.create name declared = .error fault) :
    fault = .internalVariableExists name := by
  unfold create at failed
  split at failed
  · cases failed
    rfl
  · cases failed

end Internals

theorem cause_of_jumpTarget {position length : Nat} {offset : Int64}
    (failed : jumpTarget position offset length = .error fault) :
    ∃ target, fault = .jumpOutOfRange target := by
  unfold jumpTarget at failed
  dsimp only at failed
  split at failed
  · cases failed
    exact ⟨_, rfl⟩
  · cases failed

end RemoteDebug
