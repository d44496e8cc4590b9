import RemoteDebug.Instruction
import RemoteDebug.Operator.Evaluation

/-!
Operators and conversions keep to primitive values.

Whatever an operator makes of its operands is a primitive value, and so is every converted value, which has
the kind that was asked for. Only text promotes to text, so an operator on primitive values never joins texts.
-/

namespace RemoteDebug

namespace Kind

theorem ofRank_ne_string (rank : Nat) : ofRank rank ≠ .string := by
  unfold ofRank
  split <;> exact nofun

/-- Only text promotes to text. -/
theorem promote_ne_string {left right : Kind} (first : left ≠ .string) (second : right ≠ .string) :
    promote left right ≠ .string := by
  unfold promote
  rw [if_neg (not_or.mpr ⟨first, second⟩)]
  split
  · exact nofun
  · split
    · exact ofRank_ne_string _
    · exact nofun

end Kind

namespace Value

variable {value result : Value} {kind : Kind}

theorem isPrimitive_of_ofInteger? {n : Int} (made : ofInteger? n kind = some result) :
    result.isPrimitive = true := by
  cases kind <;> cases made <;> rfl

theorem isPrimitive_of_ofDouble? {v : Float} (made : ofDouble? v kind = some result) :
    result.isPrimitive = true := by
  cases kind <;> cases made <;> rfl

theorem isPrimitive_of_convert (converted : value.convert kind = some result) :
    result.isPrimitive = true := by
  unfold convert at converted
  split at converted
  · rename_i same
    cases converted
    exact same.2
  · split at converted
    · exact isPrimitive_of_ofDouble? converted
    · exact isPrimitive_of_ofDouble? converted
    · obtain ⟨n, -, made⟩ := Option.bind_eq_some_iff.mp converted
      exact isPrimitive_of_ofInteger? made

theorem kind_of_ofInteger? {n : Int} (made : ofInteger? n kind = some result) : result.kind = kind := by
  cases kind <;> cases made <;> rfl

theorem kind_of_ofDouble? {v : Float} (made : ofDouble? v kind = some result) : result.kind = kind := by
  cases kind <;> cases made <;> rfl

theorem kind_of_convert (converted : value.convert kind = some result) : result.kind = kind := by
  unfold convert at converted
  split at converted
  · rename_i same
    cases converted
    exact same.1
  · split at converted
    · exact kind_of_ofDouble? converted
    · exact kind_of_ofDouble? converted
    · obtain ⟨n, -, made⟩ := Option.bind_eq_some_iff.mp converted
      exact kind_of_ofInteger? made

theorem kind_ne_string (primitive : value.isPrimitive = true) : value.kind ≠ .string := by
  intro same
  rw [isPrimitive, same] at primitive
  exact absurd primitive (by decide)

end Value

theorem Literal.isPrimitive_of_primitive? {literal : Literal} {value : Value}
    (primitive : literal.primitive? = some value) : value.isPrimitive = true := by
  cases literal <;> cases primitive <;> rfl

theorem eq_some_of_elim_ok {α ε : Type} {found : Option α} {e : ε} {a : α}
    (done : (found.elim (.error e) .ok : Except ε α) = .ok a) : found = some a := by
  cases found with
  | none => cases done
  | some b =>
      cases done
      rfl

namespace UnaryOp

variable {op : UnaryOp} {operand result : Value}

theorem isPrimitive_of_promoted? (primitive : operand.isPrimitive = true)
    (computed : op.promoted? operand = some result) : result.isPrimitive = true := by
  unfold promoted? at computed
  split at computed <;> cases computed <;> exact primitive

theorem isPrimitive_of_apply (applied : op.apply operand = .ok result) :
    result.isPrimitive = true := by
  have computed := eq_some_of_elim_ok applied
  split at computed
  · cases computed
    rfl
  · cases computed
  · obtain ⟨converted, converts, promotes⟩ := Option.bind_eq_some_iff.mp computed
    exact isPrimitive_of_promoted? (Value.isPrimitive_of_convert converts) promotes

end UnaryOp

namespace BinaryOp

variable {op : BinaryOp} {left right result : Value}

theorem isPrimitive_of_shift? (shifted : op.shift? left right = some result) :
    result.isPrimitive = true := by
  unfold shift? at shifted
  split at shifted <;> cases shifted <;> rfl

/-- A result is a word of the operands' kind or the truth of a comparison. -/
theorem isPrimitive_of_either {α : Type} {make : α → Value} {word : Option α} {truth : Option Bool}
    (primitive : ∀ a, (make a).isPrimitive = true)
    (computed : (word.map make <|> truth.map .boolean) = some result) :
    result.isPrimitive = true := by
  cases word with
  | some a =>
      cases computed
      exact primitive a
  | none =>
      obtain ⟨b, -, rfl⟩ := Option.map_eq_some_iff.mp computed
      rfl

theorem isPrimitive_of_promoted? (computed : op.promoted? left right = some result) :
    result.isPrimitive = true := by
  unfold promoted? at computed
  split at computed
  · obtain ⟨b, -, rfl⟩ := Option.map_eq_some_iff.mp computed
    rfl
  · exact isPrimitive_of_either (fun _ => rfl) computed
  · exact isPrimitive_of_either (fun _ => rfl) computed
  · exact isPrimitive_of_either (fun _ => rfl) computed
  · exact isPrimitive_of_either (fun _ => rfl) computed
  · cases computed

theorem isPrimitive_of_apply (applied : op.apply left right = .ok result) :
    result.isPrimitive = true := by
  unfold apply at applied
  split at applied
  · cases applied
    rfl
  · split at applied
    · exact isPrimitive_of_shift? (eq_some_of_elim_ok applied)
    · split at applied
      · split at applied
        · cases applied
        · exact isPrimitive_of_promoted? (eq_some_of_elim_ok applied)
      · cases applied

end BinaryOp

end RemoteDebug
