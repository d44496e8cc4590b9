import RemoteDebug.Proofs.Word

/-!
Operators on integral values.

What an operator makes of two integral values is settled by their numbers. It is computed exactly and then
reduced to a word with a sign: 64 bits if an operand is a `long`, else 32, and for a shift the left operand
decides alone. Nothing can go wrong but a division by zero.

* `BinaryOp.exact` and `UnaryOp.exact?` are the operators on numbers,
* `Value.IsWord` says that a value is a number reduced to a width,
* `integral_operators` says that the operators on values are those on numbers.
-/

namespace RemoteDebug

/-- What an operator makes of two numbers. -/
inductive Exact where
  | number (n : Int)
  | truth (b : Bool)
  /-- A division by zero. -/
  | undefined

/-- The value is a number reduced to an `int` or a `long`. -/
def Value.IsWord (value : Value) (w : Nat) (n : Int) : Prop :=
  value.kind = (if w = 64 then .long else .int) ∧ value.integer? = some (n.bmod (2 ^ w))

/-- The outcome of an operator is what it makes of numbers, as a word of `w` bits or as a boolean. -/
def Exact.IsOutcome (w : Nat) : Exact → Except Fault Value → Prop
  | .number n, outcome => ∃ result, outcome = .ok result ∧ result.IsWord w n
  | .truth b, outcome => outcome = .ok (.boolean b)
  | .undefined, outcome => outcome = .error .divisionByZero

namespace BinaryOp

/-- The number of bits in which an operator computes. -/
def width (op : BinaryOp) (left right : Kind) : Nat :=
  if left = .long ∨ (right = .long ∧ op.isShift = false) then 64 else 32

/-- An operator on numbers. Division cuts toward zero, and a remainder has the sign of the dividend. Shifts
take their distance modulo the width, and only the shift without a sign looks at the width otherwise. -/
def exact (op : BinaryOp) (w : Nat) (l r : Int) : Exact :=
  let distance := (r % w).toNat
  match op with
  | .add => .number (l + r)
  | .sub => .number (l - r)
  | .mul => .number (l * r)
  | .div => if r = 0 then .undefined else .number (l.tdiv r)
  | .rem => if r = 0 then .undefined else .number (l.tmod r)
  | .and => .number (l.land r)
  | .or => .number (l.lor r)
  | .xor => .number (l.xor r)
  | .shl => .number (l * 2 ^ distance)
  | .shr => .number (l.fdiv (2 ^ distance))
  | .ushr => .number ((l % 2 ^ w).fdiv (2 ^ distance))
  | .less => .truth (l < r)
  | .lessEq => .truth (l ≤ r)
  | .greater => .truth (l > r)
  | .greaterEq => .truth (l ≥ r)
  | .equal => .truth (l = r)
  | .notEqual => .truth (l ≠ r)

end BinaryOp

/-- A unary operator on a number, which has no truth to negate. -/
def UnaryOp.exact? (op : UnaryOp) (n : Int) : Option Int :=
  match op with
  | .plus => some n
  | .minus => some (-n)
  | .complement => some (-n - 1)
  | .not => none

variable {op : BinaryOp} {left right : Value} {l r : Int}

namespace BinaryOp

/-- An operator that is no shift, on words of one width. -/
theorem words_isOutcome {α : Type} {w : Nat} [Add α] [Sub α] [Mul α] [Div α] [Mod α] [AndOp α] [OrOp α]
    [XorOp α] [LT α] [DecidableLT α] [LE α] [DecidableLE α] [BEq α] [SignedWord α w] {make : α → Value}
    (makes : ∀ {v n}, SignedWord.number v = n.bmod (2 ^ w) → (make v).IsWord w n)
    (unshifted : op.isShift = false) (x y : α) (fault : Fault) :
    (op.exact w (SignedWord.number x) (SignedWord.number y)).IsOutcome w
      (if op.isDivision = true ∧ SignedWord.number y = 0 then .error .divisionByZero
        else ((op.word? x y).map make <|> (op.compare? x y).map Value.boolean).elim (.error fault) .ok) := by
  have truths {b c : Bool} (same : b = true ↔ c = true) :
      (Except.ok (Value.boolean b) : Except Fault Value) = .ok (.boolean c) := by
    rw [Bool.eq_iff_iff.mpr same]
  by_cases undefined : op.isDivision = true ∧ SignedWord.number y = 0
  · rw [if_pos undefined, undefined.2]
    cases op <;> first | rfl | cases undefined.1
  rw [if_neg undefined]
  cases op
  case add => exact ⟨_, rfl, makes (SignedWord.number_add x y)⟩
  case sub => exact ⟨_, rfl, makes (SignedWord.number_sub x y)⟩
  case mul => exact ⟨_, rfl, makes (SignedWord.number_mul x y)⟩
  case div =>
      rw [exact, if_neg fun zero => undefined ⟨rfl, zero⟩]
      exact ⟨_, rfl, makes (SignedWord.number_div x y)⟩
  case rem =>
      rw [exact, if_neg fun zero => undefined ⟨rfl, zero⟩]
      exact ⟨_, rfl, makes (SignedWord.number_mod x y)⟩
  case and => exact ⟨_, rfl, makes (SignedWord.number_and x y)⟩
  case or => exact ⟨_, rfl, makes (SignedWord.number_or x y)⟩
  case xor => exact ⟨_, rfl, makes (SignedWord.number_xor x y)⟩
  case less => exact truths (by simp [SignedWord.lt_iff])
  case lessEq => exact truths (by simp [SignedWord.le_iff])
  case greater => exact truths (by simp [SignedWord.lt_iff])
  case greaterEq => exact truths (by simp [SignedWord.le_iff])
  case equal => exact truths (by simp [SignedWord.beq_iff])
  case notEqual => exact truths (by simp [bne, ← Bool.not_eq_true, SignedWord.beq_iff])
  all_goals cases unshifted

/-- A shift of a word by a distance modulo its width. -/
theorem shifted_exact {w : Nat} (shifts : op.isShift = true) (x : BitVec w) (r : Int) :
    ∃ n, op.exact w x.toInt r = .number n ∧
      (op.shifted x (r % w).toNat).toInt = n.bmod (2 ^ w) := by
  cases op
  case shl => exact ⟨_, rfl, Word.toInt_shiftLeft x _⟩
  case shr => exact ⟨_, rfl, Word.toInt_sshiftRight x _⟩
  case ushr => exact ⟨_, rfl, Word.toInt_ushiftRight x _⟩
  all_goals cases shifts

end BinaryOp

/-! ### Promotion -/

namespace Kind

variable {kind left right : Kind} {n : Int} {v w : Nat}

theorem promote_of_width? (first : left.width? = some v) (second : right.width? = some w) :
    promote left right = if left = .long ∨ right = .long then .long else .int := by
  cases left <;> cases first <;> cases right <;> cases second <;> rfl

theorem promoteUnary_of_width? (integral : kind.width? = some w) :
    promoteUnary kind = if kind = .long then .long else .int := by
  cases kind <;> cases integral <;> rfl

theorem not_isReference_of_width? (integral : kind.width? = some w) : kind.isReference = false := by
  cases kind <;> cases integral <;> rfl

/-- An `int` holds all numbers that are not those of a `long` only. -/
theorem Holds.int (holds : kind.Holds n) (narrow : kind ≠ .long) : Kind.int.Holds n := by
  cases kind <;> simp only [Holds] at holds ⊢ <;> first | omega | contradiction

theorem Holds.long (holds : kind.Holds n) : Kind.long.Holds n := by
  cases kind <;> simp only [Holds] at holds ⊢ <;> omega

end Kind

namespace Value

variable {value : Value} {n : Int}

theorem exists_int (stands : value.integer? = some n) (narrow : value.kind ≠ .long) :
    ∃ x : Int32, value.convert .int = some (.int x) ∧ x.toInt = n := by
  have width : Kind.int.width? = some 32 := rfl
  obtain ⟨result, m, converted, kinds, -⟩ := exists_convert stands width
  have kept := convert_of_holds stands converted ((holds_of_integer? stands).int narrow)
  cases result <;> cases kinds
  exact ⟨_, converted, Option.some.inj kept⟩

theorem exists_long (stands : value.integer? = some n) :
    ∃ x : Int64, value.convert .long = some (.long x) ∧ x.toInt = n := by
  have width : Kind.long.width? = some 64 := rfl
  obtain ⟨result, m, converted, kinds, -⟩ := exists_convert stands width
  have kept := convert_of_holds stands converted (holds_of_integer? stands).long
  cases result <;> cases kinds
  exact ⟨_, converted, Option.some.inj kept⟩

theorem exists_width (stands : value.integer? = some n) : ∃ w, value.kind.width? = some w :=
  (holds_of_integer? stands).exists_width

theorem isWord_int {x : Int32} (reduced : x.toInt = n.bmod (2 ^ 32)) : (int x).IsWord 32 n :=
  ⟨rfl, congrArg some reduced⟩

theorem isWord_long {x : Int64} (reduced : x.toInt = n.bmod (2 ^ 64)) : (long x).IsWord 64 n :=
  ⟨rfl, congrArg some reduced⟩

end Value

/-! ### Operators on values -/

namespace BinaryOp

/-- The distance of a shift is the number of its right operand. -/
theorem exists_distance (second : right.integer? = some r) :
    ∃ distance : Int64, distance? right = some distance ∧ distance.toInt = r := by
  obtain ⟨w, width⟩ := Value.exists_width second
  unfold distance?
  rw [Kind.promoteUnary_of_width? width]
  split_ifs with long
  · obtain ⟨x, converted, number⟩ := Value.exists_long second
    rw [converted]
    exact ⟨x, rfl, number⟩
  · obtain ⟨x, converted, number⟩ := Value.exists_int second long
    rw [converted]
    exact ⟨x.toInt64, rfl, by rw [Int32.toInt_toInt64, number]⟩

theorem shift_isOutcome (shifts : op.isShift = true) (first : left.integer? = some l)
    (second : right.integer? = some r) (fault : Fault) :
    (op.exact (op.width left.kind right.kind) l r).IsOutcome (op.width left.kind right.kind)
      ((op.shift? left right).elim (.error fault) .ok) := by
  obtain ⟨distance, distances, rfl⟩ := exists_distance second
  obtain ⟨w, width⟩ := Value.exists_width first
  unfold shift? BinaryOp.width
  rw [distances, Kind.promoteUnary_of_width? width]
  simp only [shifts, Bool.true_eq_false, and_false, or_false]
  split_ifs with long
  · obtain ⟨x, converted, rfl⟩ := Value.exists_long first
    obtain ⟨n, exact, shifted⟩ := shifted_exact shifts x.toBitVec distance.toInt
    rw [converted, ← Int64.toInt_toBitVec x, exact]
    refine ⟨_, rfl, Value.isWord_long ?_⟩
    rw [← Int64.toInt_toBitVec, shift64_toBitVec]
    exact shifted
  · obtain ⟨x, converted, rfl⟩ := Value.exists_int first long
    obtain ⟨n, exact, shifted⟩ := shifted_exact shifts x.toBitVec distance.toInt
    rw [converted, ← Int32.toInt_toBitVec x, exact]
    refine ⟨_, rfl, Value.isWord_int ?_⟩
    rw [← Int32.toInt_toBitVec, shift32_toBitVec]
    exact shifted

theorem apply_of_shift (shifts : op.isShift = true) (first : left.integer? = some l) :
    op.apply left right =
      (op.shift? left right).elim (.error (.illegalPromotion op left.kind right.kind)) .ok := by
  obtain ⟨w, width⟩ := Value.exists_width first
  unfold apply
  simp [Kind.not_isReference_of_width? width, shifts]

/-- An operator that is no shift computes in the kind that both operands promote to. -/
theorem apply_of_promoted {x y : Value} (unshifted : op.isShift = false)
    (first : left.integer? = some l) (promoted : promoteBoth? left right = some (x, y)) :
    op.apply left right =
      if op.isDivision = true ∧ (y = .int 0 ∨ y = .long 0) then .error .divisionByZero
      else (op.promoted? x y).elim (.error (.illegalPromotion op left.kind right.kind)) .ok := by
  obtain ⟨w, width⟩ := Value.exists_width first
  unfold apply
  simp [Kind.not_isReference_of_width? width, unshifted, promoted]

theorem apply_isOutcome (first : left.integer? = some l) (second : right.integer? = some r) :
    (op.exact (op.width left.kind right.kind) l r).IsOutcome (op.width left.kind right.kind)
      (op.apply left right) := by
  cases shift : op.isShift with
  | true =>
      rw [apply_of_shift shift first]
      exact shift_isOutcome shift first second _
  | false =>
      obtain ⟨v, leftWidth⟩ := Value.exists_width first
      obtain ⟨w, rightWidth⟩ := Value.exists_width second
      have promotes := Kind.promote_of_width? leftWidth rightWidth
      unfold BinaryOp.width
      simp only [shift, and_true]
      split_ifs at promotes ⊢ with long
      · obtain ⟨x, leftConverted, rfl⟩ := Value.exists_long first
        obtain ⟨y, rightConverted, rfl⟩ := Value.exists_long second
        have promoted : promoteBoth? left right = some (.long x, .long y) := by
          simp [promoteBoth?, promotes, leftConverted, rightConverted]
        have zero : (Value.long y = .int 0 ∨ Value.long y = .long 0) ↔ y.toInt = 0 := by
          simp [← Int64.toInt_inj]
        rw [apply_of_promoted shift first promoted]
        simp only [zero]
        exact words_isOutcome Value.isWord_long shift x y _
      · obtain ⟨x, leftConverted, rfl⟩ := Value.exists_int first fun kinds => long (.inl kinds)
        obtain ⟨y, rightConverted, rfl⟩ := Value.exists_int second fun kinds => long (.inr kinds)
        have promoted : promoteBoth? left right = some (.int x, .int y) := by
          simp [promoteBoth?, promotes, leftConverted, rightConverted]
        have zero : (Value.int y = .int 0 ∨ Value.int y = .long 0) ↔ y.toInt = 0 := by
          simp [← Int32.toInt_inj]
        rw [apply_of_promoted shift first promoted]
        simp only [zero]
        exact words_isOutcome Value.isWord_int shift x y _

theorem exact_eq_undefined_iff {w : Nat} :
    op.exact w l r = .undefined ↔ op.isDivision = true ∧ r = 0 := by
  cases op <;> simp [exact, isDivision]

/-- A fault is a division by zero. -/
theorem apply_eq_error_iff (first : left.integer? = some l) (second : right.integer? = some r)
    {fault : Fault} :
    op.apply left right = .error fault ↔ fault = .divisionByZero ∧ op.isDivision = true ∧ r = 0 := by
  have outcome := @apply_isOutcome op _ _ _ _ first second
  rw [← exact_eq_undefined_iff (w := op.width left.kind right.kind)]
  cases exact : op.exact (op.width left.kind right.kind) l r with
  | number n =>
      rw [exact] at outcome
      obtain ⟨result, done, -⟩ := outcome
      simp [done]
  | truth b =>
      rw [exact] at outcome
      have done : op.apply left right = .ok (.boolean b) := outcome
      simp [done]
  | undefined =>
      rw [exact] at outcome
      have failed : op.apply left right = .error .divisionByZero := outcome
      simp [failed, eq_comm]

end BinaryOp

namespace UnaryOp

variable {op : UnaryOp} {operand : Value} {m n : Int}

/-- The operator takes the operand as a `long` if it is one, else as an `int`. -/
theorem apply_of_promoted {x : Value} (defined : op ≠ .not)
    (promoted : operand.convert operand.kind.promoteUnary = some x) :
    op.apply operand = (op.promoted? x).elim (.error (.illegalUnaryOperand op operand.kind)) .ok := by
  unfold apply
  cases op
  case not => contradiction
  all_goals simp [promoted]

theorem apply_isWord (stands : operand.integer? = some n) (exact : op.exact? n = some m) :
    ∃ result, op.apply operand = .ok result ∧
      result.IsWord (if operand.kind = .long then 64 else 32) m := by
  have defined : op ≠ .not := by
    rintro rfl
    cases exact
  obtain ⟨w, width⟩ := Value.exists_width stands
  have promotes := Kind.promoteUnary_of_width? width
  split_ifs at promotes ⊢ with long
  · obtain ⟨x, converted, rfl⟩ := Value.exists_long stands
    rw [apply_of_promoted defined (by rw [promotes, converted])]
    cases op with
    | minus => cases exact; exact ⟨_, rfl, Value.isWord_long (Int64.toInt_neg x)⟩
    | plus => cases exact; exact ⟨_, rfl, Value.isWord_long (Int64.toInt_bmod x).symm⟩
    | complement => cases exact; exact ⟨_, rfl, Value.isWord_long (Int64.toInt_not x)⟩
    | not => contradiction
  · obtain ⟨x, converted, rfl⟩ := Value.exists_int stands long
    rw [apply_of_promoted defined (by rw [promotes, converted])]
    cases op with
    | minus => cases exact; exact ⟨_, rfl, Value.isWord_int (Int32.toInt_neg x)⟩
    | plus => cases exact; exact ⟨_, rfl, Value.isWord_int (Int32.toInt_bmod x).symm⟩
    | complement => cases exact; exact ⟨_, rfl, Value.isWord_int (Int32.toInt_not x)⟩
    | not => contradiction

/-- There is no negation of a number. -/
theorem apply_not (stands : operand.integer? = some n) :
    UnaryOp.not.apply operand = .error (.illegalUnaryOperand .not operand.kind) := by
  cases operand <;> cases stands <;> rfl

end UnaryOp

/-- The operators on integral values are those on their numbers. A binary operator gives the exact result,
reduced to a word of its width, or the truth of the exact comparison; its one fault is a division by zero. A
unary operator on numbers gives the exact result, and there is no `!` of a number. -/
theorem integral_operators (first : left.integer? = some l) (second : right.integer? = some r) :
    (∀ op : BinaryOp, (op.exact (op.width left.kind right.kind) l r).IsOutcome
      (op.width left.kind right.kind) (op.apply left right)) ∧
    (∀ (op : BinaryOp) (fault : Fault), op.apply left right = .error fault ↔
      fault = .divisionByZero ∧ op.isDivision = true ∧ r = 0) ∧
    ∀ op : UnaryOp, match op.exact? l with
      | some n => ∃ result, op.apply left = .ok result ∧
        result.IsWord (if left.kind = .long then 64 else 32) n
      | none => op.apply left = .error (.illegalUnaryOperand op left.kind) := by
  refine ⟨fun op => BinaryOp.apply_isOutcome first second,
    fun op fault => BinaryOp.apply_eq_error_iff first second, fun op => ?_⟩
  cases exact : op.exact? l with
  | some n => exact UnaryOp.apply_isWord first exact
  | none =>
      cases op <;> cases exact
      exact UnaryOp.apply_not first

/-- The least `int` divided by `-1` is itself, and a shift by `-1` is one by 31. -/
theorem integral_operators_wrapping :
    (Value.int (-2147483648)).integer? = some (-2147483648) ∧ (Value.byte (-1)).integer? = some (-1) ∧
      (∃ result, BinaryOp.div.apply (.int (-2147483648)) (.byte (-1)) = .ok result ∧
        result.IsWord 32 2147483648) ∧
      ∃ result, BinaryOp.ushr.apply (.int (-2147483648)) (.byte (-1)) = .ok result ∧
        result.IsWord 32 1 :=
  have exact := (@integral_operators (.int (-2147483648)) (.byte (-1)) _ _ rfl rfl).1
  ⟨rfl, rfl, exact .div, exact .ushr⟩

end RemoteDebug
