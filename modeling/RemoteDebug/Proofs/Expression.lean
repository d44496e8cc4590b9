import RemoteDebug.Proofs.Evaluation
import RemoteDebug.Proofs.Primitive

/-!
Expressions and their code.

* `Expression` is an expression of constants and operators, `Expression.evaluate` computes it by
  recursion and `Expression.code` is its program in postorder.
* `loop_code`: wherever the code stands in a program and whatever lies on the stack, running it comes to
  the same as the recursion. The lemma speaks of every program around the code and of every stack under
  it, since the operands of an operator run between other code and on top of each other.
* `stack_machine_computes` adds what a run does before and after.
-/

namespace RemoteDebug

/-- An expression of primitive constants and operators. -/
inductive Expression where
  | constant (literal : Literal) (primitive : literal.primitive?.isSome)
  | unary (op : UnaryOp) (operand : Expression)
  | binary (op : BinaryOp) (left right : Expression)

namespace Expression

/-- The value of an expression, the left operand before the right one. -/
def evaluate : Expression → Except Fault Value
  | .constant literal primitive => .ok (literal.primitive?.get primitive)
  | .unary op operand => do op.apply (← operand.evaluate)
  | .binary op left right => do op.apply (← left.evaluate) (← right.evaluate)

/-- The program of an expression: the operands, then the operator. -/
def code : Expression → Program
  | .constant literal _ => [.pushLiteral literal]
  | .unary op operand => operand.code ++ [.unary op]
  | .binary op left right => left.code ++ right.code ++ [.binary op]

/-- Expressions have primitive values, so their sums are never the joining of texts. -/
theorem isPrimitive_of_evaluate {e : Expression} {value : Value} (evaluated : e.evaluate = .ok value) :
    value.isPrimitive = true := by
  cases e with
  | constant literal primitive =>
      cases evaluated
      exact Literal.isPrimitive_of_primitive? (Option.some_get primitive).symm
  | unary op operand =>
      rw [evaluate] at evaluated
      cases first : operand.evaluate with
      | error fault =>
          rw [first] at evaluated
          cases evaluated
      | ok v =>
          rw [first] at evaluated
          exact UnaryOp.isPrimitive_of_apply evaluated
  | binary op left right =>
      rw [evaluate] at evaluated
      cases first : left.evaluate with
      | error fault =>
          rw [first] at evaluated
          cases evaluated
      | ok l =>
          cases second : right.evaluate with
          | error fault =>
              rw [first, second] at evaluated
              cases evaluated
          | ok r =>
              rw [first, second] at evaluated
              exact BinaryOp.isPrimitive_of_apply evaluated

end Expression

/-! ### Straight evaluations -/

/-- Some notes, and then a dialogue. -/
def Dialogue.noting {σ α : Type} : List Note → Dialogue σ α → Dialogue σ α
  | [], d => d
  | n :: rest, d => .note n fun _ => d.noting rest

theorem Dialogue.noting_noting {σ α : Type} (first second : List Note) (d : Dialogue σ α) :
    (d.noting second).noting first = d.noting (first ++ second) := by
  induction first with
  | nil => rfl
  | cons n rest ih => exact congrArg (fun d => Dialogue.note n fun _ => d) ih

theorem Dialogue.bind_noting {σ α β : Type} (notes : List Note) (d : Dialogue σ α)
    (f : α → Dialogue σ β) : (d.noting notes).bind f = (d.bind f).noting notes := by
  induction notes with
  | nil => rfl
  | cons n rest ih => exact congrArg (fun d => Dialogue.note n fun _ => d) ih

/-- The machine with one more value on its stack. -/
def Machine.push (machine : Machine) (value : Value) : Machine :=
  { machine with stack := .value value :: machine.stack }

namespace Evaluation

/-- The dialogue of an evaluation that starts on a machine and may run. -/
def on {α : Type} (x : Evaluation α) (machine : Machine) :
    Dialogue Bool ((Except Fault α × Machine) × Bool) :=
  (x.run.run machine) true

variable {scope : Scope} {machine : Machine}

theorem on_pushLiteral (scope : Scope) (machine : Machine) {literal : Literal} {value : Value}
    (primitive : literal.primitive? = some value) :
    (execute scope (.pushLiteral literal)).on machine = .done ((.ok .next, machine.push value), true) := by
  cases literal <;> cases primitive <;> rfl

theorem on_compute {result : Except Fault Value} :
    Evaluation.on (do pushValue (← compute result); return Flow.next) machine =
      .done (match result with
        | .ok value => ((.ok .next, machine.push value), true)
        | .error fault => ((.error fault, machine), true)) := by
  cases result <;> rfl

theorem on_unary {op : UnaryOp} {operand : Value} :
    (execute scope (.unary op)).on (machine.push operand) =
      .done (match op.apply operand with
        | .ok value => ((.ok .next, machine.push value), true)
        | .error fault => ((.error fault, machine), true)) := by
  have popped : (execute scope (.unary op)).on (machine.push operand) =
      Evaluation.on (do pushValue (← compute (op.apply operand)); return Flow.next) machine := rfl
  rw [popped, on_compute]

theorem on_binary {op : BinaryOp} {left right : Value} (first : left.isPrimitive = true)
    (second : right.isPrimitive = true) :
    (execute scope (.binary op)).on ((machine.push left).push right) =
      .done (match op.apply left right with
        | .ok value => ((.ok .next, machine.push value), true)
        | .error fault => ((.error fault, machine), true)) := by
  have popped : (execute scope (.binary op)).on ((machine.push left).push right) =
      Evaluation.on (do pushValue (← binary scope op left right); return Flow.next) machine := rfl
  have computes : binary scope op left right = compute (op.apply left right) := by
    unfold binary
    rw [if_neg]
    rintro ⟨-, text⟩
    exact Kind.promote_ne_string (Value.kind_ne_string first) (Value.kind_ne_string second) text
  rw [popped, computes, on_compute]

section Asking

variable {program : Program} {instruction : Instruction} {position fuel : Nat} {machine' : Machine}

/-- An instruction that asks for nothing and succeeds. -/
theorem loop_on_flow {flow : Flow} (found : program[position]? = some instruction)
    (executed : (execute scope instruction).on machine = .done ((.ok flow, machine'), true)) :
    (loop scope program (fuel + 1) position).on machine =
      Dialogue.noting [.log (.instruction position instruction)]
        ((follow scope program fuel position flow).on machine') := by
  rw [loop_of_some found]
  have went : (execute scope instruction >>= follow scope program fuel position).on machine =
      (follow scope program fuel position flow).on machine' := by
    change ((execute scope instruction).on machine).bind _ = _
    rw [executed]
    rfl
  exact congrArg (Dialogue.noting [.log (.instruction position instruction)]) went

/-- An instruction that asks for nothing and fails. -/
theorem loop_on_fault {fault : Fault} (found : program[position]? = some instruction)
    (executed : (execute scope instruction).on machine = .done ((.error fault, machine'), true)) :
    (loop scope program (fuel + 1) position).on machine =
      Dialogue.noting [.log (.instruction position instruction)]
        (.done ((.error fault, machine'), true)) := by
  rw [loop_of_some found]
  have went : (execute scope instruction >>= follow scope program fuel position).on machine =
      .done ((.error fault, machine'), true) := by
    change ((execute scope instruction).on machine).bind _ = _
    rw [executed]
    rfl
  exact congrArg (Dialogue.noting [.log (.instruction position instruction)]) went

end Asking

/-- What the code of an expression leads to: with a value the program goes on, the value on top of the
stack; a fault ends it, while operands may be left on the stack. -/
inductive Yields (scope : Scope) (program : Program) (fuel position : Nat) (machine : Machine) :
    Except Fault Value → Dialogue Bool ((Except Fault Outcome × Machine) × Bool) → Prop where
  | value {value : Value} : Yields scope program fuel position machine (.ok value)
      ((loop scope program fuel position).on (machine.push value))
  | fault {fault : Fault} (operands : List StackEntry) :
      Yields scope program fuel position machine (.error fault)
        (.done ((.error fault, { machine with stack := operands ++ machine.stack }), true))

/-- After some notes a dialogue is where the code of an expression leads to. -/
def ComesTo (scope : Scope) (program : Program) (fuel position : Nat) (machine : Machine)
    (r : Except Fault Value) (d : Dialogue Bool ((Except Fault Outcome × Machine) × Bool)) : Prop :=
  ∃ notes later, d = .noting notes later ∧ Yields scope program fuel position machine r later

namespace ComesTo

variable {program : Program} {fuel position : Nat}

/-- An operator puts a value in the place of its operands, or fails when they are popped. -/
theorem of_operator {instruction : Instruction} {operands : Machine} {r : Except Fault Value}
    (found : program[position]? = some instruction)
    (executed : (execute scope instruction).on operands =
      .done (match r with
        | .ok value => ((.ok .next, machine.push value), true)
        | .error fault => ((.error fault, machine), true))) :
    ComesTo scope program fuel (position + 1) machine r
      ((loop scope program (fuel + 1) position).on operands) := by
  cases r with
  | ok value => exact ⟨_, _, loop_on_flow found executed, .value⟩
  | error fault => exact ⟨_, _, loop_on_fault found executed, .fault []⟩

/-- The code of an operand, which runs above the operands before it, and then the rest of the code. A
fault of the operand leaves all of them on the stack. -/
theorem bind {fuel' position' : Nat} (below : List StackEntry) {r : Except Fault Value}
    {f : Value → Except Fault Value} {d : Dialogue Bool ((Except Fault Outcome × Machine) × Bool)}
    (operand : ComesTo scope program fuel' position'
      { machine with stack := below ++ machine.stack } r d)
    (rest : ∀ value, r = .ok value → ComesTo scope program fuel position machine (f value)
      ((loop scope program fuel' position').on
        ({ machine with stack := below ++ machine.stack }.push value))) :
    ComesTo scope program fuel position machine (r >>= f) d := by
  obtain ⟨notes, later, rfl, yields⟩ := operand
  cases yields with
  | value =>
      obtain ⟨more, last, went, yields⟩ := rest _ rfl
      rw [went, Dialogue.noting_noting]
      exact ⟨_, last, rfl, yields⟩
  | fault operands =>
      refine ⟨notes, _, rfl, ?_⟩
      dsimp only
      rw [← List.append_assoc]
      exact .fault _

end ComesTo

theorem loop_code (scope : Scope) (e : Expression) {program before after : Program}
    (program_eq : program = before ++ e.code ++ after) (fuel : Nat) (machine : Machine) :
    ComesTo scope program fuel (before.length + e.code.length) machine e.evaluate
      ((loop scope program (e.code.length + fuel) before.length).on machine) := by
  induction e generalizing before after fuel machine with
  | constant literal primitive =>
      have found : program[before.length]? = some (.pushLiteral literal) := by
        simp [program_eq, Expression.code]
      have pushed := on_pushLiteral scope machine (Option.some_get primitive).symm
      have size : (Expression.constant literal primitive).code.length + fuel = fuel + 1 :=
        Nat.add_comm 1 fuel
      rw [size]
      exact ⟨_, _, loop_on_flow found pushed, .value⟩
  | unary op operand ih =>
      have operand_at : program = before ++ operand.code ++ (.unary op :: after) := by
        simp [program_eq, Expression.code]
      have found : program[before.length + operand.code.length]? = some (.unary op) := by
        simp [program_eq, Expression.code]
      have length : (Expression.unary op operand).code.length = operand.code.length + 1 := by
        simp [Expression.code]
      rw [length, Nat.add_assoc, Nat.add_comm 1 fuel, Expression.evaluate]
      exact (ih operand_at (fuel + 1) machine).bind [] fun v _ => .of_operator found on_unary
  | binary op left right ihl ihr =>
      have left_at : program = before ++ left.code ++ (right.code ++ .binary op :: after) := by
        simp [program_eq, Expression.code]
      have right_at : program = (before ++ left.code) ++ right.code ++ (.binary op :: after) := by
        simp [program_eq, Expression.code]
      have found : program[before.length + left.code.length + right.code.length]? =
          some (.binary op) := by
        rw [right_at, ← List.length_append, ← List.length_append,
          List.getElem?_append_right (Nat.le_refl _), Nat.sub_self]
        rfl
      have length : (Expression.binary op left right).code.length =
          left.code.length + right.code.length + 1 := by
        simp [Expression.code, Nat.add_assoc]
      have place : before.length + (left.code.length + right.code.length + 1) =
          before.length + left.code.length + right.code.length + 1 := by
        omega
      have size : left.code.length + right.code.length + 1 + fuel =
          left.code.length + (right.code.length + (fuel + 1)) := by
        omega
      rw [length, place, size, Expression.evaluate]
      refine (ihl left_at (right.code.length + (fuel + 1)) machine).bind [] fun l first => ?_
      -- The right operand runs above the left one.
      have above := ihr right_at (fuel + 1) (machine.push l)
      rw [List.length_append] at above
      refine above.bind [.value l] fun r second => ?_
      exact .of_operator found (on_binary (Expression.isPrimitive_of_evaluate first)
        (Expression.isPrimitive_of_evaluate second))

/-- At its end a program has the value on top of the stack. -/
theorem loop_on_end {program : Program} {position fuel : Nat} {value : Value}
    (ended : program[position]? = none) :
    (loop scope program (fuel + 1) position).on (machine.push value) =
      .done ((.ok (.completed (some value)), machine.push value), true) := by
  rw [loop_of_none ended]
  rfl

end Evaluation

/-- How the run of the code of an expression ends, and the machine that it leaves. -/
def Expression.ending (e : Expression) : Outcome × Machine :=
  match e.evaluate with
  | .ok value => (.completed (some value), { stack := [.value value] })
  | .error fault => (.failed fault, {})

namespace Interpreter

section Run

variable {interpreter : Interpreter} {fuel : Nat} {target : Target} {frame : Frame}
  {machine : Machine} {notes : List Note} (alive : target.isTerminated = false)
  (running : interpreter.running = true)

include alive running

theorem run_of_completed {value : Option Value}
    (looped : (Evaluation.loop ⟨frame, interpreter.settings⟩ interpreter.program fuel 0).on {} =
      .noting notes (.done ((.ok (.completed value), machine), true))) :
    interpreter.run fuel target frame =
      .noting notes (.done (.completed value, { interpreter with machine })) := by
  obtain ⟨program, settings, before, flag⟩ := interpreter
  cases running
  rw [run, alive]
  change Dialogue.bind (Dialogue.bind (Evaluation.on _ {}) _) _ = _
  rw [looped, Dialogue.bind_noting, Dialogue.bind_noting]
  rfl

theorem run_of_fault {fault : Fault}
    (looped : (Evaluation.loop ⟨frame, interpreter.settings⟩ interpreter.program fuel 0).on {} =
      .noting notes (.done ((.error fault, machine), true))) :
    interpreter.run fuel target frame =
      .noting (notes ++ [.log (.evaluationFailed fault)])
        (.done (.failed fault, { interpreter with machine := {} })) := by
  obtain ⟨program, settings, before, flag⟩ := interpreter
  cases running
  rw [run, alive, ← Dialogue.noting_noting]
  change Dialogue.bind (Dialogue.bind (Evaluation.on _ {}) _) _ = _
  rw [looped, Dialogue.bind_noting, Dialogue.bind_noting]
  rfl

/-- A run of the code of an expression asks for nothing and ends as the expression does. -/
theorem run_code (e : Expression) (program : interpreter.program = e.code)
    (enough : e.code.length < fuel) :
    ∃ notes, interpreter.run fuel target frame =
      .noting notes (.done (e.ending.1, { interpreter with machine := e.ending.2 })) := by
  obtain ⟨rest, rfl⟩ := Nat.exists_eq_add_of_lt enough
  have whole : e.code = [] ++ e.code ++ [] := by simp
  obtain ⟨notes, d, led, yields⟩ :=
    Evaluation.loop_code ⟨frame, interpreter.settings⟩ e whole (rest + 1) {}
  rw [List.length_nil, Nat.zero_add] at yields
  rw [List.length_nil, ← program, ← Nat.add_assoc] at led
  rw [← program]
  unfold Expression.ending
  cases evaluated : e.evaluate with
  | ok value =>
      rw [evaluated] at yields
      cases yields
      rw [Evaluation.loop_on_end (List.getElem?_eq_none (Nat.le_refl _))] at led
      exact ⟨notes, run_of_completed alive running led⟩
  | error fault =>
      rw [evaluated] at yields
      cases yields with
      | fault operands => exact ⟨_, run_of_fault alive running led⟩

end Run

end Interpreter

/-- The stack machine computes an expression: run by itself its code ends with the value on the stack or
with the first fault of the recursion, and anywhere in a program it leaves alone what lies below. -/
theorem stack_machine_computes (e : Expression) :
    (∀ (interpreter : Interpreter) (fuel : Nat) (target : Target) (frame : Frame),
      interpreter.program = e.code → interpreter.running = true → target.isTerminated = false →
      e.code.length < fuel →
      ∃ notes, interpreter.run fuel target frame =
        .noting notes (.done (e.ending.1, { interpreter with machine := e.ending.2 }))) ∧
    ∀ (scope : Scope) (before after : Program) (fuel : Nat) (machine : Machine),
      ∃ notes d, (Evaluation.loop scope (before ++ e.code ++ after) (e.code.length + fuel)
          before.length).on machine = .noting notes d ∧
        Evaluation.Yields scope (before ++ e.code ++ after) fuel (before.length + e.code.length) machine
          e.evaluate d := by
  constructor
  · intro interpreter fuel target frame program running alive enough
    exact Interpreter.run_code alive running e program enough
  · intro scope before after fuel machine
    exact Evaluation.loop_code scope e rfl fuel machine

namespace Expression.Sample

/-- The expression `(7 - 2) * -3`. -/
def product : Expression :=
  .binary .mul (.binary .sub (.constant (.int 7) rfl) (.constant (.int 2) rfl))
    (.unary .minus (.constant (.int 3) rfl))

/-- The expression `1 / 0 + (true + 1)`, of which both operands fail. -/
def failing : Expression :=
  .binary .add (.binary .div (.constant (.int 1) rfl) (.constant (.int 0) rfl))
    (.binary .add (.constant (.boolean true) rfl) (.constant (.int 1) rfl))

/-- An interpreter for an expression. -/
def interpreter (e : Expression) : Interpreter := { program := e.code }

end Expression.Sample

open Expression.Sample in
theorem stack_machine_computes_samples :
    (∃ notes, (interpreter product).run 8 { name := "sample" } ⟨⟨1⟩, 0⟩ =
      .noting notes (.done (.completed (some (.int (-15))),
        { interpreter product with machine := { stack := [.value (.int (-15))] } }))) ∧
    ∃ notes, (interpreter failing).run 8 { name := "sample" } ⟨⟨1⟩, 0⟩ =
      .noting notes (.done (.failed .divisionByZero,
        { interpreter failing with machine := {} })) := by
  constructor
  · exact (stack_machine_computes product).1 (interpreter product) 8 _ _ rfl rfl rfl (by decide)
  · exact (stack_machine_computes failing).1 (interpreter failing) 8 _ _ rfl rfl rfl (by decide)

end RemoteDebug
