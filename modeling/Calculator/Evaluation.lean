import Calculator.Conversion
import Calculator.Decimal.Fixed

/-!
# The value of an expression

A postfix expression is evaluated on a stack of values: a number is pushed, and a
function or an operator replaces its operands, the latest pushed being the right
one, by its value. In the end one value must be left.

`solve` is conversion and evaluation in one; `Evaluation.ofText` also gives what
the display and the derivation show.
-/

namespace Calculator

namespace Rpn

/-- Takes the token at an index; the stack has its latest value first. -/
def step (stack : List Float) (token : Token) (index : Nat) : Logged EvalError (List Float) :=
  match token, stack with
  | .number text, _ =>
    match readNumber? text with
    | some value => pure (value :: stack)
    | none => .fail (.invalidNumber text index)
  | .function f, x :: rest => pure (f.apply x :: rest)
  | .operator op, right :: left :: rest => pure (op.apply left right :: rest)
  | _, _ => do
    .report (.emptyStack token index)
    .fail (.stackUnderflow token index)

/-- Takes tokens one after the other, the first at `index`. -/
def run (stack : List Float) (index : Nat) : Rpn → Logged EvalError (List Float)
  | [] => pure stack
  | token :: tokens => do
    let stack ← step stack token index
    run stack (index + 1) tokens

/-- The value of a postfix expression. -/
def evaluate (tokens : Rpn) : Logged EvalError Float := do
  match ← run [] 0 tokens with
  | [value] => return value
  | stack =>
    .report (.remaining stack.length)
    .fail (.malformedExpression stack.length)

/-- The tokens may be taken in two goes. -/
theorem outcome_run_append (stack : List Float) (index : Nat) (tokens tokens' : Rpn) :
    (run stack index (tokens ++ tokens')).outcome =
      (run stack index tokens).outcome.bind fun stack' =>
        (run stack' (index + tokens.length) tokens').outcome := by
  induction tokens generalizing stack index with
  | nil => rfl
  | cons token tokens ih =>
    simp only [List.cons_append, run, Logged.outcome_bind]
    cases (step stack token index).outcome with
    | error e => rfl
    | ok stack' =>
      rw [List.length_cons, Nat.add_comm tokens.length 1, ← Nat.add_assoc]
      exact ih stack' (index + 1)

/-- The one value that is left is the result. -/
theorem outcome_evaluate_of_run {tokens : Rpn} {value : Float}
    (h : (run [] 0 tokens).outcome = .ok [value]) : (evaluate tokens).outcome = .ok value := by
  simp [evaluate, h, Except.bind]

/-- Any other number of values is an error. -/
theorem outcome_evaluate_of_length_ne {tokens : Rpn} {stack : List Float}
    (h : (run [] 0 tokens).outcome = .ok stack) (hne : stack.length ≠ 1) :
    (evaluate tokens).outcome = .error (.malformedExpression stack.length) := by
  simp only [evaluate, Logged.outcome_bind, h, Except.bind]
  split
  · simp at hne
  · rfl

end Rpn

/-- The value of an expression. -/
def solve (text : String) : Logged CalcError Float := do
  let tokens ← (Rpn.ofText text).mapError .parse
  let value ← (Rpn.evaluate tokens).mapError .eval
  .report (.solved text value)
  return value

/-- The value of an expression with what is shown of it. -/
structure Evaluation where
  value : Float
  /-- The value rounded to the places of the display. -/
  display : String
  /-- The text of the postfix form. -/
  rpn : String

/-- Evaluates an expression for a display of `digits` decimal places. -/
def Evaluation.ofText (text : String) (digits : Nat) : Except CalcError Evaluation := do
  let tokens ← (Rpn.ofText text).outcome.mapError .parse
  let value ← (Rpn.evaluate tokens).outcome.mapError .eval
  return ⟨value, Decimal.display value digits, Rpn.text tokens⟩

end Calculator
