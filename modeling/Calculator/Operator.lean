/-!
# Binary operators

The five operators of an expression, how tightly they bind, and what they
compute. All of them group to the left, the power too: `2^3^2` is `(2^3)^2`.
-/

namespace Calculator

/-- A binary operator. -/
inductive Operator where
  | plus
  | minus
  | times
  | divide
  | power
  deriving DecidableEq

namespace Operator

/-- The character of an operator in an expression. -/
def symbol : Operator → Char
  | plus => '+'
  | minus => '-'
  | times => '*'
  | divide => '/'
  | power => '^'

/-- The operator of a character, if it is one. -/
def ofChar? : Char → Option Operator
  | '+' => some plus
  | '-' => some minus
  | '*' => some times
  | '/' => some divide
  | '^' => some power
  | _ => none

/-- How tightly an operator binds its operands. -/
def precedence : Operator → Nat
  | plus | minus => 1
  | times | divide => 2
  | power => 3

/-- The value of an operator at its left and its right operand. A quotient by zero is infinite or
not a number, as doubles have it. -/
def apply : Operator → Float → Float → Float
  | plus, left, right => left + right
  | minus, left, right => left - right
  | times, left, right => left * right
  | divide, left, right => left / right
  | power, left, right => left.pow right

/-! ### Symbols -/

@[simp] theorem ofChar?_symbol (op : Operator) : ofChar? op.symbol = some op := by
  cases op <;> rfl

theorem ofChar?_eq_some_iff {c : Char} {op : Operator} : ofChar? c = some op ↔ c = op.symbol := by
  constructor
  · intro h
    unfold ofChar? at h
    split at h <;> first | (cases h; rfl) | cases h
  · rintro rfl
    exact ofChar?_symbol op

theorem one_le_precedence (op : Operator) : 1 ≤ op.precedence := by
  cases op <;> decide

theorem precedence_le_three (op : Operator) : op.precedence ≤ 3 := by
  cases op <;> decide

end Operator

end Calculator
