import Calculator.Decimal.Numeral
import Calculator.Token

/-!
# Expression trees

What an expression means, apart from how it is written: a tree with numerals at
its leaves, functions at its unary nodes and operators at its binary nodes. Its
postfix form lists the nodes, operands before what applies to them, and its value
is found by recursion.
-/

namespace Calculator

/-- An expression tree. -/
inductive Expr where
  | number (text : String)
  | call (f : Func) (argument : Expr)
  | binary (op : Operator) (left right : Expr)
  deriving DecidableEq

namespace Expr

/-- The postfix form of an expression. -/
def rpn : Expr → Rpn
  | number text => [.number text]
  | call f argument => argument.rpn ++ [.function f]
  | binary op left right => left.rpn ++ right.rpn ++ [.operator op]

/-- The value of an expression; there is none only if a number is no numeral. -/
def value? : Expr → Option Float
  | number text => readNumber? text
  | call f argument => do return f.apply (← argument.value?)
  | binary op left right => do return op.apply (← left.value?) (← right.value?)

end Expr

end Calculator
