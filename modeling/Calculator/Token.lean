import Calculator.Func
import Calculator.Operator

/-!
# Tokens of postfix expressions

An expression in postfix order is a list of tokens: every operator and function
follows its operands, so that no parentheses are needed. A number keeps the text
by which it was written; it is read only when the expression is evaluated.
-/

namespace Calculator

/-- A token of a postfix expression. -/
inductive Token where
  | number (text : String)
  | operator (op : Operator)
  | function (f : Func)
  deriving DecidableEq

/-- How a token is written. -/
def Token.text : Token → String
  | number text => text
  | operator op => op.symbol.toString
  | function f => f.name

/-- An expression in postfix order. -/
abbrev Rpn := List Token

/-- The texts of the tokens with a space between any two. -/
def Rpn.text (tokens : Rpn) : String :=
  " ".intercalate (tokens.map Token.text)

/-- An operator or function that waits for its last operand to be written out. -/
inductive Pending where
  | operator (op : Operator)
  | function (f : Func)
  deriving DecidableEq

namespace Pending

/-- The token that is written out in the end. -/
def token : Pending → Token
  | operator op => .operator op
  | function f => .function f

/-- How tightly an operator or function binds its operands. -/
def precedence : Pending → Nat
  | operator op => op.precedence
  | function f => f.precedence

end Pending

end Calculator
