import Calculator.Token

/-!
# Errors

Why an expression has no value. A text may fail to be an expression, which is
reported with the place in the text, counted in bytes of UTF-8; or its postfix
form may fail to be evaluated, which is reported with the place of the token.
Infinite values and values that are not numbers are no errors.
-/

namespace Calculator

/-- Why a text has no postfix form. -/
inductive ParseError where
  | invalidCharacter (char : Char) (position : Nat)
  | unbalancedParen (position : Nat)
  | unknownFunction (name : String) (position : Nat)
  | invalidNumber (text : String) (position : Nat)
  deriving DecidableEq

/-- What the reader of an expression is told. -/
def ParseError.message : ParseError → String
  | invalidCharacter char position => s!"caractère inattendu '{char}' (position {position})"
  | unbalancedParen position => s!"parenthèse non appariée (position {position})"
  | unknownFunction name position => s!"fonction inconnue '{name}' (position {position})"
  | invalidNumber text position => s!"nombre invalide '{text}' (position {position})"

/-- Why a postfix expression has no value. -/
inductive EvalError where
  | stackUnderflow (token : Token) (index : Nat)
  | malformedExpression (count : Nat)
  | invalidNumber (text : String) (index : Nat)
  deriving DecidableEq

/-- What the reader of a postfix expression is told. -/
def EvalError.message : EvalError → String
  | stackUnderflow token index => s!"opérandes manquants pour '{token.text}' (jeton {index})"
  | malformedExpression count =>
    s!"expression invalide : {count} valeur(s) restante(s) au lieu d’une"
  | invalidNumber text index => s!"nombre invalide '{text}' (jeton {index})"

/-- Why an expression has no value: the conversion fails, or the evaluation of its result. -/
inductive CalcError where
  | parse (error : ParseError)
  | eval (error : EvalError)
  deriving DecidableEq

/-- What the user is told. -/
def CalcError.message : CalcError → String
  | parse error => error.message
  | eval error => error.message

end Calculator
