import Calculator.Decimal.Shortest
import Calculator.Text.Quoted
import Calculator.Token

/-!
# Events of a computation

What the conversion and the evaluation of an expression report while they run:
every token as it is written out, the cause of most failures, and the result of
each stage. An event is a fact; its level and its wording in the journal are
functions of it.
-/

namespace Calculator

/-- How much a record matters: traces follow every token, debug records every stage. -/
inductive Level where
  | trace
  | debug
  deriving DecidableEq

/-- A fact reported by a computation. -/
inductive Event where
  /-- A token was written out. -/
  | written (token : Token)
  /-- A `)` was met that no `(` precedes. -/
  | unopened (position : Nat)
  /-- A character was met that belongs to no expression. -/
  | unexpected (char : Char) (position : Nat)
  /-- A `(` was left that no `)` follows. -/
  | unclosed (position : Nat)
  /-- The text was converted to so many tokens. -/
  | converted (text : String) (count : Nat)
  /-- A token found too few operands. -/
  | emptyStack (token : Token) (index : Nat)
  /-- The evaluation ended with so many values. -/
  | remaining (count : Nat)
  /-- The text was evaluated. -/
  | solved (text : String) (value : Float)

namespace Event

/-- The level at which an event is recorded. -/
def level : Event → Level
  | written _ => .trace
  | _ => .debug

/-- The wording of an event in the journal. -/
def message : Event → String
  | written token => s!"rpn: sortie {token.text}"
  | unopened position => s!"rpn: ')' sans '(' en position {position}"
  | unexpected char position =>
    s!"rpn: caractère inattendu {Text.quotedChar char} en position {position}"
  | unclosed position => s!"rpn: '(' non fermée en position {position}"
  | converted text count => s!"rpn: {Text.quoted text} -> {count} jeton(s)"
  | emptyStack token index => s!"eval: pile vide pour {token.text} (jeton {index})"
  | remaining count => s!"eval: {count} valeur(s) restante(s)"
  | solved text value => s!"solve: {Text.quoted text} = {Decimal.full value}"

/-- How an event stands in the journal. -/
def record (event : Event) : Level × String :=
  (event.level, event.message)

end Event

end Calculator
