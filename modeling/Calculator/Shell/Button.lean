import Calculator.Operator
import Calculator.Shell.Entry

/-!
# Buttons

The buttons of the calculator. Most insert what they show into the entry; a
function also inserts the parenthesis of its argument. The others evaluate, delete
and clear.
-/

namespace Calculator.Shell

/-- What a button inserts into the entry. -/
inductive Key where
  | digit (value : Fin 10)
  | point
  | openParen
  | closeParen
  | operator (op : Operator)
  | function (f : Func)
  deriving DecidableEq

namespace Key

/-- All keys. -/
def all : List Key :=
  (List.finRange 10).map digit ++ [point, openParen, closeParen] ++
    [.plus, .minus, .times, .divide, .power].map operator ++ Func.all.map function

/-- What is shown on the key. -/
def label : Key → String
  | digit value => toString value.val
  | point => "."
  | openParen => "("
  | closeParen => ")"
  | operator op => op.symbol.toString
  | function f => f.name

/-- What the key adds to the entry. -/
def insertion : Key → String
  | function f => Entry.opening f
  | key => key.label

end Key

/-- A button. -/
inductive Button where
  | insert (key : Key)
  /-- Evaluates the entry. -/
  | equals
  /-- Deletes the last symbol of the entry. -/
  | delete
  /-- Clears the entry. -/
  | clear
  /-- Clears what is shown of the last evaluation. -/
  | clearResults
  /-- Clears everything. -/
  | clearAll
  deriving DecidableEq

namespace Button

/-- All buttons. -/
def all : List Button :=
  Key.all.map insert ++ [equals, delete, clear, clearResults, clearAll]

/-- What is shown on the button. -/
def label : Button → String
  | insert key => key.label
  | equals => "="
  | delete => "DEL"
  | clear => "C"
  | clearResults => "CLR"
  | clearAll => "AC"

/-- The button with a label, if there is one. -/
def ofLabel? (label : String) : Option Button :=
  all.find? (·.label == label)

end Button

end Calculator.Shell
