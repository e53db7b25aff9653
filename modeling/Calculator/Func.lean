/-!
# Functions

The four functions of an expression. A function is written by its name with its
argument in parentheses, and binds more tightly than every operator. Angles are
in radians.
-/

namespace Calculator

/-- A function of one argument. -/
inductive Func where
  | sin
  | cos
  | tan
  | sqrt
  deriving DecidableEq

namespace Func

/-- All functions. -/
def all : List Func := [sin, cos, tan, sqrt]

/-- The name of a function in an expression. -/
def name : Func → String
  | sin => "sin"
  | cos => "cos"
  | tan => "tan"
  | sqrt => "sqrt"

/-- The function of a name, if it is one. -/
def ofName? (name : String) : Option Func :=
  all.find? (·.name == name)

/-- How tightly a function binds its argument: more than any operator. -/
def precedence (_ : Func) : Nat := 4

/-- The value of a function; the root of a negative number is not a number. -/
def apply : Func → Float → Float
  | sin, x => x.sin
  | cos, x => x.cos
  | tan, x => x.tan
  | sqrt, x => x.sqrt

/-! ### Names -/

theorem mem_all (f : Func) : f ∈ all := by
  cases f <;> decide

@[simp] theorem ofName?_name (f : Func) : ofName? f.name = some f := by
  cases f <;> decide

theorem ofName?_eq_some_iff {name : String} {f : Func} : ofName? name = some f ↔ name = f.name := by
  constructor
  · intro h
    have hf := List.find?_some (p := fun g : Func => g.name == name) h
    exact (beq_iff_eq.mp hf).symm
  · rintro rfl
    exact ofName?_name f

end Func

end Calculator
