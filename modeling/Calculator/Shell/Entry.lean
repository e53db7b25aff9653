import Calculator.Func
import Calculator.Text.Blank
import Calculator.Text.Lowercase

/-!
# The entry field

The text that the user edits. It may hold blanks and capitals, which are taken
out before it is evaluated, so `SIN ( 2 )` means `sin(2)`.
-/

namespace Calculator.Shell.Entry

/-- The entry as an expression: without blanks, in small letters. -/
def prepare (entry : String) : String :=
  String.ofList (Text.lower (entry.toList.filter fun c => !Text.isBlank c))

/-- What inserting a function adds to the entry: its name and the parenthesis of its argument. -/
def opening (f : Func) : String :=
  f.name ++ "("

/-- The function whose name and parenthesis end a text, given its characters from last to first. -/
def lastOpening? (reversed : List Char) : Option Func :=
  Func.all.find? fun f => (opening f).toList.reverse.isPrefixOf reversed

/-- The entry without its last symbol: the name of a function goes with its parenthesis. Blanks at
the end are no symbols and go as well. -/
def delete (entry : String) : String :=
  let reversed := entry.toList.reverse.dropWhile Text.isBlank
  let symbolLength := match lastOpening? reversed with
    | some f => (opening f).length
    | none => 1
  String.ofList (reversed.drop symbolLength).reverse

example : prepare " SIN ( 2 ) " = "sin(2)" := by decide +kernel

example : delete "2+sqrt( " = "2+" := by decide +kernel

end Calculator.Shell.Entry
