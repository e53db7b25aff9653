/-!
# The state of the calculator

What the calculator shows and remembers, and the elementary changes to it. A
success puts its result on top of the history; a failure leaves the last result in
place but takes its derivation away. Every one of the changes asks for the focus
of the entry field, except typing into that field.
-/

namespace Calculator.Shell

/-- How the last result came about: the prepared entry and its postfix form. -/
structure Derivation where
  entry : String
  rpn : String
  deriving DecidableEq

/-- No derivation. -/
def Derivation.empty : Derivation :=
  ⟨"", ""⟩

/-- A line of the history: a prepared entry and what was shown for it. -/
structure Line where
  entry : String
  result : String
  deriving DecidableEq

/-- How a line of the history is written. -/
def Line.text (line : Line) : String :=
  line.entry ++ " = " ++ line.result

/-- The state of the calculator. -/
structure State where
  entry : String
  result : String
  error : String
  derivation : Derivation
  /-- The successes, the latest first. -/
  history : List Line
  /-- The number of decimal places of results. -/
  digits : Nat
  /-- Whether the entry field asks for the focus. -/
  focus : Bool
  deriving DecidableEq

namespace State

/-- The number of decimal places to start with. -/
def defaultDigits : Nat := 10

/-- The greatest number of decimal places. -/
def maxDigits : Nat := 17

/-- The number of lines that the history keeps. -/
def historyLimit : Nat := 50

/-- The state to start in. -/
def start : State :=
  ⟨"", "", "", .empty, [], defaultDigits, true⟩

/-! ### Elementary changes -/

/-- Replaces the entry by what the user typed. -/
def type (s : State) (text : String) : State :=
  { s with entry := text }

/-- Clears the entry. -/
def clearEntry (s : State) : State :=
  { s with entry := "", focus := true }

/-- Clears what is shown of the last evaluation. -/
def clearResults (s : State) : State :=
  { s with result := "", error := "", derivation := .empty, focus := true }

/-- Clears everything, the history and the number of decimal places too. -/
def reset (s : State) : State :=
  { s.clearEntry.clearResults with history := [], digits := defaultDigits }

/-- Shows an error; the last result stays. -/
def setError (s : State) (message : String) : State :=
  { s with error := message, derivation := .empty, focus := true }

/-- Sets the number of decimal places, as far as it may go. -/
def setDigits (s : State) (digits : Nat) : State :=
  { s with digits := min digits maxDigits, focus := true }

/-- Shows a result, and puts it on top of the history. -/
def setResult (s : State) (result : String) (derivation : Derivation) : State :=
  { s with
    result
    error := ""
    derivation
    history := (⟨derivation.entry, result⟩ :: s.history).take historyLimit
    focus := true }

end State

end Calculator.Shell
