import Calculator.Evaluation
import Calculator.Shell.Button
import Calculator.Shell.State

/-!
# Using the calculator

A run of the calculator is a list of steps, each of which takes one state to the
next. Some steps change the state directly. The others go through a *frame*, a
repaint of the window: the entry field, once painted, no longer asks for the
focus, and then what the user pressed in this frame takes effect.

The return key belongs to the entry field, and reaches it in the frame that gives
it the focus: so return evaluates only if the focus was still asked for when the
frame began. How a frame is drawn, and what is asked of the toolkit that draws it, is
in `Calculator.Shell.Window`.
-/

namespace Calculator.Shell

/-- Something that happens to the calculator. -/
inductive Step where
  /-- The entry is replaced. -/
  | type (text : String)
  | reset
  | clearEntry
  | clearResults
  | setError (message : String)
  | setDigits (digits : Nat)
  | setResult (result : String) (derivation : Derivation)
  /-- A frame in which nothing is pressed. -/
  | frame
  /-- A button is pressed. -/
  | press (button : Button)
  | escape
  | enter
  /-- The field for the number of decimal places is set. -/
  | precision (digits : Int)
  /-- The history is opened and closed again. -/
  | browseHistory
  deriving DecidableEq

namespace State

/-- Evaluates the entry, and shows the result or the error. -/
def evaluate (s : State) : State :=
  let expression := Entry.prepare s.entry
  if expression = "" then s.setError "Entrée vide"
  else match Evaluation.ofText expression s.digits with
    | .ok evaluation => s.setResult evaluation.display ⟨expression, evaluation.rpn⟩
    | .error error => s.setError error.message

/-- Paints the window: the entry field no longer asks for the focus. -/
def paint (s : State) : State :=
  { s with focus := false }

/-- Inserts text at the end of the entry. -/
def insert (s : State) (text : String) : State :=
  { s with entry := s.entry ++ text, focus := true }

/-- Deletes the last symbol of the entry. -/
def delete (s : State) : State :=
  { s with entry := Entry.delete s.entry, focus := true }

/-- What a button does. -/
def press (s : State) : Button → State
  | .insert key => s.insert key.insertion
  | .equals => s.evaluate
  | .delete => s.delete
  | .clear => s.clearEntry
  | .clearResults => s.clearResults
  | .clearAll => s.reset

/-- Sets the field for the number of decimal places, which keeps within its range and reports only
a change. -/
def dial (s : State) (digits : Int) : State :=
  let digits := min digits.toNat maxDigits
  if digits = s.digits then s else s.setDigits digits

/-- The state after a step. -/
def step (s : State) : Step → State
  | .type text => s.type text
  | .reset => s.reset
  | .clearEntry => s.clearEntry
  | .clearResults => s.clearResults
  | .setError message => s.setError message
  | .setDigits digits => s.setDigits digits
  | .setResult result derivation => s.setResult result derivation
  | .frame => s.paint
  | .press button => s.paint.press button
  | .escape => s.clearEntry.paint
  | .enter => if s.focus then s.paint.evaluate else s.paint
  | .precision digits => s.paint.dial digits
  | .browseHistory => s.paint

/-- The state after a list of steps. -/
def run (s : State) (steps : List Step) : State :=
  steps.foldl step s

/-- The states after each of the steps. -/
def states (s : State) : List Step → List State
  | [] => []
  | step :: steps => let next := s.step step; next :: next.states steps

/-- The history as it is written when it is opened, the latest line first. -/
def historyText (s : State) : List String :=
  s.history.map Line.text

/-! ### Runs -/

@[simp] theorem run_nil (s : State) : s.run [] = s := rfl

@[simp] theorem run_cons (s : State) (step : Step) (steps : List Step) :
    s.run (step :: steps) = (s.step step).run steps := rfl

theorem run_append (s : State) (steps steps' : List Step) :
    s.run (steps ++ steps') = (s.run steps).run steps' :=
  List.foldl_append

end State

end Calculator.Shell
