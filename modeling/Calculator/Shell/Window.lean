import Calculator.Shell.Step

/-!
# The window

The calculator is drawn, one frame after the other, by a toolkit with a memory of its own. In a
frame it first looks for the escape key; then it draws the entry field, gives it the focus if the
state asks for it, and looks for return; then come the buttons that clear, the field for the
number of decimal places and the other buttons.

The toolkit is a parameter. All that is asked of it is in `Toolkit.Lawful`: who requests the focus
has it, keeps it while nothing happens, and gives it up over return; and a number field keeps
within its range and reports changes. A toolkit that remembers the focus and nothing else is
`Toolkit.plain`.
-/

namespace Calculator.Shell

/-- What the user does in a frame. -/
inductive Input where
  | idle
  | press (button : Button)
  | escape
  | enter
  /-- The field for the number of decimal places is set. -/
  | precision (digits : Int)
  /-- The history is opened and closed again. -/
  | browseHistory
  deriving DecidableEq

/-- What the user does in a step, if the step is a frame. -/
def Step.input? : Step → Option Input
  | .frame => some .idle
  | .press button => some (.press button)
  | .escape => some .escape
  | .enter => some .enter
  | .precision digits => some (.precision digits)
  | .browseHistory => some .browseHistory
  | .type _ | .reset | .clearEntry | .clearResults | .setError _ | .setDigits _
  | .setResult _ _ => none

/-! ### The toolkit -/

/-- What draws the window, with a memory from frame to frame. -/
structure Toolkit (Memory : Type) where
  /-- Draws the entry field. -/
  drawEntry : Input → Memory → Memory
  /-- Requests the focus for the entry field. -/
  requestFocus : Memory → Memory
  /-- Whether the entry field has the focus. -/
  hasFocus : Memory → Bool
  /-- Draws what is behind the entry field. -/
  drawRest : Input → Memory → Memory
  /-- The number that a number field comes to, with a bound and the number shown so far, if that is
  a change. -/
  number : Input → (bound shown : Nat) → Memory → Option Nat

namespace Toolkit

variable {Memory : Type}

/-- What is known of a toolkit. -/
structure Lawful (t : Toolkit Memory) : Prop where
  hasFocus_requestFocus (m : Memory) : t.hasFocus (t.requestFocus m) = true
  /-- The focus is kept over frames in which nothing happens. -/
  hasFocus_drawEntry_idle {m : Memory} :
    t.hasFocus m = true → t.hasFocus (t.drawEntry .idle m) = true
  hasFocus_drawRest_idle {m : Memory} :
    t.hasFocus m = true → t.hasFocus (t.drawRest .idle m) = true
  /-- An entry field of one line handles return by giving up the focus. -/
  hasFocus_drawEntry_enter (m : Memory) : t.hasFocus (t.drawEntry .enter m) = false
  /-- A number field keeps within its range. -/
  number_precision (digits : Int) {bound shown : Nat} (m : Memory) :
    shown ≤ bound → t.number (.precision digits) bound shown m =
      if min digits.toNat bound = shown then none else some (min digits.toNat bound)
  /-- What is in its range stays unless it is set. -/
  number_eq_none {input : Input} {bound shown : Nat} (m : Memory) :
    (∀ digits, input ≠ .precision digits) → shown ≤ bound → t.number input bound shown m = none

/-- A toolkit that remembers whether the entry field has the focus. -/
def plain : Toolkit Bool where
  drawEntry input focused := focused && input != .enter
  requestFocus _ := true
  hasFocus focused := focused
  drawRest _ focused := focused
  number
    | .precision digits, bound, shown, _ =>
      if min digits.toNat bound = shown then none else some (min digits.toNat bound)
    | _, _, _, _ => none

theorem lawful_plain : plain.Lawful where
  hasFocus_requestFocus _ := rfl
  hasFocus_drawEntry_idle {focused} h := (Bool.and_true focused).trans h
  hasFocus_drawRest_idle h := h
  hasFocus_drawEntry_enter focused := Bool.and_false focused
  number_precision _ _ _ _ _ := rfl
  number_eq_none {input _ _} _ hne _ := by
    cases input with
    | precision digits => exact absurd rfl (hne digits)
    | idle | press | escape | enter | browseHistory => rfl

end Toolkit

/-- Whether a button stands with those that clear, in front of the field for the number of decimal
places. -/
def Button.clears : Button → Bool
  | .clear | .clearResults | .clearAll => true
  | .insert _ | .equals | .delete => false

/-- The calculator in its window. -/
structure Window (Memory : Type) where
  state : State
  memory : Memory

namespace Window

variable {Memory : Type}

/-! ### Parts of a frame -/

/-- The escape key clears the entry. -/
def answerEscape (w : Window Memory) (input : Input) : Window Memory :=
  if input = .escape then { w with state := w.state.clearEntry } else w

/-- Draws the entry field, which gets the focus if the state asks for it. -/
def drawEntry (t : Toolkit Memory) (w : Window Memory) (input : Input) : Window Memory :=
  let memory := t.drawEntry input w.memory
  ⟨w.state.paint, if w.state.focus then t.requestFocus memory else memory⟩

/-- Return evaluates the entry if the entry field has the focus. -/
def answerReturn (t : Toolkit Memory) (w : Window Memory) (input : Input) : Window Memory :=
  if t.hasFocus w.memory = true ∧ input = .enter then { w with state := w.state.evaluate } else w

/-- The part of the entry field. -/
def entryFrame (t : Toolkit Memory) (w : Window Memory) (input : Input) : Window Memory :=
  (w.drawEntry t input).answerReturn t input

/-- A button does what it does, if it is one of those. -/
def answerButton (those : Button → Bool) (w : Window Memory) : Input → Window Memory
  | .press button => if those button then { w with state := w.state.press button } else w
  | _ => w

/-- The field for the number of decimal places. -/
def answerNumber (t : Toolkit Memory) (w : Window Memory) (input : Input) : Window Memory :=
  match t.number input State.maxDigits w.state.digits w.memory with
  | some digits => { w with state := w.state.setDigits digits }
  | none => w

/-- Draws what is behind the entry field. -/
def drawRest (t : Toolkit Memory) (w : Window Memory) (input : Input) : Window Memory :=
  { w with memory := t.drawRest input w.memory }

/-- The part of the buttons and of the field between them. -/
def restFrame (t : Toolkit Memory) (w : Window Memory) (input : Input) : Window Memory :=
  (((w.answerButton Button.clears input).answerNumber t input).answerButton
    (fun button => !button.clears) input).drawRest t input

/-! ### Frames -/

/-- A whole frame. -/
def frame (t : Toolkit Memory) (w : Window Memory) (input : Input) : Window Memory :=
  ((w.answerEscape input).entryFrame t input).restFrame t input

/-- The parts of the entry field in frame after frame. -/
def entryFrames (t : Toolkit Memory) (w : Window Memory) (inputs : List Input) : Window Memory :=
  inputs.foldl (entryFrame t) w

/-- What happens to the calculator happens in a frame, or to its state directly. -/
def step (t : Toolkit Memory) (w : Window Memory) (step : Step) : Window Memory :=
  match step.input? with
  | some input => w.frame t input
  | none => { w with state := w.state.step step }

/-- The window after a list of steps. -/
def run (t : Toolkit Memory) (w : Window Memory) (steps : List Step) : Window Memory :=
  steps.foldl (step t) w

end Window

end Calculator.Shell
