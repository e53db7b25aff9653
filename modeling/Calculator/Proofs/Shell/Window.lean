import Calculator.Proofs.Shell.Transition
import Calculator.Shell.Window

/-!
# Frames are steps

What a lawful toolkit remembers makes no difference to the state of the calculator. A focus that
the entry field had before is of no use to return, for which it is given up; what is left is the
focus that the state asks for. And the field for the number of decimal places is silent, unless it
is set. So a frame is a step:

    state_frame : (w.frame t input).state = w.state.step step
    state_run : (w.run t steps).state = w.state.run steps

What holds of the states of all runs of steps holds in the window of every lawful toolkit.
-/

namespace Calculator.Shell

namespace Window

variable {Memory : Type} {t : Toolkit Memory} {w : Window Memory}

/-! ### The entry field -/

theorem state_entryFrame_of_ne {input : Input} (h : input ≠ .enter) (w : Window Memory) :
    (w.entryFrame t input).state = w.state.paint := by
  rw [entryFrame, answerReturn, if_neg fun hand => h hand.2]
  rfl

/-- When return is looked for, the entry field has the focus if and only if the state asked for
it. -/
theorem hasFocus_drawEntry_enter (ht : t.Lawful) (w : Window Memory) :
    t.hasFocus (w.drawEntry t .enter).memory = w.state.focus := by
  rw [drawEntry]
  cases w.state.focus with
  | false => exact ht.hasFocus_drawEntry_enter w.memory
  | true => exact ht.hasFocus_requestFocus _

theorem state_entryFrame_enter (ht : t.Lawful) (w : Window Memory) :
    (w.entryFrame t .enter).state = w.state.step .enter := by
  rw [entryFrame, answerReturn, hasFocus_drawEntry_enter ht, apply_ite state]
  simp only [and_true]
  rfl

/-! ### The buttons and the number field -/

theorem answerButton_of_pos {those : Button → Bool} {button : Button} (h : those button = true)
    (w : Window Memory) :
    w.answerButton those (.press button) = { w with state := w.state.press button } :=
  if_pos h

theorem answerButton_of_neg {those : Button → Bool} {button : Button} (h : ¬those button = true)
    (w : Window Memory) : w.answerButton those (.press button) = w :=
  if_neg h

/-- A field that is not set, and shows a number within its range, is silent. -/
theorem answerNumber_of_ne (ht : t.Lawful) {input : Input}
    (h : ∀ digits, input ≠ .precision digits) (hdigits : w.state.digits ≤ State.maxDigits) :
    w.answerNumber t input = w := by
  rw [answerNumber, ht.number_eq_none w.memory h hdigits]

/-- What a button in front of the field leaves in it is within its range. -/
theorem digits_press_le {s : State} {button : Button} (h : button.clears = true)
    (hdigits : s.digits ≤ State.maxDigits) : (s.press button).digits ≤ State.maxDigits := by
  cases button with
  | clear | clearResults => exact hdigits
  | clearAll => exact (State.changes_step s .reset).digits_le hdigits
  | insert | equals | delete => cases h

theorem state_drawRest (w : Window Memory) (input : Input) :
    (w.drawRest t input).state = w.state := rfl

theorem state_restFrame_press (ht : t.Lawful) (button : Button)
    (hdigits : w.state.digits ≤ State.maxDigits) :
    (w.restFrame t (.press button)).state = w.state.press button := by
  have hsilent : ∀ {w' : Window Memory}, w'.state.digits ≤ State.maxDigits →
      w'.answerNumber t (.press button) = w' := answerNumber_of_ne ht (by simp)
  rw [restFrame, state_drawRest]
  by_cases hclears : button.clears = true
  · rw [answerButton_of_pos hclears, hsilent (digits_press_le hclears hdigits),
      answerButton_of_neg (by simpa using hclears)]
  · rw [answerButton_of_neg hclears, hsilent hdigits, answerButton_of_pos (by simpa using hclears)]

theorem state_restFrame_precision (ht : t.Lawful) (digits : Int)
    (hdigits : w.state.digits ≤ State.maxDigits) :
    (w.restFrame t (.precision digits)).state = w.state.dial digits := by
  show (w.answerNumber t (.precision digits)).state = _
  rw [answerNumber, ht.number_precision digits w.memory hdigits, State.dial]
  by_cases hsame : min digits.toNat State.maxDigits = w.state.digits
  · rw [if_pos hsame, if_pos hsame]
  · rw [if_neg hsame, if_neg hsame]

/-- Else there is nothing to answer behind the entry field. -/
theorem state_restFrame_of_ne (ht : t.Lawful) {input : Input}
    (hpress : ∀ button, input ≠ .press button) (hnumber : ∀ digits, input ≠ .precision digits)
    (hdigits : w.state.digits ≤ State.maxDigits) : (w.restFrame t input).state = w.state := by
  have hsilent := answerNumber_of_ne ht hnumber hdigits
  cases input with
  | press button => exact absurd rfl (hpress button)
  | precision digits => exact absurd rfl (hnumber digits)
  | idle | escape | enter | browseHistory =>
    rw [restFrame, state_drawRest]
    exact congrArg state hsilent

/-! ### Frames -/

theorem frame_of_ne {input : Input} (h : input ≠ .escape) (w : Window Memory) :
    w.frame t input = (w.entryFrame t input).restFrame t input := by
  rw [frame, answerEscape, if_neg h]

/-- A frame does what the step does that it is, whatever the toolkit remembers. -/
theorem state_frame (ht : t.Lawful) {step : Step} {input : Input}
    (hstep : step.input? = some input) (hdigits : w.state.digits ≤ State.maxDigits) :
    (w.frame t input).state = w.state.step step := by
  have hpaint : ∀ {input : Input}, input ≠ .enter →
      (w.entryFrame t input).state.digits ≤ State.maxDigits := fun hne => by
    rw [state_entryFrame_of_ne hne]
    exact hdigits
  cases step with
  | type | reset | clearEntry | clearResults | setError | setDigits | setResult => cases hstep
  | frame | browseHistory =>
    cases hstep
    rw [frame_of_ne (by simp), state_restFrame_of_ne ht (by simp) (by simp) (hpaint (by simp)),
      state_entryFrame_of_ne (by simp)]
    rfl
  | press button =>
    cases hstep
    rw [frame_of_ne (by simp), state_restFrame_press ht button (hpaint (by simp)),
      state_entryFrame_of_ne (by simp)]
    rfl
  | escape =>
    cases hstep
    have hentry : ((w.answerEscape .escape).entryFrame t .escape).state =
        w.state.clearEntry.paint := state_entryFrame_of_ne (by simp) _
    rw [frame, state_restFrame_of_ne ht (by simp) (by simp) (hentry ▸ hdigits), hentry]
    rfl
  | enter =>
    cases hstep
    have hentry := state_entryFrame_enter ht w
    have hbound : (w.entryFrame t .enter).state.digits ≤ State.maxDigits := by
      rw [hentry]
      exact (State.changes_step w.state .enter).digits_le hdigits
    rw [frame_of_ne (by simp), state_restFrame_of_ne ht (by simp) (by simp) hbound, hentry]
  | precision digits =>
    cases hstep
    rw [frame_of_ne (by simp), state_restFrame_precision ht digits (hpaint (by simp)),
      state_entryFrame_of_ne (by simp)]
    rfl

/-! ### Runs -/

theorem state_step (ht : t.Lawful) (hdigits : w.state.digits ≤ State.maxDigits) (step : Step) :
    (w.step t step).state = w.state.step step := by
  unfold Window.step
  split
  · next hstep => exact state_frame ht hstep hdigits
  · rfl

/-- In the window of a lawful toolkit, the states of the calculator are those of a run. -/
theorem state_run (ht : t.Lawful) (hdigits : w.state.digits ≤ State.maxDigits)
    (steps : List Step) : (w.run t steps).state = w.state.run steps := by
  induction steps generalizing w with
  | nil => rfl
  | cons step steps ih =>
    have hstep := state_step ht hdigits step
    have hnext : (w.step t step).state.digits ≤ State.maxDigits := by
      rw [hstep]
      exact (State.changes_step w.state step).digits_le hdigits
    rw [State.run_cons, ← hstep]
    exact ih hnext

end Window

end Calculator.Shell
