import Calculator.Shell.Step

/-!
# What a step does

Of the many steps, few touch what is shown and remembered of evaluations: the result,
the error, the derivation and the history. They do so in five ways, and all other steps
leave these four alone (`Changes`):

    changes_step : Changes s step (s.step step)

Evaluating the entry either solves it or fails, whichever way it is asked for. What every
step keeps is kept by runs (`run_of_step`).
-/

namespace Calculator.Shell.State

/-! ### Evaluating the entry -/

/-- A value is shown as the result. An empty entry has none, so it needs no case of its own. -/
theorem evaluate_of_ok {s : State} {evaluation : Evaluation}
    (h : Evaluation.ofText (Entry.prepare s.entry) s.digits = .ok evaluation) :
    s.evaluate = s.setResult evaluation.display ⟨Entry.prepare s.entry, evaluation.rpn⟩ := by
  have hne : Entry.prepare s.entry ≠ "" := by
    intro hempty
    rw [hempty] at h
    cases h
  simp only [evaluate, if_neg hne, h]

/-- An error is shown with its message; that the entry is empty has a message of its own. -/
theorem evaluate_of_error {s : State} {error : CalcError}
    (h : Evaluation.ofText (Entry.prepare s.entry) s.digits = .error error) :
    s.evaluate =
      s.setError (if Entry.prepare s.entry = "" then "Entrée vide" else error.message) := by
  by_cases hempty : Entry.prepare s.entry = ""
  · simp only [evaluate, if_pos hempty]
  · simp only [evaluate, if_neg hempty, h]

/-- An evaluation ends in one of two ways. -/
theorem evaluate_cases (s : State) :
    (∃ evaluation, Evaluation.ofText (Entry.prepare s.entry) s.digits = .ok evaluation ∧
      s.evaluate = s.setResult evaluation.display ⟨Entry.prepare s.entry, evaluation.rpn⟩) ∨
    ∃ error message, Evaluation.ofText (Entry.prepare s.entry) s.digits = .error error ∧
      s.evaluate = s.setError message := by
  cases h : Evaluation.ofText (Entry.prepare s.entry) s.digits with
  | ok evaluation => exact .inl ⟨evaluation, rfl, evaluate_of_ok h⟩
  | error error => exact .inr ⟨error, _, rfl, evaluate_of_error h⟩

/-- What is in the entry stays there. -/
theorem entry_evaluate (s : State) : s.evaluate.entry = s.entry := by
  rcases evaluate_cases s with ⟨evaluation, -, hs⟩ | ⟨error, message, -, hs⟩
  · rw [hs]
    rfl
  · rw [hs]
    rfl

/-! ### Setting the number of places -/

/-- The field is left alone if it has the number already. -/
theorem dial_eq (s : State) (digits : Int) :
    s.dial digits = s ∨ s.dial digits = s.setDigits (min digits.toNat maxDigits) := by
  by_cases hsame : min digits.toNat maxDigits = s.digits
  · exact .inl (if_pos hsame)
  · exact .inr (if_neg hsame)

/-! ### One step -/

/-- `Changes s step s'`: `step` takes `s` to `s'`, in one of six ways as regards the result, the
error, the derivation and the history. -/
inductive Changes (s : State) : Step → State → Prop
  /-- They stay as they are. -/
  | keeps {step : Step} (entry : String) {digits : Nat} (focus : Bool) :
    digits = s.digits ∨ digits ≤ maxDigits → Changes s step { s with entry, digits, focus }
  | clears {step : Step} : Changes s step s.clearResults
  | resets {step : Step} : Changes s step start
  | fails {step : Step} (message : String) : Changes s step (s.setError message)
  /-- A result is put in directly. -/
  | sets (result : String) (derivation : Derivation) :
    Changes s (.setResult result derivation) (s.setResult result derivation)
  /-- The entry is evaluated. -/
  | solves {step : Step} {evaluation : Evaluation} :
    Evaluation.ofText (Entry.prepare s.entry) s.digits = .ok evaluation →
      Changes s step (s.setResult evaluation.display ⟨Entry.prepare s.entry, evaluation.rpn⟩)

theorem changes_evaluate (s : State) (step : Step) : Changes s step s.paint.evaluate := by
  rcases evaluate_cases s.paint with ⟨evaluation, hvalue, hs⟩ | ⟨error, message, -, hs⟩
  · rw [hs]
    exact .solves hvalue
  · rw [hs]
    exact .fails message

theorem changes_dial (s : State) (step : Step) (digits : Int) :
    Changes s step (s.paint.dial digits) := by
  rcases dial_eq s.paint digits with h | h
  · rw [h]
    exact .keeps s.entry false (.inl rfl)
  · rw [h]
    exact .keeps s.entry true (.inr (Nat.min_le_right _ _))

theorem changes_press (s : State) (button : Button) :
    Changes s (.press button) (s.paint.press button) := by
  -- Every button asks for the focus, so that painting the window before it leaves no trace.
  cases button with
  | insert key => exact .keeps (s.entry ++ key.insertion) true (.inl rfl)
  | equals => exact changes_evaluate s _
  | delete => exact .keeps (Entry.delete s.entry) true (.inl rfl)
  | clear => exact .keeps "" true (.inl rfl)
  | clearResults => exact .clears
  | clearAll => exact .resets

/-- Every step does one of these. -/
theorem changes_step (s : State) (step : Step) : Changes s step (s.step step) := by
  cases step with
  | type text => exact .keeps text s.focus (.inl rfl)
  | reset => exact .resets
  | clearEntry => exact .keeps "" true (.inl rfl)
  | clearResults => exact .clears
  | setError message => exact .fails message
  | setDigits digits => exact .keeps s.entry true (.inr (Nat.min_le_right _ _))
  | setResult result derivation => exact .sets result derivation
  | frame => exact .keeps s.entry false (.inl rfl)
  | press button => exact changes_press s button
  | escape => exact .keeps "" false (.inl rfl)
  | enter =>
    change Changes s .enter (if s.focus then s.paint.evaluate else s.paint)
    split
    · exact changes_evaluate s _
    · exact .keeps s.entry false (.inl rfl)
  | precision digits => exact changes_dial s _ digits
  | browseHistory => exact .keeps s.entry false (.inl rfl)

/-- The number of places stays within its bound. -/
theorem Changes.digits_le {s s' : State} {step : Step} (h : Changes s step s')
    (hs : s.digits ≤ maxDigits) : s'.digits ≤ maxDigits := by
  cases h with
  | keeps entry focus hdigits =>
    rcases hdigits with hsame | hmax
    · exact hsame ▸ hs
    · exact hmax
  | resets => decide
  | clears | fails | sets | solves => exact hs

/-! ### Runs -/

/-- What is kept by every step that may be taken holds at the end of a run of such steps. -/
theorem run_of_step {P : State → Prop} {allowed : Step → Prop}
    (hstep : ∀ {s step}, allowed step → P s → P (s.step step)) {s : State} (hs : P s)
    {steps : List Step} (hallowed : ∀ step ∈ steps, allowed step) : P (s.run steps) := by
  induction steps generalizing s with
  | nil => exact hs
  | cons step steps ih =>
    have hnext : P (s.step step) := hstep (hallowed step List.mem_cons_self) hs
    exact ih hnext fun later hlater => hallowed later (List.mem_cons_of_mem step hlater)

end Calculator.Shell.State
