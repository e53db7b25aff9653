import Calculator.Proofs.Shell.Transition

/-!
# The history is a log

The history forgets: it is cut to fifty lines with every success, and cleared by a reset.
Beside it stands a log that is never cut (`log`), to which a step adds the line that it
deposits, if any (`deposit?`). The history is the end of this log, read backwards:

    (start.run steps).history = (start.log [] steps).reverse.take 50

A reset leaves nothing behind, so that the steps after it act as they do at the start.
-/

namespace Calculator.Shell

/-- Whether a step clears everything. -/
def Step.isReset : Step → Bool
  | .reset | .press .clearAll => true
  | _ => false

namespace State

/-- The line of the entry and of what is shown for it, if it has a value. -/
def solution? (s : State) : Option Line :=
  match Evaluation.ofText (Entry.prepare s.entry) s.digits with
  | .ok evaluation => some ⟨Entry.prepare s.entry, evaluation.display⟩
  | .error _ => none

/-- The line that a step deposits: that of a result put in directly, or of the entry where it is
evaluated. -/
def deposit? (s : State) : Step → Option Line
  | .setResult result derivation => some ⟨derivation.entry, result⟩
  | .press .equals => s.solution?
  | .enter => if s.focus then s.solution? else none
  | _ => none

/-- What a step makes of the deposits since the last reset, first to last. -/
def record (s : State) (deposits : List Line) (step : Step) : List Line :=
  if step.isReset then [] else deposits ++ (s.deposit? step).toList

/-- The deposits since the last reset at the end of a run, where `deposits` were made before. -/
def log (s : State) (deposits : List Line) : List Step → List Line
  | [] => deposits
  | step :: steps => (s.step step).log (s.record deposits step) steps

/-- Painting the window does not touch what the entry stands for. -/
theorem solution?_paint (s : State) : s.paint.solution? = s.solution? := by
  have hentry : s.paint.entry = s.entry := rfl
  have hdigits : s.paint.digits = s.digits := rfl
  rw [solution?, hentry, hdigits, solution?]

/-! ### One step -/

/-- The history of a state holds the latest of some deposits, the latest first. -/
def Remembers (s : State) (deposits : List Line) : Prop :=
  s.history = deposits.reverse.take 50

namespace Remembers

variable {s : State} {deposits : List Line}

/-- What is cut off before a line is added would be cut off after it. -/
theorem setResult (h : s.Remembers deposits) (result : String) (derivation : Derivation) :
    (s.setResult result derivation).Remembers (deposits ++ [⟨derivation.entry, result⟩]) := by
  let line : Line := ⟨derivation.entry, result⟩
  calc (line :: s.history).take 50
    _ = (line :: deposits.reverse.take 50).take 50 := by rw [h]
    _ = (line :: deposits.reverse).take 50 := by simp [List.take_take]
    _ = (deposits ++ [line]).reverse.take 50 := by rw [List.reverse_append]; rfl

/-- Evaluating the entry adds its line, or leaves the history alone. -/
theorem evaluate (h : s.Remembers deposits) :
    s.evaluate.Remembers (deposits ++ s.solution?.toList) := by
  rcases evaluate_cases s with ⟨evaluation, hvalue, hs⟩ | ⟨error, message, hvalue, hs⟩
  · rw [hs, solution?, hvalue]
    exact h.setResult _ _
  · rw [hs, solution?, hvalue, Option.toList_none, List.append_nil]
    exact h

/-- A step that leaves the history alone deposits nothing. -/
theorem idle (h : s.Remembers deposits) {s' : State} {step : Step} (hs : s'.history = s.history)
    (hreset : step.isReset = false) (hdeposit : s.deposit? step = none) :
    s'.Remembers (s.record deposits step) := by
  simp only [record, hreset, hdeposit, Option.toList_none, List.append_nil]
  exact hs.trans h

theorem press (h : s.Remembers deposits) (button : Button) :
    (s.step (.press button)).Remembers (s.record deposits (.press button)) := by
  cases button with
  | equals =>
    have hpaint : s.paint.Remembers deposits := h
    have hrecord : s.record deposits (.press .equals) = deposits ++ s.solution?.toList := rfl
    rw [State.step, State.press, hrecord, ← solution?_paint]
    exact hpaint.evaluate
  | clearAll => exact rfl
  | insert | delete | clear | clearResults => exact h.idle rfl rfl rfl

theorem enter (h : s.Remembers deposits) :
    (s.step .enter).Remembers (s.record deposits .enter) := by
  cases hfocus : s.focus with
  | true =>
    have hpaint : s.paint.Remembers deposits := h
    have hdeposit : s.deposit? .enter = s.solution? := if_pos hfocus
    have hrecord : s.record deposits .enter = deposits ++ (s.deposit? .enter).toList := rfl
    rw [State.step, if_pos hfocus, hrecord, hdeposit, ← solution?_paint]
    exact hpaint.evaluate
  | false =>
    have hfocus : ¬s.focus = true := by simp [hfocus]
    rw [State.step, if_neg hfocus]
    exact h.idle rfl rfl (if_neg hfocus)

/-- A step adds its deposit to the history and to the log. -/
theorem step (h : s.Remembers deposits) (step : Step) :
    (s.step step).Remembers (s.record deposits step) := by
  cases step with
  | reset => exact rfl
  | setResult result derivation => exact h.setResult result derivation
  | press button => exact h.press button
  | enter => exact h.enter
  | precision digits =>
    have hs : (s.paint.dial digits).history = s.history := by
      rcases dial_eq s.paint digits with hs | hs <;> rw [hs] <;> rfl
    exact h.idle hs rfl rfl
  | type | clearEntry | clearResults | setError | setDigits | frame | escape | browseHistory =>
    exact h.idle rfl rfl rfl

theorem run (h : s.Remembers deposits) (steps : List Step) :
    (s.run steps).Remembers (s.log deposits steps) := by
  induction steps generalizing s deposits with
  | nil => exact h
  | cons step steps ih => exact ih (h.step step)

end Remembers

/-! ### Runs -/

/-- The history holds the latest deposits since the last reset; and what came before a reset makes
no difference to what comes after it. -/
theorem history_run_and_run_of_reset (steps before after : List Step) :
    (start.run steps).history = (start.log [] steps).reverse.take 50 ∧
      start.run (before ++ .press .clearAll :: after) = start.run after ∧
      start.run (before ++ .reset :: after) = start.run after := by
  have hempty : start.Remembers [] := rfl
  have hlog : (start.run steps).Remembers (start.log [] steps) := hempty.run steps
  refine ⟨hlog, ?_, ?_⟩
  · rw [run_append]
    rfl
  · rw [run_append]
    rfl

end State

end Calculator.Shell
