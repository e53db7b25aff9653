import Calculator.Proofs.Shell.Transition

/-!
# What is shown fits together

The result, the error, the derivation and the history of a state are changed by
different steps, some of which touch only a part of them. In every state that the
calculator comes to they still belong together (`Coherent`): a derivation leads to the
result that is shown, no error stands beside a derivation, and a result stands on top of
the history. The number of places and the length of the history stay within bounds.
-/

namespace Calculator.Shell

/-- What is shown and remembered of evaluations belongs together. -/
structure State.Coherent (s : State) : Prop where
  digits_le : s.digits ≤ 17
  length_history_le : s.history.length ≤ 50
  /-- An error takes the derivation away. -/
  derivation_of_error : s.error ≠ "" → s.derivation.entry = "" ∧ s.derivation.rpn = ""
  /-- A result that is shown is that of the latest line. -/
  history_of_result : s.result ≠ "" → ∃ line, s.history.head? = some line ∧ line.result = s.result
  /-- A derivation that is shown is that of the latest line and of the result. -/
  history_of_derivation :
    s.derivation ≠ .empty → s.history.head? = some ⟨s.derivation.entry, s.result⟩

namespace State

theorem coherent_start : start.Coherent where
  digits_le := by decide
  length_history_le := by decide
  derivation_of_error := fun _ => ⟨rfl, rfl⟩
  history_of_result := fun h => absurd rfl h
  history_of_derivation := fun h => absurd rfl h

namespace Coherent

variable {s : State}

theorem clearResults (h : s.Coherent) : s.clearResults.Coherent where
  digits_le := h.digits_le
  length_history_le := h.length_history_le
  derivation_of_error := fun _ => ⟨rfl, rfl⟩
  history_of_result := fun hne => absurd rfl hne
  history_of_derivation := fun hne => absurd rfl hne

/-- The last result stays in place, and so does its line. -/
theorem setError (h : s.Coherent) (message : String) : (s.setError message).Coherent where
  digits_le := h.digits_le
  length_history_le := h.length_history_le
  derivation_of_error := fun _ => ⟨rfl, rfl⟩
  history_of_result := h.history_of_result
  history_of_derivation := fun hne => absurd rfl hne

/-- Whatever was shown before, the new line is on top. -/
theorem setResult (h : s.Coherent) (result : String) (derivation : Derivation) :
    (s.setResult result derivation).Coherent where
  digits_le := h.digits_le
  length_history_le := List.length_take_le _ _
  derivation_of_error := fun hne => absurd rfl hne
  history_of_result := fun _ => ⟨⟨derivation.entry, result⟩, rfl, rfl⟩
  history_of_derivation := fun _ => rfl

theorem changes {s' : State} {step : Step} (h : s.Coherent) (hchanges : Changes s step s') :
    s'.Coherent := by
  have hdigits := hchanges.digits_le h.digits_le
  cases hchanges with
  | keeps => exact { h with digits_le := hdigits }
  | clears => exact h.clearResults
  | resets => exact coherent_start
  | fails message => exact h.setError message
  | sets result derivation => exact h.setResult result derivation
  | solves => exact h.setResult _ _

theorem step (h : s.Coherent) (step : Step) : (s.step step).Coherent :=
  h.changes (changes_step s step)

end Coherent

/-- In every state that the calculator comes to, what is shown belongs together. -/
theorem coherent_run (steps : List Step) : (start.run steps).Coherent := by
  have hstep : ∀ {s : State} {step : Step}, True → s.Coherent → (s.step step).Coherent :=
    fun {_ step} _ h => h.step step
  exact run_of_step hstep coherent_start fun _ _ => trivial

end State

end Calculator.Shell
