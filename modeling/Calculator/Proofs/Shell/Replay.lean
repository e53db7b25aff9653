import Calculator.Proofs.Shell.Preparation
import Calculator.Proofs.Shell.Transition

/-!
# Results can be had again

As long as no result is put in directly, every line of the history comes from an
evaluation. Its entry may be typed in as it stands and evaluates to the result of the line,
at the number of places that was set at the time (`Line.Replays`). What is shown as the
derivation is the postfix form of its entry, whatever number of places is set now, so that
evaluating that entry shows the same derivation again.
-/

namespace Calculator.Shell

/-- A line whose entry evaluates to its result. -/
structure Line.Replays (line : Line) : Prop where
  ne_empty : line.entry ≠ ""
  ascii : ∀ c ∈ line.entry.toList, c.toNat < 128
  /-- Typed in again, the entry is left as it is. -/
  prepared : Entry.prepare line.entry = line.entry
  evaluates : ∃ digits ≤ 17, ∃ evaluation,
    Evaluation.ofText line.entry digits = .ok evaluation ∧ evaluation.display = line.result

/-- A line that an evaluation deposits. -/
theorem Line.Replays.of_ofText {text : String} {digits : Nat} {evaluation : Evaluation}
    (h : Evaluation.ofText text digits = .ok evaluation) (hdigits : digits ≤ 17) :
    Line.Replays ⟨text, evaluation.display⟩ where
  ne_empty := by
    rintro rfl
    cases h
  ascii := by
    obtain ⟨tokens, value, htokens, -, -⟩ := Evaluation.ofText_eq_ok_iff.mp h
    exact fun c hc => (Conversion.isExprChar_of_outcome_ofText htokens c hc).toNat_lt
  prepared := Entry.prepare_of_ofText h
  evaluates := ⟨digits, hdigits, evaluation, h, rfl⟩

namespace State

/-- The number of places is within its bound, every line of the history can be had again, and the
derivation, if there is one, is that of an evaluation. -/
structure Replayable (s : State) : Prop where
  digits_le : s.digits ≤ 17
  history : ∀ line ∈ s.history, line.Replays
  derivation : s.derivation ≠ .empty → ∃ digits evaluation,
    Evaluation.ofText s.derivation.entry digits = .ok evaluation ∧
      s.derivation.rpn = evaluation.rpn

theorem replayable_start : start.Replayable where
  digits_le := by decide
  history := by
    intro line hline
    cases hline
  derivation := fun h => absurd rfl h

namespace Replayable

variable {s : State}

/-- An evaluation adds a line that can be had again. -/
theorem solve (h : s.Replayable) {evaluation : Evaluation}
    (hvalue : Evaluation.ofText (Entry.prepare s.entry) s.digits = .ok evaluation) :
    (s.setResult evaluation.display ⟨Entry.prepare s.entry, evaluation.rpn⟩).Replayable where
  digits_le := h.digits_le
  history := by
    intro line hline
    rcases List.mem_cons.mp (List.mem_of_mem_take hline) with rfl | hline
    · exact .of_ofText hvalue h.digits_le
    · exact h.history line hline
  derivation := fun _ => ⟨s.digits, evaluation, hvalue, rfl⟩

theorem changes {s' : State} {step : Step} (h : s.Replayable) (hchanges : Changes s step s')
    (hstep : ∀ result derivation, step ≠ .setResult result derivation) : s'.Replayable := by
  have hdigits := hchanges.digits_le h.digits_le
  cases hchanges with
  | keeps => exact { h with digits_le := hdigits }
  | clears => exact { h with derivation := fun hne => absurd rfl hne }
  | resets => exact replayable_start
  | fails message => exact { h with derivation := fun hne => absurd rfl hne }
  | sets result derivation => exact absurd rfl (hstep result derivation)
  | solves hvalue => exact h.solve hvalue

/-- A derivation is the postfix form of its entry. -/
theorem outcome_ofText_derivation (h : s.Replayable) (hne : s.derivation ≠ .empty) :
    ∃ tokens, (Rpn.ofText s.derivation.entry).outcome = .ok tokens ∧
      s.derivation.rpn = Rpn.text tokens := by
  obtain ⟨digits, evaluation, hvalue, hrpn⟩ := h.derivation hne
  obtain ⟨tokens, value, htokens, -, rfl⟩ := Evaluation.ofText_eq_ok_iff.mp hvalue
  exact ⟨tokens, htokens, hrpn⟩

/-- The entry of a derivation, typed in and evaluated, has this derivation again, even if the number
of places has been changed. -/
theorem derivation_equals (h : s.Replayable) (hne : s.derivation ≠ .empty) :
    (s.run [.type s.derivation.entry, .press .equals]).derivation = s.derivation := by
  obtain ⟨digits, evaluation, hvalue, hrpn⟩ := h.derivation hne
  have hprepared := Entry.prepare_of_ofText hvalue
  obtain ⟨shown, hshown, hsame⟩ := Evaluation.exists_ofText_of_ofText hvalue s.digits
  rw [← hprepared] at hshown
  have hevaluate := evaluate_of_ok (s := (s.type s.derivation.entry).paint) hshown
  rw [run_cons, run_cons, run_nil, State.step, State.step, State.press, hevaluate]
  change Derivation.mk (Entry.prepare s.derivation.entry) shown.rpn = s.derivation
  rw [hprepared, hsame, ← hrpn]

end Replayable

/-- Without results that are put in directly, every line of the history can be had again, and so
can the derivation. -/
theorem replayable_run {steps : List Step}
    (h : ∀ result derivation, .setResult result derivation ∉ steps) :
    (∀ line ∈ (start.run steps).history, line.Replays) ∧
      ((start.run steps).derivation ≠ .empty →
        (∃ tokens, (Rpn.ofText (start.run steps).derivation.entry).outcome = .ok tokens ∧
          (start.run steps).derivation.rpn = Rpn.text tokens) ∧
        ((start.run steps).run
          [.type (start.run steps).derivation.entry, .press .equals]).derivation =
            (start.run steps).derivation) := by
  have hrun : (start.run steps).Replayable := by
    refine run_of_step (fun hstep hs => hs.changes (changes_step _ _) hstep) replayable_start ?_
    rintro step hmem result derivation rfl
    exact h result derivation hmem
  exact ⟨hrun.history,
    fun hne => ⟨hrun.outcome_ofText_derivation hne, hrun.derivation_equals hne⟩⟩

/-- A line that was typed with blanks and capitals, and evaluated for two places, can be had again
from its prepared entry; its derivation is the same for ten places. -/
theorem replayable_run_of_capitals :
    let steps : List Step :=
      [.setDigits 2, .type " SQRT ( 4 ) / 16 ", .press .equals, .frame, .precision 10]
    let s := start.run steps
    (∀ result derivation, .setResult result derivation ∉ steps) ∧
      ⟨"sqrt(4)/16", "0.12"⟩ ∈ s.history ∧ Line.Replays ⟨"sqrt(4)/16", "0.12"⟩ ∧
      s.derivation ≠ .empty ∧
      (∃ tokens, (Rpn.ofText s.derivation.entry).outcome = .ok tokens ∧
        s.derivation.rpn = Rpn.text tokens) ∧
      (s.run [.type s.derivation.entry, .press .equals]).derivation = s.derivation := by
  intro steps s
  have hdirect : ∀ result derivation, .setResult result derivation ∉ steps := by simp [steps]
  have hmem : ⟨"sqrt(4)/16", "0.12"⟩ ∈ s.history := by decide +kernel
  have hne : s.derivation ≠ .empty := by decide +kernel
  obtain ⟨hlines, hderivation⟩ := replayable_run hdirect
  exact ⟨hdirect, hmem, hlines _ hmem, hne, (hderivation hne).1, (hderivation hne).2⟩

end State

end Calculator.Shell
