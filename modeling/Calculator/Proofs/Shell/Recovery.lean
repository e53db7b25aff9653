import Calculator.Proofs.Shell.Transition

/-!
# Failures leave no trace

An entry that has no value is refused as a whole: a message is shown, the derivation is
taken away, and all else stays as it is. The next success writes over both. So it makes no
difference to it how often something else was tried in vain before:

    run_attempts : (∀ text ∈ failing, Entry.Fails text s.digits) →
      Entry.Succeeds solved s.digits →
        s.run (failing.flatMap attempt ++ attempt solved) = s.run (attempt solved)
-/

namespace Calculator

/-! ### Messages -/

theorem append_ne_empty {s t : String} (h : t ≠ "") : s ++ t ≠ "" :=
  fun hempty => h (String.append_eq_empty_iff.mp hempty).2

/-- Every message ends in a text of its own. -/
theorem CalcError.message_ne_empty (error : CalcError) : error.message ≠ "" := by
  cases error with
  | parse error => cases error <;> exact append_ne_empty (by decide)
  | eval error => cases error <;> exact append_ne_empty (by decide)

namespace Shell

namespace Entry

/-- An entry that cannot be evaluated: nothing is left of it once it is prepared, or what is left
has no value. -/
def Fails (entry : String) (digits : Nat) : Prop :=
  prepare entry = "" ∨ ∃ error, Evaluation.ofText (prepare entry) digits = .error error

/-- An entry that can be evaluated. -/
def Succeeds (entry : String) (digits : Nat) : Prop :=
  ∃ evaluation, Evaluation.ofText (prepare entry) digits = .ok evaluation

/-- Nothing has no value. -/
theorem Fails.exists_error {entry : String} {digits : Nat} (h : Fails entry digits) :
    ∃ error, Evaluation.ofText (prepare entry) digits = .error error := by
  rcases h with hempty | herror
  · rw [hempty]
    exact ⟨.eval (.malformedExpression 0), rfl⟩
  · exact herror

end Entry

namespace State

/-! ### One attempt -/

/-- The steps by which a text is typed in and evaluated. -/
def attempt (text : String) : List Step :=
  [.type text, .press .equals]

theorem run_attempt (s : State) (text : String) :
    s.run (attempt text) = (s.type text).paint.evaluate := by
  rw [attempt, run_cons, run_cons, run_nil, State.step, State.step, State.press]

/-- A failure shows its message and takes the derivation away. -/
theorem exists_evaluate_of_fails {s : State} (h : Entry.Fails s.entry s.digits) :
    ∃ message, message ≠ "" ∧ s.evaluate = s.setError message := by
  obtain ⟨error, herror⟩ := h.exists_error
  rw [evaluate_of_error herror]
  refine ⟨_, ?_, rfl⟩
  split
  · decide
  · exact error.message_ne_empty

/-- A success shows its result without regard to the entry before it, the error and the
derivation. -/
theorem run_attempt_of_succeeds {s s' : State} {text : String} (h : Entry.Succeeds text s.digits)
    (hdigits : s'.digits = s.digits) (hhistory : s'.history = s.history) :
    s'.run (attempt text) = s.run (attempt text) := by
  obtain ⟨evaluation, hvalue⟩ := h
  have hvalue' : Evaluation.ofText (Entry.prepare text) s'.digits = .ok evaluation := by
    rw [hdigits, hvalue]
  rw [run_attempt, run_attempt, evaluate_of_ok (s := (s.type text).paint) hvalue,
    evaluate_of_ok (s := (s'.type text).paint) hvalue']
  simp only [setResult, paint, type, hdigits, hhistory]

/-! ### Many attempts -/

/-- However often something failed before, a success ends in the same state. -/
theorem run_attempts {s : State} {failing : List String} {solved : String}
    (hfailing : ∀ text ∈ failing, Entry.Fails text s.digits)
    (hsolved : Entry.Succeeds solved s.digits) :
    s.run (failing.flatMap attempt ++ attempt solved) = s.run (attempt solved) := by
  induction failing generalizing s with
  | nil => rfl
  | cons text failing ih =>
    obtain ⟨message, -, hs⟩ :=
      exists_evaluate_of_fails (s := (s.type text).paint) (hfailing text List.mem_cons_self)
    have hattempt : s.run (attempt text) = (s.type text).paint.setError message := by
      rw [run_attempt, hs]
    rw [List.flatMap_cons, List.append_assoc, run_append, hattempt]
    calc ((s.type text).paint.setError message).run (failing.flatMap attempt ++ attempt solved)
      _ = ((s.type text).paint.setError message).run (attempt solved) :=
        ih (fun t ht => hfailing t (List.mem_cons_of_mem text ht)) hsolved
      _ = s.run (attempt solved) := run_attempt_of_succeeds hsolved rfl rfl

/-- An entry that cannot be evaluated is refused as a whole: nothing changes but that a message is
shown and that the derivation is gone. After the next success nothing is left of that either. -/
theorem equals_of_fails (s : State) :
    (Entry.Fails s.entry s.digits → ∃ message, message ≠ "" ∧
      s.step (.press .equals) =
        { s with error := message, derivation := .empty, focus := true }) ∧
    ∀ failing solved, Entry.Fails failing s.digits → Entry.Succeeds solved s.digits →
      s.run [.type failing, .press .equals, .type solved, .press .equals] =
        s.run [.type solved, .press .equals] := by
  constructor
  · intro h
    obtain ⟨message, hne, hs⟩ := exists_evaluate_of_fails (s := s.paint) h
    refine ⟨message, hne, ?_⟩
    rw [State.step, State.press, hs]
    rfl
  · intro failing solved hfailing hsolved
    have hone : ∀ text ∈ [failing], Entry.Fails text s.digits := by simpa using hfailing
    exact run_attempts hone hsolved

end State

end Shell

end Calculator
