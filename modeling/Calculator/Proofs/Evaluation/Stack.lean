import Calculator.Evaluation
import Calculator.Expr
import Mathlib.Algebra.BigOperators.Group.List.Basic
import Mathlib.Algebra.Ring.Int.Defs

/-!
# What an evaluation leaves on the stack

The value of a tree is what its postfix form leaves behind, above all that was
there before. Whatever is evaluated, the number of values grows by one with every
number and shrinks by one with every operator:

    outcome_run_rpn : e.value? = some value →
      (run stack index e.rpn).outcome = .ok (value :: stack)
    length_of_run   : (run stack index tokens).outcome = .ok stack' →
      (stack'.length : Int) = stack.length + gain tokens
-/

namespace Calculator

/-- By how many values a token makes the stack grow. -/
def Token.gain : Token → Int
  | number _ => 1
  | operator _ => -1
  | function _ => 0

namespace Rpn

/-- By how many values tokens make the stack grow. -/
def gain (tokens : Rpn) : Int :=
  (tokens.map Token.gain).sum

/-- The order of the tokens does not matter for that. -/
theorem gain_eq_of_perm {tokens tokens' : Rpn} (h : tokens.Perm tokens') :
    gain tokens = gain tokens' :=
  (h.map Token.gain).sum_eq

/-! ### Trees -/

/-- The postfix form of a tree pushes its value. -/
theorem outcome_run_rpn {e : Expr} {value : Float} (h : e.value? = some value)
    (stack : List Float) (index : Nat) :
    (run stack index e.rpn).outcome = .ok (value :: stack) := by
  induction e generalizing value stack index with
  | number text =>
    have hread : readNumber? text = some value := h
    simp [Expr.rpn, run, step, hread]
  | call f argument ih =>
    obtain ⟨x, hx, hvalue⟩ := Option.bind_eq_some_iff.mp h
    cases hvalue
    rw [Expr.rpn, outcome_run_append, ih hx]
    simp [run, step, Except.bind]
  | binary op left right ihl ihr =>
    obtain ⟨x, hx, hright⟩ := Option.bind_eq_some_iff.mp h
    obtain ⟨y, hy, hvalue⟩ := Option.bind_eq_some_iff.mp hright
    cases hvalue
    rw [Expr.rpn, outcome_run_append, outcome_run_append, ihl hx]
    simp only [Except.bind]
    rw [ihr hy]
    simp [run, step]

theorem outcome_evaluate_rpn {e : Expr} {value : Float} (h : e.value? = some value) :
    (evaluate e.rpn).outcome = .ok value :=
  outcome_evaluate_of_run (outcome_run_rpn h [] 0)

/-! ### One token -/

/-- `Pushes stack token stack'`: with its operands on `stack`, `token` leaves `stack'`. -/
inductive Pushes : List Float → Token → List Float → Prop
  | number {stack : List Float} {text : String} {value : Float} :
    readNumber? text = some value → Pushes stack (.number text) (value :: stack)
  | function {rest : List Float} {x : Float} (f : Func) :
    Pushes (x :: rest) (.function f) (f.apply x :: rest)
  | operator {rest : List Float} {left right : Float} (op : Operator) :
    Pushes (right :: left :: rest) (.operator op) (op.apply left right :: rest)

theorem outcome_step_iff {stack stack' : List Float} {token : Token} {index : Nat} :
    (step stack token index).outcome = .ok stack' ↔ Pushes stack token stack' := by
  constructor
  · intro h
    unfold step at h
    split at h
    · split at h
      · next hread =>
        cases h
        exact .number hread
      · cases h
    · cases h
      exact .function _
    · cases h
      exact .operator _
    · cases h
  · intro h
    cases h with
    | number hread => simp [step, hread]
    | function => rfl
    | operator => rfl

theorem outcome_run_cons_iff {stack stack' : List Float} {token : Token} {index : Nat}
    {tokens : Rpn} :
    (run stack index (token :: tokens)).outcome = .ok stack' ↔
      ∃ m, Pushes stack token m ∧ (run m (index + 1) tokens).outcome = .ok stack' := by
  have hstep : ∀ m, Pushes stack token m ↔ (step stack token index).outcome = .ok m :=
    fun _ => outcome_step_iff.symm
  rw [run, Logged.outcome_bind]
  simp only [hstep]
  cases (step stack token index).outcome <;> simp [Except.bind]

/-! ### Counting values -/

theorem Pushes.length {stack stack' : List Float} {token : Token} (h : Pushes stack token stack') :
    (stack'.length : Int) = stack.length + token.gain := by
  cases h with
  | number => simp [Token.gain]
  | function => simp [Token.gain]
  | operator =>
    simp only [Token.gain, List.length_cons]
    omega

theorem length_of_run {stack stack' : List Float} {index : Nat} {tokens : Rpn}
    (h : (run stack index tokens).outcome = .ok stack') :
    (stack'.length : Int) = stack.length + gain tokens := by
  induction tokens generalizing stack index with
  | nil =>
    cases h
    simp [gain]
  | cons token tokens ih =>
    obtain ⟨m, hpushes, hrest⟩ := outcome_run_cons_iff.mp h
    have hm := hpushes.length
    have hall := ih hrest
    simp only [gain, List.map_cons, List.sum_cons] at hall ⊢
    omega

theorem outcome_evaluate_iff {tokens : Rpn} {value : Float} :
    (evaluate tokens).outcome = .ok value ↔ (run [] 0 tokens).outcome = .ok [value] := by
  refine ⟨?_, outcome_evaluate_of_run⟩
  intro h
  rw [evaluate, Logged.outcome_bind] at h
  cases hrun : (run [] 0 tokens).outcome with
  | error e => simp [hrun, Except.bind] at h
  | ok stack =>
    rw [hrun, Except.bind] at h
    split at h
    · cases h
      rfl
    · cases h

/-- An evaluation succeeds only if there is one number more than there are operators. -/
theorem gain_of_outcome_evaluate {tokens : Rpn} {value : Float}
    (h : (evaluate tokens).outcome = .ok value) : gain tokens = 1 := by
  have hlength := length_of_run (outcome_evaluate_iff.mp h)
  simp only [List.length_cons, List.length_nil] at hlength
  omega

end Rpn

/-- A text that is not converted has no value. -/
theorem outcome_solve_of_error {text : String} {e : ParseError}
    (h : (Rpn.ofText text).outcome = .error e) : (solve text).outcome = .error (.parse e) := by
  rw [solve, Logged.outcome_bind, Logged.outcome_mapError, h]
  rfl

/-- What comes of a text is what comes of its tokens. -/
theorem outcome_solve_of_ok {text : String} {tokens : Rpn}
    (h : (Rpn.ofText text).outcome = .ok tokens) :
    (solve text).outcome = (Rpn.evaluate tokens).outcome.mapError .eval := by
  rw [solve, Logged.outcome_bind, Logged.outcome_mapError, h]
  cases hvalue : (Rpn.evaluate tokens).outcome <;>
    simp [Except.mapError, Except.bind, Except.map, hvalue]

/-- A text has a value if it is converted to tokens that have one. -/
theorem outcome_solve_iff {text : String} {value : Float} :
    (solve text).outcome = .ok value ↔
      ∃ tokens, (Rpn.ofText text).outcome = .ok tokens ∧
        (Rpn.evaluate tokens).outcome = .ok value := by
  cases h : (Rpn.ofText text).outcome with
  | error e => simp [outcome_solve_of_error h]
  | ok tokens =>
    rw [outcome_solve_of_ok h]
    cases hvalue : (Rpn.evaluate tokens).outcome <;> simp [Except.mapError, hvalue]

/-- What is shown of a text is shown of its tokens and of their value. -/
theorem Evaluation.ofText_eq_ok_iff {text : String} {digits : Nat} {e : Evaluation} :
    Evaluation.ofText text digits = .ok e ↔
      ∃ tokens value, (Rpn.ofText text).outcome = .ok tokens ∧
        (Rpn.evaluate tokens).outcome = .ok value ∧
          e = ⟨value, Decimal.display value digits, Rpn.text tokens⟩ := by
  rw [Evaluation.ofText]
  cases (Rpn.ofText text).outcome with
  | error e => simp [Except.mapError, bind, Except.bind]
  | ok tokens =>
    cases hvalue : (Rpn.evaluate tokens).outcome <;>
      simp [Except.mapError, bind, pure, Except.bind, Except.pure, hvalue, eq_comm]

/-- A text has no value if it is not converted, or to tokens that have none. -/
theorem Evaluation.ofText_eq_error_iff {text : String} {digits : Nat} {error : CalcError} :
    Evaluation.ofText text digits = .error error ↔
      (∃ e, (Rpn.ofText text).outcome = .error e ∧ error = .parse e) ∨
        ∃ tokens e, (Rpn.ofText text).outcome = .ok tokens ∧
          (Rpn.evaluate tokens).outcome = .error e ∧ error = .eval e := by
  rw [Evaluation.ofText]
  cases (Rpn.ofText text).outcome with
  | error e => simp [Except.mapError, bind, Except.bind, eq_comm]
  | ok tokens =>
    cases hvalue : (Rpn.evaluate tokens).outcome <;>
      simp [Except.mapError, bind, pure, Except.bind, Except.pure, hvalue, eq_comm]

/-- The number of places makes a difference to the display only. -/
theorem Evaluation.exists_ofText_of_ofText {text : String} {digits : Nat} {e : Evaluation}
    (h : Evaluation.ofText text digits = .ok e) (digits' : Nat) :
    ∃ e', Evaluation.ofText text digits' = .ok e' ∧ e'.rpn = e.rpn := by
  obtain ⟨tokens, value, htokens, hvalue, rfl⟩ := Evaluation.ofText_eq_ok_iff.mp h
  exact ⟨_, Evaluation.ofText_eq_ok_iff.mpr ⟨tokens, value, htokens, hvalue, rfl⟩, rfl⟩

end Calculator
