import Calculator.Proofs.Evaluation.Failure
import Calculator.Proofs.Grammar.Operands

/-!
# What can be counted in the text

A conversion changes the order of the tokens, but not which tokens there are. So what an
evaluation finds wrong with its tokens can be said of the text, whether that makes sense
or not: the values that are left are the numbers that are written there less the
operators, and a token without operands stands somewhere in the text.

    outcome_solve_cases : (Rpn.ofText text).outcome = .ok tokens → …

Operators are counted among the characters of the text (`operatorCount`), where a minus
sign that belongs to a number is none.
-/

namespace Calculator

namespace Lexeme

/-- Whether a lexeme is a number. -/
def isNumber : Lexeme → Bool
  | number _ => true
  | _ => false

/-- Whether a lexeme is an operator. -/
def isOperator : Lexeme → Bool
  | symbol c => (Operator.ofChar? c).isSome
  | _ => false

/-- The number of operators among characters behind `previous`. -/
def operatorCount (previous : Option Char) : List Char → Nat
  | [] => 0
  | c :: cs =>
    (if (Operator.ofChar? c).isSome && !isUnaryMinus c previous then 1 else 0) +
      operatorCount (some c) cs

/-! ### Operators are symbols -/

/-- A class of characters that has no operator in it. -/
theorem ofChar?_eq_none_of_class {p : Char → Bool} {c : Char} (hc : p c = true)
    (hop : ∀ op : Operator, p op.symbol = false) : Operator.ofChar? c = none := by
  rw [Option.eq_none_iff_forall_ne_some]
  intro op h
  exact ne_of_class hc (hop op) (Operator.ofChar?_eq_some_iff.mp h)

theorem countP_isOperator_consNumber (c : Char) (ls : List Lexeme) :
    (consNumber c ls).countP isOperator = ls.countP isOperator := by
  unfold consNumber
  split <;> simp [isOperator]

theorem countP_isOperator_consName (c : Char) (ls : List Lexeme) :
    (consName c ls).countP isOperator = ls.countP isOperator := by
  unfold consName
  split <;> simp [isOperator]

/-- Cutting a text finds the operators among its characters. -/
theorem countP_isOperator_cut (previous : Option Char) (cs : List Char) :
    (cut previous cs).countP isOperator = operatorCount previous cs := by
  induction cs generalizing previous with
  | nil => rfl
  | cons c cs ih =>
    unfold cut operatorCount
    split
    · next hc =>
      -- Digits and points are no operators, and of the minus signs this is one that does not count.
      have hnone : ((Operator.ofChar? c).isSome && !isUnaryMinus c previous) = false := by
        rcases (Bool.or_eq_true _ _).mp hc with hnum | hunary
        · rw [ofChar?_eq_none_of_class hnum (by intro op; cases op <;> rfl)]
          rfl
        · rw [hunary, Bool.not_true, Bool.and_false]
      rw [countP_isOperator_consNumber, ih, hnone]
      exact (Nat.zero_add _).symm
    · next hc =>
      rw [Bool.not_eq_true, Bool.or_eq_false_iff] at hc
      split
      · next hname =>
        rw [countP_isOperator_consName, ih,
          ofChar?_eq_none_of_class hname (by intro op; cases op <;> rfl)]
        exact (Nat.zero_add _).symm
      · rw [List.countP_cons, ih, hc.2, Bool.not_false, Bool.and_true, Nat.add_comm]
        rfl

/-! ### Tokens of lexemes -/

theorem gain_token? (l : Lexeme) :
    (l.token?.map Token.gain).getD 0 =
      (if l.isNumber then 1 else 0) - (if l.isOperator then 1 else 0) := by
  cases l with
  | number cs => rfl
  | name letters called =>
    cases h : Func.ofName? (String.ofList letters) <;>
      simp [token?, h, Token.gain, isNumber, isOperator]
  | symbol c =>
    cases h : Operator.ofChar? c <;> simp [token?, h, Token.gain, isNumber, isOperator]

/-- Tokens make the stack grow by the numbers among their lexemes less the operators. -/
theorem gain_filterMap_token? (ls : List Lexeme) :
    Rpn.gain (ls.filterMap token?) = (ls.countP isNumber : Int) - ls.countP isOperator := by
  induction ls with
  | nil => rfl
  | cons l ls ih =>
    rw [gain_cons, ih, gain_token?, List.countP_cons, List.countP_cons]
    push_cast
    omega

theorem StandsFor.text_eq {l : Lexeme} {t : Token} (h : l.StandsFor t) :
    t.text = String.ofList l.chars := by
  cases h with
  | number cs => rfl
  | function f => exact String.ofList_toList.symm
  | operator op => rfl

theorem IsSound.standsFor {l : Lexeme} {t : Token} (h : l.IsSound) (ht : l.token? = some t) :
    l.StandsFor t := by
  cases h with
  | unsigned =>
    cases ht
    exact .number _
  | signed =>
    cases ht
    exact .number _
  | function f =>
    obtain rfl : Token.function f = t := by simpa [token?] using ht
    exact .function f
  | opening => cases ht
  | closing => cases ht
  | operator op =>
    obtain rfl : Token.operator op = t := by simpa [token?] using ht
    exact .operator op

end Lexeme

namespace Conversion

open Lexeme

variable {text : String} {tokens : Rpn}

/-- There are as many tokens as there are lexemes other than parentheses. -/
theorem length_of_outcome_ofText (h : (Rpn.ofText text).outcome = .ok tokens) :
    tokens.length = ((Lexeme.ofText text).filter fun l => !l.isParen).length := by
  obtain ⟨s, hreads, -, -⟩ := outcome_ofText_iff.mp h
  rw [(perm_of_outcome_ofText h).length_eq]
  exact hreads.standsFor.length_eq.symm

theorem exists_standsFor_of_mem (h : (Rpn.ofText text).outcome = .ok tokens) {t : Token}
    (ht : t ∈ tokens) : ∃ l ∈ Lexeme.ofText text, l.StandsFor t := by
  obtain ⟨hsound, -⟩ := exists_outcome_ofText_iff.mp ⟨tokens, h⟩
  rw [(perm_of_outcome_ofText h).mem_iff] at ht
  obtain ⟨l, hl, htoken⟩ := List.mem_filterMap.mp ht
  exact ⟨l, hl, (hsound l hl).standsFor htoken⟩

theorem gain_of_outcome_ofText (h : (Rpn.ofText text).outcome = .ok tokens) :
    Rpn.gain tokens =
      ((Lexeme.ofText text).countP isNumber : Int) - operatorCount none text.toList := by
  rw [Rpn.gain_eq_of_perm (perm_of_outcome_ofText h), gain_filterMap_token?,
    ← countP_isOperator_cut]
  rfl

end Conversion

open Lexeme

/-! ### The outcome -/

/-- A text that is converted lacks operands for one of its operators or functions, or leaves as many
values as it has more numbers than operators, or has a value. -/
theorem outcome_solve_cases {text : String} {tokens : Rpn}
    (h : (Rpn.ofText text).outcome = .ok tokens) :
    (∃ token index, (solve text).outcome = .error (.eval (.stackUnderflow token index)) ∧
      (∃ l ∈ Lexeme.ofText text, l.isNumber = false ∧ l.StandsFor token) ∧
        index < ((Lexeme.ofText text).filter fun l => !l.isParen).length) ∨
    (∃ count, (solve text).outcome = .error (.eval (.malformedExpression count)) ∧
      (count : Int) = (Lexeme.ofText text).countP isNumber - operatorCount none text.toList ∧
        count ≠ 1) ∨
    ∃ value, (solve text).outcome = .ok value ∧
      ((Lexeme.ofText text).countP isNumber : Int) - operatorCount none text.toList = 1 := by
  rw [← Conversion.gain_of_outcome_ofText h, ← Conversion.length_of_outcome_ofText h,
    outcome_solve_of_ok h]
  rcases Rpn.outcome_evaluate_cases tokens with
    ⟨error, hfirst, herror⟩ | ⟨count, hcount, hne, herror⟩ | ⟨value, hgain, hvalue⟩
  · left
    cases error with
    | stackUnderflow token index =>
      obtain ⟨hindex, hnumber⟩ := Rpn.getElem?_of_outcome_evaluate herror
      obtain ⟨l, hl, hstands⟩ := Conversion.exists_standsFor_of_mem h (List.mem_of_getElem? hindex)
      have hl' : l.isNumber = false := by
        cases hstands with
        | number cs => exact absurd rfl (hnumber _)
        | function f => rfl
        | operator op => rfl
      obtain ⟨hlt, -⟩ := List.getElem?_eq_some_iff.mp hindex
      exact ⟨token, index, by rw [herror]; rfl, ⟨l, hl, hl', hstands⟩, hlt⟩
    | malformedExpression count =>
      obtain ⟨before, token, after, -, -, hfault⟩ := hfirst
      cases hfault
    | invalidNumber number index => exact absurd herror (Rpn.outcome_evaluate_ne_invalidNumber h)
  · exact .inr (.inl ⟨count, by rw [herror]; rfl, hcount, hne⟩)
  · exact .inr (.inr ⟨value, by rw [hvalue]; rfl, hgain⟩)

/-- What an evaluation reports can be counted in the text: the numbers there less the operators are
as many as the values that are left, one if there is a value. A token without operands stands in the
text outside of numbers, and no number is ever found to be none. -/
theorem counts_of_outcome_solve (text : String) :
    ∃ ls, ls.flatMap chars = text.toList ∧ Tidy none ls ∧
      (∀ number index, (solve text).outcome ≠ .error (.eval (.invalidNumber number index))) ∧
      (∀ count, (solve text).outcome = .error (.eval (.malformedExpression count)) →
        (count : Int) = ls.countP isNumber - operatorCount none text.toList ∧ count ≠ 1) ∧
      (∀ value, (solve text).outcome = .ok value →
        (ls.countP isNumber : Int) - operatorCount none text.toList = 1) ∧
      (∀ token index, (solve text).outcome = .error (.eval (.stackUnderflow token index)) →
        (∃ l ∈ ls, l.isNumber = false ∧ l.StandsFor token ∧ token.text = String.ofList l.chars) ∧
          index < (ls.filter fun l => !l.isParen).length) ∧
      ∀ e, (solve text).outcome = .error (.parse e) → (Rpn.ofText text).outcome = .error e := by
  refine ⟨Lexeme.ofText text, flatMap_chars_cut none _, tidy_cut none _, ?_⟩
  cases h : (Rpn.ofText text).outcome with
  | error e =>
    rw [outcome_solve_of_error h]
    simp
  | ok tokens =>
    rcases outcome_solve_cases h with
      ⟨token, index, hout, ⟨l, hl, hnumber, hstands⟩, hlt⟩ | ⟨count, hout, hcount, hne⟩ |
        ⟨value, hout, hone⟩
    · rw [hout]
      refine ⟨by simp, by simp, by simp, ?_, by simp⟩
      intro token' index' heq
      cases heq
      exact ⟨⟨l, hl, hnumber, hstands, hstands.text_eq⟩, hlt⟩
    · rw [hout]
      refine ⟨by simp, ?_, by simp, by simp, by simp⟩
      intro count' heq
      cases heq
      exact ⟨hcount, hne⟩
    · rw [hout]
      exact ⟨by simp, by simp, fun _ _ => hone, by simp, by simp⟩

-- Three numbers and one operator: the minus sign behind the parenthesis is none.
example : (solve "2(-3)4+").outcome = .error (.eval (.malformedExpression 2)) := by rfl

end Calculator
