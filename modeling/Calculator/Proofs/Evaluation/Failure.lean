import Calculator.Proofs.Conversion.Acceptance
import Calculator.Proofs.Conversion.Conservation
import Calculator.Proofs.Evaluation.Stack
import Mathlib.Data.List.Forall2
import Mathlib.Data.List.Induction

/-!
# Which evaluations fail

Whether tokens can be evaluated, and what is wrong with them if not, shows in counts of
tokens. As long as all is well there are as many values on the stack as there are more
numbers than operators so far (`length_of_run`); so the first token that finds too few of
them, or whose text is no numeral, is the one at fault (`FirstFault`). If there is none, the
count of all tokens decides:

    outcome_evaluate_of_firstFault  : FirstFault tokens error → … = .error error
    exists_outcome_evaluate_of_gain : Faultless tokens → gain tokens = 1 → ∃ value, …

No value enters into this. So numerals may be put in the place of numerals (`Alike`) without
a difference to anything but the result.
-/

namespace Calculator

/-- `token.Fault height index error`: in front of `token`, which is the one at `index`, there are
`height` values, and this is what is wrong with it. -/
inductive Token.Fault (height : Int) (index : Nat) : Token → EvalError → Prop
  | number {text : String} :
    readNumber? text = none → Fault height index (.number text) (.invalidNumber text index)
  | function {f : Func} :
    height = 0 → Fault height index (.function f) (.stackUnderflow (.function f) index)
  | operator {op : Operator} :
    height ≤ 1 → Fault height index (.operator op) (.stackUnderflow (.operator op) index)

/-- The text and the index of the token of which an error tells. -/
def EvalError.subject? : EvalError → Option (String × Nat)
  | stackUnderflow token index => some (token.text, index)
  | malformedExpression _ => none
  | invalidNumber text index => some (text, index)

theorem Token.Fault.subject?_eq {height : Int} {index : Nat} {token : Token} {error : EvalError}
    (h : token.Fault height index error) : error.subject? = some (token.text, index) := by
  cases h <;> rfl

namespace Rpn

/-- No token is at fault. -/
def Faultless (tokens : Rpn) : Prop :=
  ∀ before token after error, tokens = before ++ token :: after →
    ¬token.Fault (gain before) before.length error

/-- Of the tokens, the first at fault is the one of which `error` tells what is wrong. -/
def FirstFault (tokens : Rpn) (error : EvalError) : Prop :=
  ∃ before token after, tokens = before ++ token :: after ∧ Faultless before ∧
    token.Fault (gain before) before.length error

/-! ### One token -/

/-- A token at fault ends the evaluation. -/
theorem outcome_step_of_fault {stack : List Float} {token : Token} {index : Nat}
    {error : EvalError} (h : token.Fault stack.length index error) :
    (step stack token index).outcome = .error error := by
  cases h with
  | number hread => simp only [step, hread, Logged.outcome_fail]
  | function hnil =>
    obtain rfl : stack = [] := by simpa using hnil
    rfl
  | operator hle =>
    rcases stack with _ | ⟨x, _ | ⟨y, rest⟩⟩
    · rfl
    · rfl
    · simp only [List.length_cons] at hle
      omega

/-- Any other token is taken. -/
theorem exists_pushes_of_not_fault {stack : List Float} {token : Token} {index : Nat}
    (h : ∀ error, ¬token.Fault stack.length index error) : ∃ stack', Pushes stack token stack' := by
  cases token with
  | number text =>
    cases hread : readNumber? text with
    | none => exact absurd (.number hread) (h _)
    | some value => exact ⟨_, .number hread⟩
  | function f =>
    rcases stack with _ | ⟨x, rest⟩
    · exact absurd (.function rfl) (h _)
    · exact ⟨_, .function f⟩
  | operator op =>
    rcases stack with _ | ⟨x, _ | ⟨y, rest⟩⟩
    · exact absurd (.operator (by simp)) (h _)
    · exact absurd (.operator (by simp)) (h _)
    · exact ⟨_, .operator op⟩

/-! ### The first token at fault -/

theorem faultless_nil : Faultless [] := by
  intro before token after error h
  simp at h

/-- A last token is looked at after all others. -/
theorem faultless_append_singleton_iff {tokens : Rpn} {token : Token} :
    Faultless (tokens ++ [token]) ↔
      Faultless tokens ∧ ∀ error, ¬token.Fault (gain tokens) tokens.length error := by
  constructor
  · intro h
    refine ⟨?_, fun error => h tokens token [] error rfl⟩
    intro before t after error htokens
    apply h before t (after ++ [token]) error
    rw [htokens]
    simp
  · intro h before t after error htokens
    rcases List.eq_nil_or_concat' after with rfl | ⟨after, last, rfl⟩
    · obtain ⟨rfl, hlast⟩ := List.append_inj' htokens rfl
      cases hlast
      exact h.2 error
    · have hfront : tokens ++ [token] = (before ++ t :: after) ++ [last] := by simpa using htokens
      exact h.1 before t after error (List.append_inj' hfront rfl).1

/-- An error that tells of the first token at fault has the text of that token and its index. -/
theorem FirstFault.exists_subject?_eq {tokens : Rpn} {error : EvalError}
    (h : FirstFault tokens error) :
    ∃ token index, tokens[index]? = some token ∧ error.subject? = some (token.text, index) := by
  obtain ⟨before, token, after, rfl, -, hfault⟩ := h
  exact ⟨token, before.length, by simp, hfault.subject?_eq⟩

theorem FirstFault.append {tokens : Rpn} {error : EvalError} (h : FirstFault tokens error)
    (more : Rpn) : FirstFault (tokens ++ more) error := by
  obtain ⟨before, token, after, rfl, hbefore, hfault⟩ := h
  exact ⟨before, token, after ++ more, by simp, hbefore, hfault⟩

/-- If some token is at fault, there is a first one. -/
theorem faultless_or_firstFault (tokens : Rpn) : Faultless tokens ∨ ∃ e, FirstFault tokens e := by
  induction tokens using List.reverseRecOn with
  | nil => exact .inl faultless_nil
  | append_singleton tokens token ih =>
    rcases ih with hfaultless | ⟨error, hfirst⟩
    · by_cases hlast : ∃ error, token.Fault (gain tokens) tokens.length error
      · obtain ⟨error, hfault⟩ := hlast
        exact .inr ⟨error, tokens, token, [], rfl, hfaultless, hfault⟩
      · exact .inl (faultless_append_singleton_iff.mpr ⟨hfaultless, not_exists.mp hlast⟩)
    · exact .inr ⟨error, hfirst.append [token]⟩

/-! ### What comes of an evaluation -/

/-- As long as all is well, the stack is as high as the count of the tokens says. -/
theorem length_of_run_nil {tokens : Rpn} {stack : List Float}
    (h : (run [] 0 tokens).outcome = .ok stack) : (stack.length : Int) = gain tokens := by
  simpa using length_of_run h

/-- Tokens of which none is at fault are all taken. -/
theorem exists_run_of_faultless {tokens : Rpn} (h : Faultless tokens) :
    ∃ stack, (run [] 0 tokens).outcome = .ok stack := by
  induction tokens using List.reverseRecOn with
  | nil => exact ⟨[], rfl⟩
  | append_singleton tokens token ih =>
    obtain ⟨hfront, hlast⟩ := faultless_append_singleton_iff.mp h
    obtain ⟨stack, hrun⟩ := ih hfront
    rw [← length_of_run_nil hrun] at hlast
    obtain ⟨stack', hpushes⟩ := exists_pushes_of_not_fault hlast
    refine ⟨stack', ?_⟩
    rw [outcome_run_append, hrun]
    exact outcome_run_cons_iff.mpr ⟨stack', hpushes, rfl⟩

theorem outcome_evaluate_of_firstFault {tokens : Rpn} {error : EvalError}
    (h : FirstFault tokens error) : (evaluate tokens).outcome = .error error := by
  obtain ⟨before, token, after, rfl, hbefore, hfault⟩ := h
  obtain ⟨stack, hrun⟩ := exists_run_of_faultless hbefore
  rw [← length_of_run_nil hrun] at hfault
  have hstep := outcome_step_of_fault hfault
  rw [evaluate, Logged.outcome_bind, outcome_run_append, hrun]
  simp [run, Except.bind, hstep]

theorem exists_outcome_evaluate_of_gain {tokens : Rpn} (h : Faultless tokens)
    (hgain : gain tokens = 1) : ∃ value, (evaluate tokens).outcome = .ok value := by
  obtain ⟨stack, hrun⟩ := exists_run_of_faultless h
  have hlength := length_of_run_nil hrun
  rw [hgain] at hlength
  obtain ⟨value, rfl⟩ := List.length_eq_one_iff.mp (by exact_mod_cast hlength)
  exact ⟨value, outcome_evaluate_of_run hrun⟩

/-- Values that are left over, or the lack of any, are counted. -/
theorem exists_outcome_evaluate_of_gain_ne {tokens : Rpn} (h : Faultless tokens)
    (hgain : gain tokens ≠ 1) : ∃ count : Nat, (count : Int) = gain tokens ∧
      (evaluate tokens).outcome = .error (.malformedExpression count) := by
  obtain ⟨stack, hrun⟩ := exists_run_of_faultless h
  have hlength := length_of_run_nil hrun
  have hne : stack.length ≠ 1 := by
    intro hone
    rw [hone] at hlength
    exact hgain hlength.symm
  exact ⟨stack.length, hlength, outcome_evaluate_of_length_ne hrun hne⟩

end Rpn

/-! ### Numerals in the place of numerals -/

/-- Two tokens that are the same, or both are numerals. -/
inductive Token.Alike : Token → Token → Prop
  | refl (token : Token) : Alike token token
  | numeral {text text' : String} :
    (readNumber? text).isSome = true → (readNumber? text').isSome = true →
      Alike (.number text) (.number text')

namespace Token.Alike

variable {token token' : Token}

theorem symm (h : token.Alike token') : token'.Alike token := by
  cases h with
  | refl => exact .refl _
  | numeral htext htext' => exact .numeral htext' htext

theorem gain_eq (h : token.Alike token') : token.gain = token'.gain := by
  cases h with
  | refl => rfl
  | numeral => rfl

/-- A numeral is never at fault. -/
theorem fault {height : Int} {index : Nat} {error : EvalError} (h : token.Alike token')
    (hfault : token.Fault height index error) : token'.Fault height index error := by
  cases h with
  | refl => exact hfault
  | numeral htext =>
    cases hfault with
    | number hread =>
      rw [hread] at htext
      cases htext

end Token.Alike

namespace Rpn

/-- The same tokens but for the texts of numerals. -/
def Alike (tokens tokens' : Rpn) : Prop :=
  List.Forall₂ Token.Alike tokens tokens'

namespace Alike

variable {tokens tokens' : Rpn}

theorem symm (h : Alike tokens tokens') : Alike tokens' tokens := by
  induction h with
  | nil => exact .nil
  | cons htoken _ ih => exact .cons htoken.symm ih

theorem gain_eq (h : Alike tokens tokens') : gain tokens = gain tokens' := by
  induction h with
  | nil => rfl
  | cons htoken _ ih =>
    simp only [gain, List.map_cons, List.sum_cons] at ih ⊢
    rw [htoken.gain_eq, ih]

theorem exists_split {before after : Rpn} {token : Token}
    (h : Alike (before ++ token :: after) tokens') :
    ∃ before' token' after', tokens' = before' ++ token' :: after' ∧ Alike before before' ∧
      token.Alike token' := by
  induction before generalizing tokens' with
  | nil =>
    cases h with
    | cons htoken hafter => exact ⟨[], _, _, rfl, .nil, htoken⟩
  | cons first before ih =>
    cases h with
    | cons hfirst hrest =>
      obtain ⟨before', token', after', rfl, hbefore, htoken⟩ := ih hrest
      exact ⟨_ :: before', token', after', rfl, .cons hfirst hbefore, htoken⟩

theorem faultless (h : Alike tokens tokens') (hfaultless : Faultless tokens) :
    Faultless tokens' := by
  rintro before' token' after' error rfl hfault
  obtain ⟨before, token, after, htokens, hbefore, htoken⟩ := h.symm.exists_split
  apply hfaultless before token after error htokens
  rw [← hbefore.gain_eq, ← hbefore.length_eq]
  exact htoken.fault hfault

theorem firstFault {error : EvalError} (h : Alike tokens tokens')
    (hfirst : FirstFault tokens error) : FirstFault tokens' error := by
  obtain ⟨before, token, after, rfl, hfaultless, hfault⟩ := hfirst
  obtain ⟨before', token', after', htokens', hbefore, htoken⟩ := h.exists_split
  rw [hbefore.gain_eq, hbefore.length_eq] at hfault
  exact ⟨before', token', after', htokens', hbefore.faultless hfaultless, htoken.fault hfault⟩

/-- Whatever the numerals are, the evaluation succeeds or fails in the same way. -/
theorem outcome_evaluate (h : Alike tokens tokens') :
    (evaluate tokens').outcome.map (fun _ => ()) = (evaluate tokens).outcome.map fun _ => () := by
  rcases faultless_or_firstFault tokens with hfaultless | ⟨error, hfirst⟩
  · have hfaultless' := h.faultless hfaultless
    by_cases hgain : gain tokens = 1
    · obtain ⟨value, hvalue⟩ := exists_outcome_evaluate_of_gain hfaultless hgain
      rw [h.gain_eq] at hgain
      obtain ⟨value', hvalue'⟩ := exists_outcome_evaluate_of_gain hfaultless' hgain
      rw [hvalue, hvalue']
      rfl
    · obtain ⟨count, hcount, herror⟩ := exists_outcome_evaluate_of_gain_ne hfaultless hgain
      rw [h.gain_eq] at hgain hcount
      obtain ⟨count', hcount', herror'⟩ := exists_outcome_evaluate_of_gain_ne hfaultless' hgain
      have hsame : count' = count := by exact_mod_cast hcount'.trans hcount.symm
      rw [herror, herror', hsame]
  · rw [outcome_evaluate_of_firstFault hfirst, outcome_evaluate_of_firstFault (h.firstFault hfirst)]

end Alike

/-! ### The classification -/

/-- The first token at fault makes the evaluation fail, with its text and its index in the error. If
no token is at fault, there is a value just if there is one number more than there are operators,
and otherwise the difference is reported. Other numerals in the place of numerals change nothing
about that. -/
theorem outcome_evaluate_of_counts (tokens : Rpn) :
    (∀ error, FirstFault tokens error → (evaluate tokens).outcome = .error error ∧
      ∃ token index, tokens[index]? = some token ∧ error.subject? = some (token.text, index)) ∧
      ((∀ error, ¬FirstFault tokens error) →
        (gain tokens = 1 → ∃ value, (evaluate tokens).outcome = .ok value) ∧
        (gain tokens ≠ 1 → ∃ count : Nat, (count : Int) = gain tokens ∧
          (evaluate tokens).outcome = .error (.malformedExpression count))) ∧
      ∀ tokens', Alike tokens tokens' →
        (evaluate tokens').outcome.map (fun _ => ()) =
          (evaluate tokens).outcome.map fun _ => () := by
  refine ⟨fun error hfirst => ?_, ?_, fun _ => Alike.outcome_evaluate⟩
  · exact ⟨outcome_evaluate_of_firstFault hfirst, hfirst.exists_subject?_eq⟩
  · intro hnone
    have hfaultless : Faultless tokens :=
      (faultless_or_firstFault tokens).resolve_right (not_exists.mpr hnone)
    exact ⟨exists_outcome_evaluate_of_gain hfaultless,
      exists_outcome_evaluate_of_gain_ne hfaultless⟩

-- Neither the quotient by zero nor the root of a negative number hides that a summand is missing.
example : (evaluate [.number "-1", .number "0", .operator .divide, .function .sqrt,
    .operator .plus]).outcome = .error (.stackUnderflow (.operator .plus) 4) := by rfl

/-! ### Tokens of a text -/

/-- An evaluation ends in one of three ways. -/
theorem outcome_evaluate_cases (tokens : Rpn) :
    (∃ error, FirstFault tokens error ∧ (evaluate tokens).outcome = .error error) ∨
      (∃ count : Nat, (count : Int) = gain tokens ∧ count ≠ 1 ∧
        (evaluate tokens).outcome = .error (.malformedExpression count)) ∨
      ∃ value, gain tokens = 1 ∧ (evaluate tokens).outcome = .ok value := by
  rcases faultless_or_firstFault tokens with hfaultless | ⟨error, hfirst⟩
  · by_cases hgain : gain tokens = 1
    · obtain ⟨value, hvalue⟩ := exists_outcome_evaluate_of_gain hfaultless hgain
      exact .inr (.inr ⟨value, hgain, hvalue⟩)
    · obtain ⟨count, hcount, herror⟩ := exists_outcome_evaluate_of_gain_ne hfaultless hgain
      exact .inr (.inl ⟨count, hcount, by omega, herror⟩)
  · exact .inl ⟨error, hfirst, outcome_evaluate_of_firstFault hfirst⟩

/-- What an evaluation reports, unless it counts values, is the first fault. -/
theorem firstFault_of_outcome_evaluate {tokens : Rpn} {error : EvalError}
    (h : (evaluate tokens).outcome = .error error)
    (hne : ∀ count, error ≠ .malformedExpression count) : FirstFault tokens error := by
  rcases outcome_evaluate_cases tokens with
    ⟨error', hfirst, herror⟩ | ⟨count, -, -, herror⟩ | ⟨value, -, hvalue⟩
  · rw [herror] at h
    cases h
    exact hfirst
  · rw [herror] at h
    cases h
    exact absurd rfl (hne count)
  · rw [hvalue] at h
    cases h

/-- What is said to be no numeral is one of the tokens, and is none. -/
theorem mem_of_outcome_evaluate {tokens : Rpn} {text : String} {index : Nat}
    (h : (evaluate tokens).outcome = .error (.invalidNumber text index)) :
    .number text ∈ tokens ∧ readNumber? text = none := by
  obtain ⟨before, token, after, rfl, -, hfault⟩ := firstFault_of_outcome_evaluate h (by simp)
  cases hfault with
  | number hread => exact ⟨by simp, hread⟩

/-- What is said to lack operands is the token at the index, and it is no number. -/
theorem getElem?_of_outcome_evaluate {tokens : Rpn} {token : Token} {index : Nat}
    (h : (evaluate tokens).outcome = .error (.stackUnderflow token index)) :
    tokens[index]? = some token ∧ ∀ text, token ≠ .number text := by
  obtain ⟨before, token, after, rfl, -, hfault⟩ := firstFault_of_outcome_evaluate h (by simp)
  cases hfault with
  | function => exact ⟨by simp, by simp⟩
  | operator => exact ⟨by simp, by simp⟩

/-- The numbers that a conversion writes out are numerals. -/
theorem isSome_readNumber?_of_outcome_ofText {text number : String} {tokens : Rpn}
    (h : (ofText text).outcome = .ok tokens) (hmem : .number number ∈ tokens) :
    (readNumber? number).isSome = true := by
  obtain ⟨hsound, -⟩ := Conversion.exists_outcome_ofText_iff.mp ⟨tokens, h⟩
  rw [(Conversion.perm_of_outcome_ofText h).mem_iff] at hmem
  obtain ⟨l, hl, htoken⟩ := List.mem_filterMap.mp hmem
  rw [readNumber?, Option.isSome_map]
  cases l with
  | number cs =>
    cases htoken
    cases hsound _ hl with
    | unsigned hcs => exact (Numeral.isSome_ofText?_iff hcs.1).mpr hcs
    | signed hcs => exact (Numeral.isSome_ofText?_minus_iff hcs.1).mpr hcs
  | name letters called => simp [Lexeme.token?] at htoken
  | symbol c => simp [Lexeme.token?] at htoken

/-- So an evaluation never stumbles over a number of a text. -/
theorem outcome_evaluate_ne_invalidNumber {text number : String} {tokens : Rpn} {index : Nat}
    (h : (ofText text).outcome = .ok tokens) :
    (evaluate tokens).outcome ≠ .error (.invalidNumber number index) := by
  intro herror
  obtain ⟨hmem, hread⟩ := mem_of_outcome_evaluate herror
  have hsome := isSome_readNumber?_of_outcome_ofText h hmem
  rw [hread] at hsome
  cases hsome

end Rpn

end Calculator
