import Calculator.Proofs.Conversion.Diagnosis
import Calculator.Proofs.Evaluation.Failure
import Calculator.Proofs.Shell.Keys
import Calculator.Proofs.Shell.Preparation

/-!
# What can be wrong with keys

Keys do not spell everything. They insert characters of expressions only, and letters only
in the name of a function with its parenthesis, which deleting does not tear apart. So as
long as nothing is typed, the entry has no character and no function that is unknown:

    isExprChar_of_mem_spell : c ∈ (spell keys).toList → IsExprChar c
    name_of_mem_cut_spell   : name letters called ∈ cut previous (spell keys).toList → …

What is left to be wrong are parentheses, points, and the number of operands.
-/

namespace Calculator.Shell

open Lexeme

namespace Key

theorem spell_cons (key : Key) (keys : List Key) :
    spell (key :: keys) = key.insertion ++ spell keys := by
  simp [spell]

/-! ### Characters -/

theorem isExprChar_of_mem_insertion {key : Key} {c : Char} (h : c ∈ key.insertion.toList) :
    IsExprChar c := by
  cases key with
  | digit value =>
    have hdigits : (digit value).insertion.toList = Nat.toDigits 10 value := by
      show (toString value.val).toList = _
      rw [Nat.toString_eq_ofList_toDigits, String.toList_ofList]
    rw [hdigits] at h
    exact .inl (Nat.isDigit_of_mem_toDigits (by decide) (by decide) h)
  | point =>
    obtain rfl : c = '.' := by simpa [insertion, label] using h
    exact .inr (.inr (by decide))
  | openParen =>
    obtain rfl : c = '(' := by simpa [insertion, label] using h
    exact .inr (.inr (by decide))
  | closeParen =>
    obtain rfl : c = ')' := by simpa [insertion, label] using h
    exact .inr (.inr (by decide))
  | operator op =>
    obtain rfl : c = op.symbol := by simpa [insertion, label] using h
    exact (IsSound.operator op).isExprChar (by simp [chars])
  | function f =>
    rw [insertion, Entry.opening, String.toList_append] at h
    rcases List.mem_append.mp h with h | h
    · exact .inr (.inl (isNameChar_of_mem_name h))
    · obtain rfl : c = '(' := by simpa using h
      exact .inr (.inr (by decide))

theorem isExprChar_of_mem_spell {keys : List Key} {c : Char} (h : c ∈ (spell keys).toList) :
    IsExprChar c := by
  induction keys with
  | nil => simp [spell] at h
  | cons key keys ih =>
    rw [spell_cons, String.toList_append] at h
    rcases List.mem_append.mp h with h | h
    · exact isExprChar_of_mem_insertion h
    · exact ih h

/-- What keys spell is prepared already. -/
theorem prepare_spell (keys : List Key) : Entry.prepare (spell keys) = spell keys := by
  apply Entry.prepare_of_isExprChar
  intro c hc
  exact isExprChar_of_mem_spell hc

/-! ### Names -/

theorem name_of_mem_consNumber {c : Char} {ls : List Lexeme} {letters : List Char} {called : Bool}
    (h : name letters called ∈ consNumber c ls) : name letters called ∈ ls := by
  unfold consNumber at h
  split at h
  · exact List.mem_cons_of_mem _ ((List.mem_cons.mp h).resolve_left (by simp))
  · exact (List.mem_cons.mp h).resolve_left (by simp)

/-- A character that is no letter adds no name. -/
theorem name_of_mem_cut_cons {previous : Option Char} {c : Char} {cs : List Char}
    {letters : List Char} {called : Bool} (hc : isNameChar c = false)
    (h : name letters called ∈ cut previous (c :: cs)) :
    name letters called ∈ cut (some c) cs := by
  unfold cut at h
  split at h
  · exact name_of_mem_consNumber h
  · rw [hc, if_neg Bool.false_ne_true] at h
    exact (List.mem_cons.mp h).resolve_left (by simp)

/-- The name of a function with its parenthesis is a name of its own, whatever follows. -/
theorem cut_opening_append (previous : Option Char) (f : Func) (cs : List Char) :
    cut previous ((Entry.opening f).toList ++ cs) =
      name f.name.toList true :: symbol '(' :: cut (some '(') cs := by
  have hfits : (name f.name.toList true).Fits previous ('(' :: cs).head? := by
    show Fits previous (some '(') (name f.name.toList (some '(' == some '('))
    exact .name (toList_name_ne_nil f) (fun c hc => isNameChar_of_mem_name hc)
      (by simp [isNameChar])
  have hopening : (Entry.opening f).toList ++ cs = f.name.toList ++ '(' :: cs := by
    simp [Entry.opening]
  rw [hopening, ← cut_opening (f.name.toList.getLast?.or previous)]
  exact cut_of_fits hfits

/-- Names that keys spell are those of functions, which are called. -/
theorem name_of_mem_cut_spell {keys : List Key} {previous : Option Char} {letters : List Char}
    {called : Bool} (h : name letters called ∈ cut previous (spell keys).toList) :
    (∃ f : Func, letters = f.name.toList) ∧ called = true := by
  induction keys generalizing previous with
  | nil => simp [spell, cut] at h
  | cons key keys ih =>
    rw [spell_cons, String.toList_append] at h
    rcases key.insertion_cases with ⟨f, rfl⟩ | ⟨c, hc, -, hname, -⟩
    · rw [insertion, cut_opening_append] at h
      rcases List.mem_cons.mp h with h | h
      · cases h
        exact ⟨⟨f, rfl⟩, rfl⟩
      · exact ih ((List.mem_cons.mp h).resolve_left (by simp))
    · rw [hc] at h
      exact ih (name_of_mem_cut_cons hname (by simpa using h))

/-! ### Errors -/

/-- Of the errors of a conversion, keys can only lead to these. -/
theorem parseError_of_spell {keys : List Key} {e : ParseError}
    (h : (Rpn.ofText (spell keys)).outcome = .error e) :
    (∃ position, e = .unbalancedParen position) ∨
      ∃ text position, e = .invalidNumber text position := by
  rcases Conversion.exists_fault_of_outcome_ofText h with ⟨l, hl, before, hfault⟩ | hparen
  · cases hfault with
    | @character c hc =>
      have hmem : c ∈ (spell keys).toList := by
        rw [← flatMap_chars_cut none (spell keys).toList]
        exact List.mem_flatMap.mpr ⟨symbol c, hl, by simp [chars]⟩
      exact absurd (isExprChar_of_mem_spell hmem) hc
    | number => exact .inr ⟨_, _, rfl⟩
    | name hunknown =>
      obtain ⟨⟨f, rfl⟩, rfl⟩ := name_of_mem_cut_spell hl
      rcases hunknown with hne | hcalled
      · exact absurd rfl (hne f)
      · cases hcalled
    | closing => exact .inl ⟨_, rfl⟩
  · exact .inl hparen

end Key

namespace State

/-- As long as nothing is typed, an entry that has no value has a parenthesis without a partner, a
number without a digit or with two points, or an operator or function without operands; or it leaves
some number of values other than one. -/
theorem error_of_run {steps : List Step} (h : ∀ text, .type text ∉ steps) {digits : Nat}
    {error : CalcError}
    (herror : Evaluation.ofText (Entry.prepare (start.run steps).entry) digits = .error error) :
    (∃ position, error = .parse (.unbalancedParen position)) ∨
      (∃ text position, error = .parse (.invalidNumber text position)) ∨
      (∃ token index, error = .eval (.stackUnderflow token index)) ∨
      ∃ count, error = .eval (.malformedExpression count) := by
  have hentry : (start.run steps).entry = Key.spell (steps.foldl Step.keysLeft []) :=
    entry_run_of_entry rfl h
  rw [hentry, Key.prepare_spell] at herror
  rcases Evaluation.ofText_eq_error_iff.mp herror with ⟨e, he, rfl⟩ | ⟨tokens, e, htokens, he, rfl⟩
  · rcases Key.parseError_of_spell he with ⟨position, rfl⟩ | ⟨text, position, rfl⟩
    · exact .inl ⟨position, rfl⟩
    · exact .inr (.inl ⟨text, position, rfl⟩)
  · cases e with
    | stackUnderflow token index => exact .inr (.inr (.inl ⟨token, index, rfl⟩))
    | malformedExpression count => exact .inr (.inr (.inr ⟨count, rfl⟩))
    | invalidNumber text index => exact absurd he (Rpn.outcome_evaluate_ne_invalidNumber htokens)

/-- The root is deleted as a whole. Of what is left, only the parenthesis of the sine is at
fault. -/
theorem error_of_run_unclosed_sine :
    let sine : Step := .press (.insert (.function .sin))
    let steps : List Step :=
      [sine, .press .equals, .press (.insert (.function .sqrt)), .press .delete,
        .press (.insert (.digit 2)), .enter]
    let error : CalcError := .parse (.unbalancedParen 3)
    (∀ text, .type text ∉ steps) ∧
      Evaluation.ofText (Entry.prepare (start.run steps).entry) 4 = .error error ∧
      ((∃ position, error = .parse (.unbalancedParen position)) ∨
        (∃ text position, error = .parse (.invalidNumber text position)) ∨
        (∃ token index, error = .eval (.stackUnderflow token index)) ∨
        ∃ count, error = .eval (.malformedExpression count)) := by
  intro sine steps error
  have huntyped : ∀ text, .type text ∉ steps := by simp [steps, sine]
  have herror : Evaluation.ofText (Entry.prepare (start.run steps).entry) 4 = .error error := by
    have hentry : Entry.prepare (start.run steps).entry = "sin(2" := by decide +kernel
    rw [hentry]
    rfl
  exact ⟨huntyped, herror, error_of_run huntyped herror⟩

end State

end Calculator.Shell
