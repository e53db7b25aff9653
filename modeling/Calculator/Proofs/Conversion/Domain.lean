import Calculator.Proofs.Conversion.Acceptance
import Calculator.Proofs.Lexeme.Runs

/-!
# Which texts are converted

A conversion succeeds just for the texts that satisfy five conditions on their
characters (`Convertible`): on the alphabet, on the runs of letters, on the runs of
digits and points, on minus signs where an expression begins, and on parentheses.
Operators are under no condition but that of minus signs.

    exists_outcome_ofText_iff_convertible :
      (∃ tokens, (Rpn.ofText text).outcome = .ok tokens) ↔ Convertible text.toList
-/

namespace Calculator

open Lexeme

/-- The conditions under which a text is converted. -/
structure Convertible (cs : List Char) : Prop where
  /-- There are digits, points, small letters, parentheses and operators only. -/
  alphabet : ∀ c ∈ cs,
    c.isDigit = true ∨ c.isLower = true ∨ c ∈ ['.', '(', ')', '+', '-', '*', '/', '^']
  /-- Every maximal run of letters is the name of a function, and is directly followed by `(`. -/
  names : ∀ before run after, cs = before ++ run ++ after →
    IsMaximalRun isNameChar before run after →
      (∃ f : Func, run = f.name.toList) ∧ after.head? = some '('
  /-- Every maximal run of digits and points contains a digit, and at most one point. -/
  numbers : ∀ before run after, cs = before ++ run ++ after →
    IsMaximalRun isNumberChar before run after →
      (∃ c ∈ run, c.isDigit = true) ∧ run.count '.' ≤ 1
  /-- A minus sign at the start or directly behind `(` is directly followed by a digit or point. -/
  signs : ∀ before after, cs = before ++ '-' :: after →
    before = [] ∨ before.getLast? = some '(' → ∃ c, after.head? = some c ∧ isNumberChar c = true
  /-- No parenthesis closes before it is opened, and all that are opened are closed. -/
  balanced : Balances 0 cs

/-! ### Sound lexemes satisfy the conditions -/

namespace Lexeme

theorem IsSound.of_name {letters : List Char} {called : Bool} (h : (name letters called).IsSound) :
    (∃ f : Func, letters = f.name.toList) ∧ called = true := by
  cases h with
  | function f => exact ⟨⟨f, rfl⟩, rfl⟩

end Lexeme

theorem Convertible.of_isSound {cs : List Char} (hsound : ∀ l ∈ cut none cs, l.IsSound)
    (hbalanced : Balances 0 cs) : Convertible cs where
  alphabet := isExprChar_of_isSound hsound
  names := by
    rintro before run after rfl hrun
    obtain ⟨hname, hcalled⟩ := (hsound _ (name_mem_cut hrun)).of_name
    exact ⟨hname, beq_iff_eq.mp hcalled⟩
  numbers := by
    rintro before run after rfl hrun
    have hunsigned : IsUnsigned run := by
      rcases number_mem_cut hrun with hmem | hmem
      · exact (hsound _ hmem).of_unsigned hrun.all
      · exact (hsound _ hmem).of_signed
    exact hunsigned.2
  signs := by
    rintro before after rfl hbefore
    have hminus : isUnaryMinus '-' before.getLast? = true := by
      rcases hbefore with rfl | hparen
      · rfl
      · rw [hparen]
        rfl
    -- Otherwise the minus sign would be a number without digits.
    have hnumber : ¬∀ c ∈ after.head?, isNumberChar c = false := by
      intro hafter
      have hunsigned : IsUnsigned [] := (hsound _ (minus_mem_cut hminus hafter)).of_signed
      exact hunsigned.ne_nil rfl
    cases hnext : after.head? with
    | none => exact absurd (by simp [hnext]) hnumber
    | some c => exact ⟨c, rfl, by simpa [hnext] using hnumber⟩
  balanced := hbalanced

/-! ### Texts under the conditions have sound lexemes -/

/-- Under the conditions, a lexeme in its place is sound. -/
theorem Convertible.isSound {before after : List Char} {l : Lexeme}
    (h : Convertible (before ++ l.chars ++ after))
    (hfits : l.Fits (before.getLast?.or none) after.head?)
    (hboundary : ∀ c ∈ before.getLast?, ∀ d ∈ l.chars.head?,
      (isNumberChar c = false ∨ isNumberChar d = false) ∧
        (isNameChar c = false ∨ isNameChar d = false)) : l.IsSound := by
  cases hfits with
  | @unsigned run hne hall hnext =>
    obtain ⟨c, run, rfl⟩ := List.exists_cons_of_ne_nil hne
    have hc : isNumberChar c = true := hall c List.mem_cons_self
    have hleft : ∀ d ∈ before.getLast?, isNumberChar d = false :=
      fun d hd => (hboundary d hd c rfl).1.resolve_right (by simp [hc])
    have hrun : IsMaximalRun isNumberChar before (c :: run) after := ⟨hne, hall, hleft, hnext⟩
    exact .unsigned ⟨hall, h.numbers before (c :: run) after rfl hrun⟩
  | @signed run hsign hall hnext =>
    rw [Option.or_none] at hsign
    obtain ⟨c, hc, hnum⟩ : ∃ c, (run ++ after).head? = some c ∧ isNumberChar c = true := by
      apply h.signs before (run ++ after) (by simp [chars])
      rcases (isUnaryMinus_eq_true_iff.mp hsign).2 with hnone | hparen
      · exact .inl (List.getLast?_eq_none_iff.mp hnone)
      · exact .inr hparen
    have hne : run ≠ [] := by
      rintro rfl
      rw [hnext c hc] at hnum
      cases hnum
    have hrun : IsMaximalRun isNumberChar (before ++ ['-']) run after :=
      ⟨hne, hall, by simp [isNumberChar], hnext⟩
    exact .signed ⟨hall, h.numbers _ run after (by simp [chars]) hrun⟩
  | @name run hne hall hnext =>
    obtain ⟨c, run, rfl⟩ := List.exists_cons_of_ne_nil hne
    have hc : isNameChar c = true := hall c List.mem_cons_self
    have hleft : ∀ d ∈ before.getLast?, isNameChar d = false :=
      fun d hd => (hboundary d hd c rfl).2.resolve_right (by simp [hc])
    have hrun : IsMaximalRun isNameChar before (c :: run) after := ⟨hne, hall, hleft, hnext⟩
    obtain ⟨⟨f, hf⟩, hparen⟩ := h.names before (c :: run) after rfl hrun
    rw [hparen, hf]
    exact .function f
  | @symbol c hnum hunary hname =>
    have hfits : (symbol c).Fits _ after.head? := .symbol hnum hunary hname
    rcases hfits.symbol_cases (h.alphabet c (by simp [chars])) with rfl | rfl | ⟨op, rfl⟩
    · exact .opening
    · exact .closing
    · exact .operator op

namespace Conversion

/-- A text is converted just if its characters satisfy the conditions. -/
theorem exists_outcome_ofText_iff_convertible {text : String} :
    (∃ tokens, (Rpn.ofText text).outcome = .ok tokens) ↔ Convertible text.toList := by
  rw [exists_outcome_ofText_iff]
  constructor
  · intro h
    obtain ⟨hsound, hbalanced⟩ := h
    exact .of_isSound hsound hbalanced
  · intro h
    refine ⟨?_, h.balanced⟩
    intro l hl
    obtain ⟨ls, ls', hls⟩ := List.append_of_mem hl
    have htidy : Tidy none (ls ++ l :: ls') := hls ▸ tidy_cut none text.toList
    have hspell : text.toList = ls.flatMap chars ++ l.chars ++ ls'.flatMap chars := by
      rw [← flatMap_chars_cut none text.toList, ← Lexeme.ofText, hls]
      simp
    rw [hspell] at h
    exact h.isSound htidy.right.1 fun c hc d hd => htidy.boundary hc hd

end Conversion

end Calculator
