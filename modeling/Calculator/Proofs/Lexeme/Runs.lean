import Calculator.Proofs.Lexeme.Cut

/-!
# Lexemes and runs of characters

Names are the maximal runs of letters in a text, and numbers are the maximal runs
of digits and points, with a minus sign or without. A run is said to be maximal in
terms of the characters around it (`IsMaximalRun`), so that nothing is said of
lexemes. In one direction, every run is found in the lexemes:

    name_mem_cut   : IsMaximalRun isNameChar before run after → name run … ∈ cut none …
    number_mem_cut : IsMaximalRun isNumberChar before run after → number run ∈ … ∨ …

In the other direction, a lexeme in its place is a maximal run, as no lexeme ends
where it could go on (`Tidy.boundary`).
-/

namespace Calculator

/-- In `before ++ run ++ after`, `run` cannot be made longer, to the left or to the right, if all of
its characters are to satisfy `p`. -/
structure IsMaximalRun (p : Char → Bool) (before run after : List Char) : Prop where
  ne_nil : run ≠ []
  all : ∀ c ∈ run, p c = true
  left : ∀ c ∈ before.getLast?, p c = false
  right : ∀ c ∈ after.head?, p c = false

namespace Lexeme

/-! ### Runs are lexemes -/

/-- No lexeme goes on with a minus sign. -/
theorem cut_append_minus (before after : List Char) :
    cut none (before ++ '-' :: after) =
      cut none before ++ cut (before.getLast?.or none) ('-' :: after) := by
  apply cut_append
  intro l _ c hc
  cases hc
  cases l <;> rfl

theorem name_mem_cut {before run after : List Char} (h : IsMaximalRun isNameChar before run after) :
    name run (after.head? == some '(') ∈ cut none (before ++ run ++ after) := by
  have hlast : ∀ l ∈ (cut none before).getLast?, ∀ c ∈ (run ++ after).head?,
      l.sticksTo c = false := by
    intro l hl c hc
    have hname : isNameChar c = true := by
      rw [List.head?_append_of_ne_nil run h.ne_nil] at hc
      exact h.all c (List.mem_of_head? hc)
    cases l with
    | number cs => exact isNumberChar_of_isNameChar hname
    | name letters called =>
      obtain ⟨ds, d, hbefore, hd⟩ := (tidy_cut none before).exists_getLast? hl
      rw [flatMap_chars_cut] at hbefore
      have hleft := h.left d (by simp [hbefore])
      rw [hd] at hleft
      cases hleft
    | symbol d => rfl
  have hfits : (name run (after.head? == some '(')).Fits (before.getLast?.or none) after.head? :=
    .name h.ne_nil h.all h.right
  have hrun : cut (before.getLast?.or none) (run ++ after) = _ :: _ := cut_of_fits hfits
  rw [List.append_assoc, cut_append hlast, hrun]
  simp

/-- A run of digits and points is a number, unless the minus sign in front of it is a part of that
number. -/
theorem number_mem_cut {before run after : List Char}
    (h : IsMaximalRun isNumberChar before run after) :
    number run ∈ cut none (before ++ run ++ after) ∨
      number ('-' :: run) ∈ cut none (before ++ run ++ after) := by
  by_cases hsign : ∃ ds, before = ds ++ ['-'] ∧ isUnaryMinus '-' (ds.getLast?.or none) = true
  · right
    obtain ⟨ds, rfl, hminus⟩ := hsign
    have hfits : (number ('-' :: run)).Fits (ds.getLast?.or none) after.head? :=
      .signed hminus h.all h.right
    have hrun : cut (ds.getLast?.or none) ('-' :: run ++ after) = _ :: _ := cut_of_fits hfits
    have happend : ds ++ ['-'] ++ run ++ after = ds ++ '-' :: (run ++ after) := by simp
    rw [happend, cut_append_minus, ← List.cons_append, hrun]
    simp
  · left
    have hlast : ∀ l ∈ (cut none before).getLast?, ∀ c ∈ (run ++ after).head?,
        l.sticksTo c = false := by
      intro l hl c hc
      have hnum : isNumberChar c = true := by
        rw [List.head?_append_of_ne_nil run h.ne_nil] at hc
        exact h.all c (List.mem_of_head? hc)
      cases l with
      | number cs =>
        obtain ⟨ds, d, hbefore, hd⟩ := (tidy_cut none before).exists_getLast? hl
        rw [flatMap_chars_cut] at hbefore
        rcases hd with hd | hd
        · have hleft := h.left d (by simp [hbefore])
          rw [hd] at hleft
          cases hleft
        · obtain rfl := (isUnaryMinus_eq_true_iff.mp hd).1
          exact absurd ⟨ds, hbefore, hd⟩ hsign
      | name letters called =>
        have hparen : c ≠ '(' := ne_of_class hnum rfl
        simp [sticksTo, isNameChar_of_isNumberChar hnum, hparen]
      | symbol d => rfl
    have hfits : (number run).Fits (before.getLast?.or none) after.head? :=
      .unsigned h.ne_nil h.all h.right
    have hrun : cut (before.getLast?.or none) (run ++ after) = _ :: _ := cut_of_fits hfits
    rw [List.append_assoc, cut_append hlast, hrun]
    simp

/-- A minus sign that belongs to a number is one on its own if no digit follows. -/
theorem minus_mem_cut {before after : List Char} (h : isUnaryMinus '-' before.getLast? = true)
    (hafter : ∀ c ∈ after.head?, isNumberChar c = false) :
    number ['-'] ∈ cut none (before ++ '-' :: after) := by
  have hfits : (number ['-']).Fits (before.getLast?.or none) after.head? := by
    rw [Option.or_none]
    exact .signed h (by simp) hafter
  have hminus : cut (before.getLast?.or none) ('-' :: after) = _ :: _ := cut_of_fits hfits
  rw [cut_append_minus, hminus]
  simp

/-! ### Lexemes are runs -/

/-- A lexeme ends where neither a number nor a name goes on. -/
theorem Fits.boundary {previous next : Option Char} {l : Lexeme} (h : l.Fits previous next)
    {c d : Char} (hc : c ∈ l.chars.getLast?) (hd : d ∈ next) :
    (isNumberChar c = false ∨ isNumberChar d = false) ∧
      (isNameChar c = false ∨ isNameChar d = false) := by
  cases h with
  | unsigned hne hall hnext =>
    have hnum : isNumberChar c = true := hall c (List.mem_of_getLast? hc)
    exact ⟨.inr (hnext d hd), .inl (isNameChar_of_isNumberChar hnum)⟩
  | signed hsign hall hnext =>
    refine ⟨.inr (hnext d hd), .inl ?_⟩
    rcases List.mem_cons.mp (List.mem_of_getLast? hc) with rfl | hc
    · rfl
    · exact isNameChar_of_isNumberChar (hall c hc)
  | name hne hall hnext =>
    have hname : isNameChar c = true := hall c (List.mem_of_getLast? hc)
    exact ⟨.inl (isNumberChar_of_isNameChar hname), .inr (hnext d hd)⟩
  | @symbol e hnum hunary hname =>
    obtain rfl : e = c := Option.some.inj hc
    exact ⟨.inl hnum, .inl hname⟩

theorem Tidy.boundary {previous : Option Char} {ls ls' : List Lexeme} {l : Lexeme}
    (h : Tidy previous (ls ++ l :: ls')) {c d : Char} (hc : c ∈ (ls.flatMap chars).getLast?)
    (hd : d ∈ l.chars.head?) :
    (isNumberChar c = false ∨ isNumberChar d = false) ∧
      (isNameChar c = false ∨ isNameChar d = false) := by
  rcases List.eq_nil_or_concat' ls with rfl | ⟨ls, l', rfl⟩
  · cases hc
  · rw [List.append_assoc] at h
    have hl' : l'.Fits _ ((l :: ls').flatMap chars).head? := h.right.1
    rw [h.right.2.head?_flatMap_chars] at hl'
    refine hl'.boundary ?_ hd
    rwa [List.flatMap_append, List.flatMap_singleton,
      List.getLast?_append_of_ne_nil _ hl'.chars_ne_nil] at hc

end Lexeme

end Calculator
