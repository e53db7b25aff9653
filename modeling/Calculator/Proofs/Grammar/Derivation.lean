import Calculator.Proofs.Grammar.Conversion
import Calculator.Proofs.Grammar.Operands

/-!
# Texts with a value are expressions

If operands and operators alternate and parentheses balance, there is a tree that
is written so. Together with the count of numbers and operators, which a value
needs, this means that an operator without its operands never goes unnoticed, as
long as no operand directly follows another:

    exists_writtenAs_of_solve : (Lexeme.ofText text).IsChain Lexeme.Apart →
      (solve text).outcome = .ok value → ∃ e, e.WrittenAs text ∧ e.value? = some value
-/

namespace Calculator

open Lexeme

/-! ### Growing a tree to the left -/

namespace Expr

/-- An operand and an operator may be put in front of an expression. -/
theorem Written.cons {rank : Nat} {first second : Bool} {left right : List Char} {l r : Expr}
    (op : Operator) (hl : Written 4 first left l) (hr : Written rank second right r)
    (hsecond : second = false) :
    ∃ e, Written (min rank op.precedence) first (left ++ op.symbol :: right) e := by
  have hop := op.one_le_precedence
  have hle := op.precedence_le_three
  have hleft : Written op.precedence first left l := hl.mono hop (by omega)
  -- Where the right operand binds more tightly than `op`, it stays in one piece.
  have hwhole : ∀ {k : Nat} {cs : List Char} {x : Expr}, Written k false cs x →
      op.precedence < k → Written (min k op.precedence) first (left ++ op.symbol :: cs)
        (.binary op l x) := by
    intro k cs x hx hlt
    rw [Nat.min_eq_right (Nat.le_of_lt hlt)]
    exact .binary op hleft (hx.mono (by omega) hlt)
  induction hr with
  | unsigned h => exact ⟨_, hwhole (.unsigned h) (by omega)⟩
  | signed h => cases hsecond
  | paren h => exact ⟨_, hwhole (.paren h) (by omega)⟩
  | call f h => exact ⟨_, hwhole (.call f h) (by omega)⟩
  | @binary _ cs cs' x y op' hx hy ihx =>
    subst hsecond
    rcases Nat.lt_or_ge op.precedence op'.precedence with hlt | hge
    · exact ⟨_, hwhole (.binary op' hx hy) hlt⟩
    · obtain ⟨e, he⟩ := ihx rfl
      rw [Nat.min_eq_left hge] at he ⊢
      exact ⟨.binary op' e y, by simpa using Written.binary op' he hy⟩
  | @lower k _ cs x hk hx ih =>
    obtain ⟨e, he⟩ := ih hsecond
    exact ⟨e, he.mono (by omega) (by omega)⟩

/-- A written expression closes the parentheses that it opens, and no other. -/
theorem Written.balances_append {rank : Nat} {first : Bool} {cs : List Char} {e : Expr}
    (h : Written rank first cs e) (n : Nat) (rest : List Char) :
    Balances n (cs ++ rest) ↔ Balances n rest := by
  induction h generalizing n rest with
  | unsigned h => exact Balances.append_iff ((IsSound.unsigned h).ne_paren (by simp) (by simp))
  | signed h => exact Balances.append_iff ((IsSound.signed h).ne_paren (by simp) (by simp))
  | paren _ ih => simpa using Balances.paren_iff ih rest
  | call f _ ih =>
    have hname : ∀ c ∈ f.name.toList, c ≠ '(' ∧ c ≠ ')' :=
      (IsSound.function f).ne_paren (by simp) (by simp)
    rw [List.append_assoc, List.append_assoc, Balances.append_iff hname]
    simpa using Balances.paren_iff ih rest
  | binary op _ _ ihl ihr =>
    have hne : op.symbol ≠ '(' ∧ op.symbol ≠ ')' := by cases op <;> decide
    rw [List.append_assoc, List.cons_append, ihl, Balances.other_iff hne, ihr]
  | lower _ _ ih => exact ih n rest

end Expr

/-! ### Finding the tree -/

/-- The lexemes may stand behind `previous` with `n` parentheses open. -/
structure Follows (previous : Option Char) (n : Nat) (ls : List Lexeme) : Prop where
  tidy : Tidy previous ls
  isSound : ∀ l ∈ ls, l.IsSound
  balances : Balances n (ls.flatMap chars)

namespace Follows

variable {previous : Option Char} {n : Nat} {ls rest : List Lexeme}

theorem opening (h : Follows previous n (symbol '(' :: ls)) : Follows (some '(') (n + 1) ls where
  tidy := h.tidy.2
  isSound := fun l hl => h.isSound l (List.mem_cons_of_mem _ hl)
  balances := Balances.opening_iff.mp h.balances

theorem closing (h : Follows previous (n + 1) (symbol ')' :: ls)) : Follows (some ')') n ls := by
  obtain ⟨m, hm, hbalances⟩ := Balances.closing_iff.mp h.balances
  rw [← Nat.add_right_cancel hm] at hbalances
  exact ⟨h.tidy.2, fun l hl => h.isSound l (List.mem_cons_of_mem _ hl), hbalances⟩

/-- An expression changes nothing for what follows it. -/
theorem right {rank : Nat} {first : Bool} {e : Expr} (h : Follows previous n (ls ++ rest))
    (he : Expr.Written rank first (ls.flatMap chars) e) :
    Follows ((ls.flatMap chars).getLast?.or previous) n rest := by
  refine ⟨h.tidy.right, fun l hl => h.isSound l (List.mem_append_right _ hl), ?_⟩
  rw [← he.balances_append, ← List.flatMap_append]
  exact h.balances

theorem operator {op : Operator} (h : Follows previous n (symbol op.symbol :: ls)) :
    Follows (some op.symbol) n ls := by
  have hne : op.symbol ≠ '(' ∧ op.symbol ≠ ')' := by cases op <;> decide
  exact ⟨h.tidy.2, fun l hl => h.isSound l (List.mem_cons_of_mem _ hl),
    (Balances.other_iff hne).mp h.balances⟩

end Follows

/-- An expression begins the lexemes, up to a parenthesis that closes or the end. -/
def BeginsExpr (first : Bool) (ls : List Lexeme) : Prop :=
  ∃ es rest e, ls = es ++ rest ∧ Expr.Written 1 first (es.flatMap chars) e ∧
    Alternates false rest ∧ ∀ l ∈ rest.head?, l = symbol ')'

/-- An operand begins an expression if expressions begin behind its operator. -/
theorem BeginsExpr.of_operand {previous : Option Char} {n : Nat} {first : Bool}
    (es : List Lexeme) {ls : List Lexeme} {x : Expr}
    (hx : Expr.Written 4 first (es.flatMap chars) x)
    (hls : Follows previous n ls) (halternates : Alternates false ls)
    (hnext : ∀ (op : Operator) (ls' : List Lexeme), ls = symbol op.symbol :: ls' →
      Follows (some op.symbol) n ls' → Alternates true ls' → BeginsExpr false ls') :
    BeginsExpr first (es ++ ls) := by
  cases halternates with
  | nil => exact ⟨es, [], x, rfl, hx.mono (by omega) (by omega), .nil, by simp⟩
  | @closing ls' hrest =>
    exact ⟨es, symbol ')' :: ls', x, rfl, hx.mono (by omega) (by omega), .closing hrest, by simp⟩
  | @operator ls' op hrest =>
    obtain ⟨es', rest, r, rfl, hr, halt, hhead⟩ := hnext op ls' rfl hls.operator hrest
    obtain ⟨e, he⟩ := Expr.Written.cons op hx hr rfl
    rw [Nat.min_eq_left op.one_le_precedence] at he
    refine ⟨es ++ symbol op.symbol :: es', rest, e, by simp, ?_, halt, hhead⟩
    simpa [chars] using he

/-- Behind a parenthesis an expression begins, and the parenthesis that follows it is its
partner. -/
theorem exists_group {previous : Option Char} {n : Nat} {ls : List Lexeme}
    (h : Follows previous n (symbol '(' :: ls)) (hbegins : BeginsExpr true ls) :
    ∃ es rest e, ls = es ++ symbol ')' :: rest ∧ Expr.Written 1 true (es.flatMap chars) e ∧
      Alternates false rest ∧ Follows (some ')') n rest := by
  obtain ⟨es, rest, e, rfl, he, halternates, hhead⟩ := hbegins
  have hrest := h.opening.right he
  cases rest with
  | nil => exact absurd (Balances.nil_iff.mp hrest.balances) (by omega)
  | cons l rest =>
    obtain rfl := hhead l rfl
    exact ⟨es, rest, e, rfl, he, halternates.of_closing, hrest.closing⟩

/-- A sound number is an operand; it has a sign only where it may have one. -/
theorem written_number {previous : Option Char} {n : Nat} {cs : List Char} {ls : List Lexeme}
    (h : Follows previous n (number cs :: ls)) :
    Expr.Written 4 (isUnaryMinus '-' previous) cs (.number (String.ofList cs)) := by
  cases h.isSound _ List.mem_cons_self with
  | unsigned hcs => exact .unsigned hcs
  | signed hcs =>
    cases h.tidy.1 with
    | unsigned hne hall => exact absurd (hall '-' List.mem_cons_self) (by decide)
    | signed hsign =>
      rw [hsign]
      exact .signed hcs

/-- A sound name is that of a function, and its argument follows. -/
theorem exists_func {previous : Option Char} {n : Nat} {letters : List Char} {called : Bool}
    {ls : List Lexeme} (h : Follows previous n (name letters called :: ls)) :
    ∃ (f : Func) (ls' : List Lexeme), letters = f.name.toList ∧ ls = symbol '(' :: ls' ∧
      Follows (letters.getLast?.or previous) n ls := by
  have hsound := h.isSound _ List.mem_cons_self
  have hname : ∀ c ∈ letters, c ≠ '(' ∧ c ≠ ')' := hsound.ne_paren (by simp) (by simp)
  have hls : Follows (letters.getLast?.or previous) n ls := by
    refine ⟨h.tidy.2, fun l hl => h.isSound l (List.mem_cons_of_mem _ hl), ?_⟩
    exact (Balances.append_iff hname).mp h.balances
  have hcalled := h.tidy.1.called_eq
  rw [← head?_beq_symbol h.tidy.2] at hcalled
  cases hsound with
  | function f =>
    obtain ⟨ls', rfl⟩ := List.head?_eq_some_iff.mp (beq_iff_eq.mp hcalled.symm)
    exact ⟨f, ls', rfl, rfl, hls⟩

/-- Where operands and operators alternate, an expression begins. The induction is on the number of
lexemes, as what follows a group is not a part of it. -/
theorem beginsExpr_of_alternates {previous : Option Char} {n : Nat} {ls : List Lexeme}
    (h : Follows previous n ls) (halternates : Alternates true ls) :
    BeginsExpr (isUnaryMinus '-' previous) ls := by
  induction hk : ls.length using Nat.strongRecOn generalizing previous n ls with
  | _ k ih =>
    subst hk
    have hnext : ∀ {rest : List Lexeme}, rest.length < ls.length →
        ∀ (op : Operator) (ls' : List Lexeme), rest = symbol op.symbol :: ls' →
          Follows (some op.symbol) n ls' → Alternates true ls' → BeginsExpr false ls' := by
      rintro rest hlt op ls' rfl hls' halt
      have hbegins := ih ls'.length (Nat.lt_of_succ_lt hlt) hls' halt rfl
      rwa [isUnaryMinus_some (by cases op <;> decide)] at hbegins
    cases halternates with
    | @number cs rest halt =>
      have hx : Expr.Written 4 (isUnaryMinus '-' previous) ([number cs].flatMap chars)
          (.number (String.ofList cs)) := by simpa [chars] using written_number h
      have hall : Follows previous n ([number cs] ++ rest) := h
      exact BeginsExpr.of_operand [number cs] hx (hall.right hx) halt (hnext (by simp))
    | @opening rest halt =>
      have hbegins := ih rest.length (by simp) h.opening halt rfl
      obtain ⟨es, rest, e, rfl, he, halt, hrest⟩ := exists_group h hbegins
      have hx : Expr.Written 4 (isUnaryMinus '-' previous)
          ((symbol '(' :: (es ++ [symbol ')'])).flatMap chars) e := by
        simpa [chars] using Expr.Written.paren he
      have hall := BeginsExpr.of_operand _ hx hrest halt (hnext (by simp; omega))
      simpa using hall
    | @function letters called rest halt =>
      obtain ⟨f, ls', rfl, rfl, hgroup⟩ := exists_func h
      cases halt with
      | opening halt =>
        have hbegins := ih ls'.length (by grind) hgroup.opening halt rfl
        obtain ⟨es, rest, e, rfl, he, halt, hrest⟩ := exists_group hgroup hbegins
        have hx : Expr.Written 4 (isUnaryMinus '-' previous)
            ((name f.name.toList called :: symbol '(' :: (es ++ [symbol ')'])).flatMap chars)
            (.call f e) := by
          simpa [chars] using Expr.Written.call f he
        have hall := BeginsExpr.of_operand _ hx hrest halt (hnext (by simp; omega))
        simpa using hall

/-! ### The whole text -/

/-- Operands and operators that alternate are an expression. -/
theorem exists_writtenAs_of_alternates {text : String}
    (hsound : ∀ l ∈ Lexeme.ofText text, l.IsSound) (hbalances : Balances 0 text.toList)
    (halternates : Alternates true (Lexeme.ofText text)) : ∃ e : Expr, e.WrittenAs text := by
  have hspell : (Lexeme.ofText text).flatMap chars = text.toList := flatMap_chars_cut _ _
  have hfollows : Follows none 0 (Lexeme.ofText text) :=
    ⟨tidy_cut _ _, hsound, hspell.symm ▸ hbalances⟩
  obtain ⟨es, rest, e, hes, he, -, hhead⟩ := beginsExpr_of_alternates hfollows halternates
  rw [hes] at hfollows hspell
  have hrest := hfollows.right he
  -- A parenthesis that closes would have no partner, so the expression is the whole text.
  cases rest with
  | nil =>
    rw [List.append_nil] at hspell
    exact ⟨e, by rwa [Expr.WrittenAs, ← hspell]⟩
  | cons l rest =>
    obtain rfl := hhead l rfl
    obtain ⟨m, hm, -⟩ := Balances.closing_iff.mp hrest.balances
    exact absurd hm (by omega)

/-- If no operand directly follows another, a text with a value is an expression, and the value is
that of its tree. Empty parentheses need no mention. -/
theorem exists_writtenAs_of_solve {text : String} {value : Float}
    (hapart : (Lexeme.ofText text).IsChain Apart) (h : (solve text).outcome = .ok value) :
    ∃ e : Expr, e.WrittenAs text ∧ e.value? = some value := by
  obtain ⟨tokens, htokens, hvalue⟩ := outcome_solve_iff.mp h
  obtain ⟨hsound, hbalances⟩ := Conversion.exists_outcome_ofText_iff.mp ⟨tokens, htokens⟩
  have hgain : Rpn.gain ((Lexeme.ofText text).filterMap token?) = 1 := by
    rw [← Rpn.gain_eq_of_perm (Conversion.perm_of_outcome_ofText htokens)]
    exact Rpn.gain_of_outcome_evaluate hvalue
  have halternates := ((gain_le hsound hapart).1.2 hgain)
  obtain ⟨e, he⟩ := exists_writtenAs_of_alternates hsound hbalances halternates
  obtain ⟨value', hvalue'⟩ := Expr.Written.exists_value? he
  rw [he.outcome_ofText] at htokens
  cases htokens
  rw [Rpn.outcome_evaluate_rpn hvalue'] at hvalue
  cases hvalue
  exact ⟨e, he, hvalue'⟩

/-- A call, a sign behind a parenthesis and operators of two ranks. -/
theorem exists_writtenAs_of_solve_signed_call :
    (Lexeme.ofText "2*sqrt(-9+1)").IsChain Apart ∧
      ∃ value, (solve "2*sqrt(-9+1)").outcome = .ok value ∧
        ∃ e : Expr, e.WrittenAs "2*sqrt(-9+1)" ∧ e.value? = some value := by
  have hapart : (Lexeme.ofText "2*sqrt(-9+1)").IsChain Apart := by decide +kernel
  obtain ⟨value, hvalue⟩ : ∃ value, (solve "2*sqrt(-9+1)").outcome = .ok value := ⟨_, rfl⟩
  exact ⟨hapart, value, hvalue, exists_writtenAs_of_solve hapart hvalue⟩

end Calculator
