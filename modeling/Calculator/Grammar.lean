import Calculator.Expr
import Calculator.Lexeme

/-!
# How expressions are written

The grammar of expressions. Operators of one rank group to the left, those of a
higher rank bind more tightly, and parentheses or the call of a function enclose
what stands on its own. A number may have a minus sign only where an expression
begins: at the start of the text, or directly behind `(`.

The ranks are the precedences of the operators, 1 for sums up to 3 for powers;
rank 4 is that of numbers, parentheses and calls.
-/

namespace Calculator

/-- Digits with at most one point among them, and at least one digit. -/
def IsUnsigned (cs : List Char) : Prop :=
  (∀ c ∈ cs, isNumberChar c = true) ∧ (∃ c ∈ cs, c.isDigit = true) ∧ cs.count '.' ≤ 1

instance (cs : List Char) : Decidable (IsUnsigned cs) :=
  decidable_of_iff
    (cs.all isNumberChar = true ∧ cs.any Char.isDigit = true ∧ cs.count '.' ≤ 1)
    (by simp [IsUnsigned, List.all_eq_true, List.any_eq_true])

theorem IsUnsigned.ne_nil {cs : List Char} (h : IsUnsigned cs) : cs ≠ [] := by
  obtain ⟨c, hc, -⟩ := h.2.1
  exact List.ne_nil_of_mem hc

namespace Expr

/-- `Written rank first cs e`: the characters `cs` are a way to write `e` whose operators outside
parentheses have at least the given rank; `first` tells whether they begin an expression, so that
a minus sign may come first. -/
inductive Written : (rank : Nat) → (first : Bool) → List Char → Expr → Prop
  | unsigned {first : Bool} {cs : List Char} :
    IsUnsigned cs → Written 4 first cs (.number (String.ofList cs))
  | signed {cs : List Char} :
    IsUnsigned cs → Written 4 true ('-' :: cs) (.number (String.ofList ('-' :: cs)))
  | paren {first : Bool} {cs : List Char} {e : Expr} :
    Written 1 true cs e → Written 4 first ('(' :: cs ++ [')']) e
  | call {first : Bool} {cs : List Char} {e : Expr} (f : Func) :
    Written 1 true cs e → Written 4 first (f.name.toList ++ '(' :: cs ++ [')']) (.call f e)
  | binary {first : Bool} {left right : List Char} {l r : Expr} (op : Operator) :
    Written op.precedence first left l → Written (op.precedence + 1) false right r →
      Written op.precedence first (left ++ op.symbol :: right) (.binary op l r)
  | lower {rank : Nat} {first : Bool} {cs : List Char} {e : Expr} :
    1 ≤ rank → Written (rank + 1) first cs e → Written rank first cs e

/-- `text` is a way to write the expression `e`. -/
def WrittenAs (e : Expr) (text : String) : Prop :=
  Written 1 true text.toList e

/-- What has one rank has every rank below. -/
theorem Written.mono {rank k : Nat} {first : Bool} {cs : List Char} {e : Expr}
    (h : Written rank first cs e) (hk : 1 ≤ k) (hle : k ≤ rank) : Written k first cs e := by
  induction hle with
  | refl => exact h
  | step hle ih => exact ih (.lower (Nat.le_trans hk hle) h)

end Expr

end Calculator
