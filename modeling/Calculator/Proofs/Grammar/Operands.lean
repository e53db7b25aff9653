import Calculator.Grammar
import Calculator.Proofs.Conversion.Acceptance
import Calculator.Proofs.Conversion.Conservation
import Calculator.Proofs.Evaluation.Stack
import Mathlib.Data.List.Chain

/-!
# Operands and operators alternate

No operand may directly follow another. Under this condition there is at most one
number more than there are operators, and there is one more only if operands and
operators alternate (`Alternates`), which counting from left to right shows:

    gain_le : (∀ l ∈ ls, l.IsSound) → ls.IsChain Apart → gain (ls.filterMap token?) ≤ 1 ∧ …
-/

namespace Calculator.Lexeme

/-! ### Neighbours -/

/-- Whether an operand ends with the lexeme: a number, or a parenthesis that closes. -/
def endsOperand : Lexeme → Bool
  | number chars => chars.any isNumberChar
  | name _ _ => false
  | symbol c => c == ')'

/-- Whether an operand begins with the lexeme: a number, a function or a parenthesis that opens. -/
def beginsOperand : Lexeme → Bool
  | number chars => chars.any isNumberChar
  | name letters _ => (Func.ofName? (String.ofList letters)).isSome
  | symbol c => c == '('

/-- The lexemes are not the end and the beginning of two operands side by side. -/
def Apart (l l' : Lexeme) : Prop :=
  l.endsOperand = true → l'.beginsOperand = false

instance (l l' : Lexeme) : Decidable (Apart l l') :=
  inferInstanceAs (Decidable (l.endsOperand = true → l'.beginsOperand = false))

/-- `Alternates operand ls`: operands and operators alternate in `ls`, which begins with an operand
if `operand` is true and continues one otherwise. Parentheses are not paired here. -/
inductive Alternates : (operand : Bool) → List Lexeme → Prop
  | nil : Alternates false []
  | number {cs : List Char} {ls : List Lexeme} :
    Alternates false ls → Alternates true (number cs :: ls)
  | function {letters : List Char} {called : Bool} {ls : List Lexeme} :
    Alternates true ls → Alternates true (name letters called :: ls)
  | opening {ls : List Lexeme} : Alternates true ls → Alternates true (symbol '(' :: ls)
  | closing {ls : List Lexeme} : Alternates false ls → Alternates false (symbol ')' :: ls)
  | operator {ls : List Lexeme} (op : Operator) :
    Alternates true ls → Alternates false (symbol op.symbol :: ls)

theorem Alternates.of_closing {ls : List Lexeme} (h : Alternates false (symbol ')' :: ls)) :
    Alternates false ls := by
  generalize hls : symbol ')' :: ls = ls' at h
  cases h with
  | nil => cases hls
  | closing h =>
    cases hls
    exact h
  | operator op h => cases op <;> simp [Operator.symbol] at hls

/-! ### Counting -/

theorem gain_cons (l : Lexeme) (ls : List Lexeme) :
    Rpn.gain ((l :: ls).filterMap token?) =
      (l.token?.map Token.gain).getD 0 + Rpn.gain (ls.filterMap token?) := by
  cases htoken : l.token? <;> simp [htoken, Rpn.gain]

theorem IsSound.any_isNumberChar {cs : List Char} (h : (number cs).IsSound) :
    cs.any isNumberChar = true := by
  have hany : ∀ {ds : List Char}, IsUnsigned ds → ds.any isNumberChar = true := by
    intro ds hds
    obtain ⟨c, hc, -⟩ := hds.2.1
    exact List.any_eq_true.mpr ⟨c, hc, hds.1 c hc⟩
  cases h with
  | unsigned h => exact hany h
  | signed h => rw [List.any_cons, hany h, Bool.or_true]

/-- Where no operand follows another there is at most one number more than there are operators, and
behind an operand none more; as many as that are there only if they alternate. -/
theorem gain_le {ls : List Lexeme} (hsound : ∀ l ∈ ls, l.IsSound) (hapart : ls.IsChain Apart) :
    (Rpn.gain (ls.filterMap token?) ≤ 1 ∧
      (Rpn.gain (ls.filterMap token?) = 1 → Alternates true ls)) ∧
    ((∀ l ∈ ls.head?, l.beginsOperand = false) →
      Rpn.gain (ls.filterMap token?) ≤ 0 ∧
        (Rpn.gain (ls.filterMap token?) = 0 → Alternates false ls)) := by
  induction ls with
  | nil => exact ⟨⟨by decide, fun h => absurd h (by decide)⟩, fun _ => ⟨by decide, fun _ => .nil⟩⟩
  | cons l ls ih =>
    obtain ⟨hnext, hapart⟩ := List.isChain_cons.mp hapart
    obtain ⟨⟨hle, hone⟩, hbehind⟩ :=
      ih (fun l' hl' => hsound l' (List.mem_cons_of_mem l hl')) hapart
    rw [gain_cons]
    have hl := hsound l List.mem_cons_self
    cases l with
    | number cs =>
      have hany := hl.any_isNumberChar
      obtain ⟨hle, hzero⟩ := hbehind fun l' hl' => hnext l' hl' hany
      have hgain : ((number cs).token?.map Token.gain).getD 0 = 1 := rfl
      rw [hgain]
      refine ⟨⟨by omega, fun h => .number (hzero (by omega))⟩, ?_⟩
      intro hbegins
      exact absurd (hbegins _ rfl) (by simp [beginsOperand, hany])
    | name letters called =>
      have hgain : ((name letters called).token?.map Token.gain).getD 0 = 0 := by
        cases h : Func.ofName? (String.ofList letters) <;> simp [token?, h, Token.gain]
      rw [hgain, Int.zero_add]
      refine ⟨⟨hle, fun h => .function (hone h)⟩, ?_⟩
      intro hbegins
      cases hl with
      | function f => exact absurd (hbegins _ rfl) (by simp [beginsOperand])
    | symbol c =>
      cases hl with
      | opening =>
        have hgain : ((symbol '(').token?.map Token.gain).getD 0 = 0 := rfl
        rw [hgain, Int.zero_add]
        exact ⟨⟨hle, fun h => .opening (hone h)⟩, fun hbegins => absurd (hbegins _ rfl) (by decide)⟩
      | closing =>
        have hgain : ((symbol ')').token?.map Token.gain).getD 0 = 0 := rfl
        obtain ⟨hle, hzero⟩ := hbehind fun l' hl' => hnext l' hl' rfl
        rw [hgain, Int.zero_add]
        exact ⟨⟨by omega, fun h => absurd h (by omega)⟩,
          fun _ => ⟨hle, fun h => .closing (hzero h)⟩⟩
      | operator op =>
        have hgain : ((symbol op.symbol).token?.map Token.gain).getD 0 = -1 := by
          simp [token?, Token.gain]
        rw [hgain]
        exact ⟨⟨by omega, fun h => absurd h (by omega)⟩,
          fun _ => ⟨by omega, fun h => .operator op (hone (by omega))⟩⟩

end Calculator.Lexeme
