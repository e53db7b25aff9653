import Calculator.Proofs.Evaluation.Counts
import Calculator.Proofs.Grammar.Derivation
import Mathlib.Data.List.Infix

/-!
# How high the stack grows

The evaluation of a written expression needs room for the height of its tree, and the
height is bounded by how deep parentheses nest, whatever the length of the text:

    within_rpn_iff : e.value? = some value →
      (Within bound stack index e.rpn ↔ stack.length + e.height ≤ bound)
    Written.height_le : Written rank first cs e → NestsWithin depth cs →
      e.height ≤ 4 - rank + 3 * depth + 1

A value waits on the stack only while the right operand of its operator is computed. Outside
parentheses the operators that wait for each other rise in rank, so there are three of them
at most, and one if all have the same rank.
-/

namespace Calculator

/-! ### Trees -/

/-- How many values the stack holds at most above those that it held before, while a tree is
evaluated. The left operand waits for the right one. -/
def Expr.height : Expr → Nat
  | number _ => 1
  | call _ argument => argument.height
  | binary _ left right => max left.height (right.height + 1)

theorem Expr.one_le_height (e : Expr) : 1 ≤ e.height := by
  induction e with
  | number => exact Nat.le_refl 1
  | call _ _ ih => exact ih
  | binary _ _ _ ihl _ => exact Nat.le_trans ihl (Nat.le_max_left _ _)

namespace Rpn

/-- However many of the tokens are taken, none fails and at most `bound` values are on the stack. -/
def Within (bound : Nat) (stack : List Float) (index : Nat) (tokens : Rpn) : Prop :=
  ∀ before, before <+: tokens →
    ∃ stack', (run stack index before).outcome = .ok stack' ∧ stack'.length ≤ bound

variable {bound index : Nat} {stack stack' : List Float}

/-- There is room for tokens in two goes if there is for each of them. -/
theorem within_append_iff {tokens tokens' : Rpn}
    (hrun : (run stack index tokens).outcome = .ok stack') :
    Within bound stack index (tokens ++ tokens') ↔
      Within bound stack index tokens ∧ Within bound stack' (index + tokens.length) tokens' := by
  have hlast : ∀ rest, (run stack index (tokens ++ rest)).outcome =
      (run stack' (index + tokens.length) rest).outcome := by
    intro rest
    rw [outcome_run_append, hrun]
    rfl
  constructor
  · intro h
    refine ⟨fun before hbefore => h before (hbefore.trans (List.prefix_append _ _)), ?_⟩
    intro rest hrest
    rw [← hlast]
    exact h (tokens ++ rest) ((List.prefix_append_right_inj tokens).mpr hrest)
  · rintro ⟨h, h'⟩ before ⟨after, hafter⟩
    rcases List.append_eq_append_iff.mp hafter with ⟨rest, rfl, -⟩ | ⟨rest, rfl, rfl⟩
    · exact h before (List.prefix_append before rest)
    · rw [hlast]
      exact h' rest (List.prefix_append rest after)

theorem Pushes.within_iff {token : Token} (h : Pushes stack token stack') :
    Within bound stack index [token] ↔ stack.length ≤ bound ∧ stack'.length ≤ bound := by
  have hrun : (run stack index [token]).outcome = .ok stack' :=
    outcome_run_cons_iff.mpr ⟨stack', h, rfl⟩
  constructor
  · intro h
    obtain ⟨first, hfirst, hle⟩ := h [] List.nil_prefix
    obtain ⟨last, hlast, hle'⟩ := h [token] List.prefix_rfl
    cases hfirst
    cases hrun.symm.trans hlast
    exact ⟨hle, hle'⟩
  · rintro ⟨hle, hle'⟩ before hbefore
    rcases List.prefix_cons_iff.mp hbefore with rfl | ⟨rest, rfl, hrest⟩
    · exact ⟨stack, rfl, hle⟩
    · obtain rfl := List.prefix_nil.mp hrest
      exact ⟨stack', hrun, hle'⟩

/-- A tree has enough room just if there is room for its height. -/
theorem within_rpn_iff {e : Expr} {value : Float} (h : e.value? = some value) :
    Within bound stack index e.rpn ↔ stack.length + e.height ≤ bound := by
  induction e generalizing value stack index with
  | number text =>
    rw [Expr.rpn, (Pushes.number h).within_iff, List.length_cons, Expr.height]
    omega
  | call f argument ih =>
    obtain ⟨x, hx, -⟩ := Option.bind_eq_some_iff.mp h
    have hone := argument.one_le_height
    rw [Expr.rpn, within_append_iff (outcome_run_rpn hx stack index), ih hx,
      (Pushes.function f).within_iff, List.length_cons, List.length_cons, Expr.height]
    omega
  | binary op left right ihl ihr =>
    obtain ⟨x, hx, hrest⟩ := Option.bind_eq_some_iff.mp h
    obtain ⟨y, hy, -⟩ := Option.bind_eq_some_iff.mp hrest
    have hone := right.one_le_height
    have hoperands : (run stack index (left.rpn ++ right.rpn)).outcome = .ok (y :: x :: stack) := by
      rw [outcome_run_append, outcome_run_rpn hx]
      exact outcome_run_rpn hy _ _
    rw [Expr.rpn, within_append_iff hoperands, within_append_iff (outcome_run_rpn hx stack index),
      ihl hx, ihr hy, (Pushes.operator op).within_iff, Expr.height]
    simp only [List.length_cons]
    omega

end Rpn

/-! ### Texts -/

/-- At no place of `cs` are more than `depth` parentheses open. -/
def NestsWithin (depth : Nat) (cs : List Char) : Prop :=
  ∀ before, before <+: cs → before.count '(' ≤ depth + before.count ')'

instance (depth : Nat) (cs : List Char) : Decidable (NestsWithin depth cs) :=
  decidable_of_iff (∀ before ∈ cs.inits, before.count '(' ≤ depth + before.count ')')
    (by simp [NestsWithin, List.mem_inits])

namespace NestsWithin

variable {depth : Nat} {cs rest : List Char}

theorem left (h : NestsWithin depth (cs ++ rest)) : NestsWithin depth cs :=
  fun before hbefore => h before (hbefore.trans (List.prefix_append cs rest))

/-- What leaves `n` parentheses open takes as many levels from what follows. -/
theorem right {n : Nat} (h : NestsWithin depth (cs ++ rest))
    (hcount : cs.count '(' = n + cs.count ')') : n ≤ depth ∧ NestsWithin (depth - n) rest := by
  have hle := h cs (List.prefix_append cs rest)
  refine ⟨by omega, ?_⟩
  intro before hbefore
  have hall := h (cs ++ before) ((List.prefix_append_right_inj cs).mpr hbefore)
  simp only [List.count_append] at hall
  omega

/-- Parentheses take one level from what they enclose. -/
theorem group (h : NestsWithin depth ('(' :: cs ++ [')'])) :
    1 ≤ depth ∧ NestsWithin (depth - 1) cs := by
  have hopen : NestsWithin depth (['('] ++ cs) := h.left
  exact hopen.right rfl

end NestsWithin

namespace Expr

/-- A written expression closes as many parentheses as it opens. -/
theorem Written.count_eq {rank : Nat} {first : Bool} {cs : List Char} {e : Expr}
    (h : Written rank first cs e) : cs.count '(' = cs.count ')' := by
  have hbalances : Balances 0 (cs ++ []) := (h.balances_append 0 []).mpr (Balances.nil_iff.mpr rfl)
  simpa using hbalances.2

/-- Every level of parentheses has room for three operators that wait, less those that have too low
a rank. -/
theorem Written.height_le {rank depth : Nat} {first : Bool} {cs : List Char} {e : Expr}
    (h : Written rank first cs e) (hnests : NestsWithin depth cs) :
    e.height ≤ 4 - rank + 3 * depth + 1 := by
  induction h generalizing depth with
  | unsigned => exact Nat.le_add_left 1 _
  | signed => exact Nat.le_add_left 1 _
  | paren _ ih =>
    obtain ⟨hone, hinner⟩ := hnests.group
    have := ih hinner
    omega
  | call f _ ih =>
    have hname : f.name.toList.count '(' = 0 + f.name.toList.count ')' := by cases f <;> rfl
    rw [List.append_assoc] at hnests
    obtain ⟨-, hargument⟩ := hnests.right hname
    obtain ⟨hone, hinner⟩ := hargument.group
    have := ih hinner
    simp only [height]
    omega
  | binary op hl _ ihl ihr =>
    have hle := op.precedence_le_three
    have hleft := ihl hnests.left
    obtain ⟨-, hrest⟩ := hnests.right (n := 0) (by rw [hl.count_eq, Nat.zero_add])
    have hsymbol : NestsWithin depth ([op.symbol] ++ _) := hrest
    obtain ⟨-, hright⟩ := hsymbol.right (n := 0) (by cases op <;> rfl)
    have := ihr hright
    exact Nat.max_le.mpr ⟨hleft, by omega⟩
  | lower _ _ ih =>
    have := ih hnests
    omega

/-- Without parentheses, only operators of a higher rank wait for each other. -/
theorem Written.height_le_two {rank level : Nat} {first : Bool} {cs : List Char} {e : Expr}
    (h : Written rank first cs e) (hparen : '(' ∉ cs)
    (hlevel : ∀ op : Operator, .operator op ∈ e.rpn → op.precedence = level) :
    e.height ≤ 2 ∧ (level < rank → e.height ≤ 1) := by
  induction h with
  | unsigned => simp [height]
  | signed => simp [height]
  | paren => simp at hparen
  | call => simp at hparen
  | @binary first left right l r op _ _ ihl ihr =>
    have hop : op.precedence = level := hlevel op (by simp [rpn])
    obtain ⟨hleft, -⟩ := ihl (by simp_all) fun op' hop' => hlevel op' (by simp [rpn, hop'])
    obtain ⟨-, hright⟩ := ihr (by simp_all) fun op' hop' => hlevel op' (by simp [rpn, hop'])
    refine ⟨Nat.max_le.mpr ⟨hleft, Nat.succ_le_succ (hright (by omega))⟩, ?_⟩
    intro hlt
    omega
  | lower _ _ ih =>
    obtain ⟨htwo, hone⟩ := ih hparen hlevel
    exact ⟨htwo, fun hlt => hone (by omega)⟩

end Expr

/-! ### The whole text -/

/-- The operators among the tokens are written in the text. -/
theorem Conversion.symbol_mem_of_operator_mem {text : String} {tokens : Rpn}
    (h : (Rpn.ofText text).outcome = .ok tokens) {op : Operator} (hop : .operator op ∈ tokens) :
    .symbol op.symbol ∈ Lexeme.ofText text := by
  obtain ⟨l, hl, hstands⟩ := exists_standsFor_of_mem h hop
  cases hstands with
  | operator => exact hl

/-- While the tokens of a written expression are evaluated, the stack holds at most three values for
every level of parentheses, that outside them included, and one more; and at most two if there are
no parentheses and all operators have the same rank. -/
theorem Expr.WrittenAs.exists_within {e : Expr} {text : String} (h : e.WrittenAs text) :
    ∃ tokens, (Rpn.ofText text).outcome = .ok tokens ∧
      (∀ depth, NestsWithin depth text.toList → Rpn.Within (3 * (depth + 1) + 1) [] 0 tokens) ∧
      ∀ level, '(' ∉ text.toList →
        (∀ op : Operator, .symbol op.symbol ∈ Lexeme.ofText text → op.precedence = level) →
          Rpn.Within 2 [] 0 tokens := by
  obtain ⟨value, hvalue⟩ := Written.exists_value? h
  refine ⟨e.rpn, h.outcome_ofText, ?_, ?_⟩
  · intro depth hnests
    have hheight := Written.height_le h hnests
    exact (Rpn.within_rpn_iff hvalue).mpr (by simp only [List.length_nil]; omega)
  · intro level hparen hlevel
    obtain ⟨htwo, -⟩ := Written.height_le_two h hparen fun op hop =>
      hlevel op (Conversion.symbol_mem_of_operator_mem h.outcome_ofText hop)
    exact (Rpn.within_rpn_iff hvalue).mpr (by simpa using htwo)

/-- Operators of all three ranks wait outside a group and in it, and differences do not. -/
theorem Expr.WrittenAs.exists_within_nested_ranks :
    (∃ e : Expr, e.WrittenAs "1+2*3^(4+5*6^7)" ∧ NestsWithin 1 "1+2*3^(4+5*6^7)".toList ∧
      ∃ tokens, (Rpn.ofText "1+2*3^(4+5*6^7)").outcome = .ok tokens ∧
        Rpn.Within 7 [] 0 tokens) ∧
    ∃ e : Expr, e.WrittenAs "8-4+2-1" ∧
      ∃ tokens, (Rpn.ofText "8-4+2-1").outcome = .ok tokens ∧ Rpn.Within 2 [] 0 tokens := by
  have hdigit : ∀ (first : Bool) (c : Char), IsUnsigned [c] →
      Written 4 first [c] (.number (String.ofList [c])) := fun _ _ h => .unsigned h
  have hranks : ∀ {first : Bool} {as bs cs ds : List Char} {a b c d : Expr},
      Written 4 first as a → Written 4 false bs b → Written 4 false cs c → Written 4 false ds d →
        Written 1 first (as ++ '+' :: (bs ++ '*' :: (cs ++ '^' :: ds)))
          (.binary .plus a (.binary .times b (.binary .power c d))) := by
    intro first as bs cs ds a b c d ha hb hc hd
    have hpower := Written.binary .power (hc.mono (by decide) (by decide)) hd
    have htimes := Written.binary .times (hb.mono (by decide) (by decide)) hpower
    exact .binary .plus (ha.mono (by decide) (by decide)) htimes
  constructor
  · have hgroup := hranks (hdigit true '4' (by decide)) (hdigit false '5' (by decide))
      (hdigit false '6' (by decide)) (hdigit false '7' (by decide))
    have hall : WrittenAs _ "1+2*3^(4+5*6^7)" := hranks (hdigit true '1' (by decide))
      (hdigit false '2' (by decide)) (hdigit false '3' (by decide)) (.paren hgroup)
    have hnests : NestsWithin 1 "1+2*3^(4+5*6^7)".toList := by decide
    obtain ⟨tokens, htokens, hwithin, -⟩ := hall.exists_within
    exact ⟨_, hall, hnests, tokens, htokens, hwithin 1 hnests⟩
  · have hfirst := Written.binary .minus
      ((hdigit true '8' (by decide)).mono (by decide) (by decide))
      ((hdigit false '4' (by decide)).mono (by decide) (by decide))
    have hsecond := Written.binary .plus hfirst
      ((hdigit false '2' (by decide)).mono (by decide) (by decide))
    have hall : WrittenAs _ "8-4+2-1" := Written.binary .minus hsecond
      ((hdigit false '1' (by decide)).mono (by decide) (by decide))
    have hlevel : ∀ op : Operator, .symbol op.symbol ∈ Lexeme.ofText "8-4+2-1" →
        op.precedence = 1 := by
      intro op
      cases op <;> decide +kernel
    obtain ⟨tokens, htokens, -, hwithin⟩ := hall.exists_within
    exact ⟨_, hall, tokens, htokens, hwithin 1 (by decide) hlevel⟩

-- All seven values are on the stack when the last number is taken.
example : ∃ tokens stack, (Rpn.ofText "1+2*3^(4+5*6^7)").outcome = .ok tokens ∧
    (Rpn.run [] 0 (tokens.take 7)).outcome = .ok stack ∧ stack.length = 7 :=
  ⟨_, _, rfl, rfl, rfl⟩

end Calculator
