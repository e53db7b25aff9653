import Calculator.Proofs.Evaluation.Stack

/-!
# Evaluation and trees

Tokens have a value just if they are the postfix form of a tree that has this value,
and then of one tree only:

    outcome_evaluate_iff_tree : (evaluate tokens).outcome = .ok value ↔
      ∃ e, (∀ e', e'.rpn = tokens ↔ e' = e) ∧ e.value? = some value

The tree is found by building trees where the evaluation computes values (`build`).
As long as no operand is missing, the stack of trees has the values of the stack
(`Holds`) and spells out the tokens taken so far (`spell`).
-/

namespace Calculator.Rpn

/-! ### Building trees -/

/-- Takes a token as the evaluation does, with trees for values; where operands are missing nothing
happens. -/
def build : List Expr → Token → List Expr
  | trees, .number text => .number text :: trees
  | argument :: trees, .function f => .call f argument :: trees
  | right :: left :: trees, .operator op => .binary op left right :: trees
  | trees, _ => trees

/-- The postfix form of a tree builds this tree. -/
theorem foldl_build_rpn (e : Expr) (trees : List Expr) : e.rpn.foldl build trees = e :: trees := by
  induction e generalizing trees with
  | number text => rfl
  | call f argument ih => simp [Expr.rpn, ih, build]
  | binary op left right ihl ihr => simp [Expr.rpn, ihl, ihr, build]

/-- Different trees have different postfix forms. -/
theorem rpn_injective {e e' : Expr} (h : e.rpn = e'.rpn) : e = e' := by
  have hbuild := foldl_build_rpn e []
  rw [h, foldl_build_rpn e' []] at hbuild
  exact (List.cons.inj hbuild).1.symm

/-! ### The stack of trees -/

/-- The trees have the values of the stack. -/
def Holds (trees : List Expr) (stack : List Float) : Prop :=
  List.Forall₂ (fun e value => e.value? = some value) trees stack

/-- The postfix forms of the trees, the first of them last. -/
def spell (trees : List Expr) : Rpn :=
  trees.reverse.flatMap Expr.rpn

theorem Pushes.holds {stack stack' : List Float} {token : Token} {trees : List Expr}
    (h : Pushes stack token stack') (htrees : Holds trees stack) :
    Holds (build trees token) stack' ∧ spell (build trees token) = spell trees ++ [token] := by
  cases h with
  | number hread => exact ⟨.cons hread htrees, by simp [build, spell, Expr.rpn]⟩
  | function f =>
    cases htrees with
    | cons hx htrees =>
      exact ⟨.cons (by simp [Expr.value?, hx]) htrees, by simp [build, spell, Expr.rpn]⟩
  | operator op =>
    cases htrees with
    | cons hright htrees =>
      cases htrees with
      | cons hleft htrees =>
        exact ⟨.cons (by simp [Expr.value?, hleft, hright]) htrees,
          by simp [build, spell, Expr.rpn]⟩

theorem holds_of_run {stack stack' : List Float} {index : Nat} {tokens : Rpn} {trees : List Expr}
    (h : (run stack index tokens).outcome = .ok stack') (htrees : Holds trees stack) :
    Holds (tokens.foldl build trees) stack' ∧
      spell (tokens.foldl build trees) = spell trees ++ tokens := by
  induction tokens generalizing stack index trees with
  | nil =>
    cases h
    exact ⟨htrees, by simp⟩
  | cons token tokens ih =>
    obtain ⟨m, hpushes, hrest⟩ := outcome_run_cons_iff.mp h
    obtain ⟨hm, hspell⟩ := hpushes.holds htrees
    obtain ⟨hholds, hall⟩ := ih hrest hm
    rw [hspell, List.append_assoc] at hall
    exact ⟨hholds, hall⟩

/-- Tokens that have a value are the postfix form of a tree that has it. -/
theorem exists_tree_of_outcome_evaluate {tokens : Rpn} {value : Float}
    (h : (evaluate tokens).outcome = .ok value) :
    ∃ e : Expr, e.rpn = tokens ∧ e.value? = some value := by
  obtain ⟨hholds, hspell⟩ := holds_of_run (outcome_evaluate_iff.mp h) .nil
  generalize tokens.foldl build [] = trees at hholds hspell
  cases hholds with
  | cons hvalue hnil =>
    cases hnil
    exact ⟨_, by simpa [spell] using hspell, hvalue⟩

/-- An evaluation succeeds just on the postfix form of a tree, which is the only one with this
form, and its result is the value of the tree. -/
theorem outcome_evaluate_iff_tree {tokens : Rpn} {value : Float} :
    (evaluate tokens).outcome = .ok value ↔
      ∃ e : Expr, (∀ e' : Expr, e'.rpn = tokens ↔ e' = e) ∧ e.value? = some value := by
  constructor
  · intro h
    obtain ⟨e, rfl, hvalue⟩ := exists_tree_of_outcome_evaluate h
    exact ⟨e, fun e' => ⟨rpn_injective, congrArg _⟩, hvalue⟩
  · intro h
    obtain ⟨e, hunique, hvalue⟩ := h
    rw [← (hunique e).mpr rfl]
    exact outcome_evaluate_rpn hvalue

end Calculator.Rpn
