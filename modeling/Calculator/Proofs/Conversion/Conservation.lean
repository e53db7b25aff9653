import Calculator.Proofs.Conversion.Transition
import Calculator.Proofs.Lexeme.Cut

/-!
# Conservation of tokens

Every lexeme but a parenthesis stands for one token. The conversion moves tokens
from the text to what is held back and from there to what is written out, and
neither loses nor adds one; numbers, which are never held back, stay in order:

    Reads.perm : Reads s offset ls s' → s'.tokens.Perm (s.tokens ++ ls.filterMap Lexeme.token?)
    Reads.filterMap_number? : Reads s offset ls s' → s'.output.toList.filterMap Token.number? = …
-/

namespace Calculator

/-- The token for which a lexeme stands; parentheses stand for none. -/
def Lexeme.token? : Lexeme → Option Token
  | number chars => some (.number (String.ofList chars))
  | name letters _ => (Func.ofName? (String.ofList letters)).map .function
  | symbol char => (Operator.ofChar? char).map .operator

namespace Conversion

namespace State

/-- The tokens held back outside of open parentheses, the innermost first. -/
def outerTokens (groups : List Group) : List Token :=
  groups.flatMap fun group => group.outer.map Pending.token

/-- All tokens of a conversion so far, written out or held back. -/
def tokens (s : State) : List Token :=
  s.output.toList ++ (s.held.map Pending.token ++ outerTokens s.groups)

end State

/-- A token may be moved from the front of `ts` to its end. -/
theorem perm_cons_append (before ts : List Token) (t : Token) :
    (before ++ t :: ts).Perm (before ++ ts ++ [t]) := by
  rw [List.append_assoc]
  exact (List.perm_append_comm : ([t] ++ ts).Perm (ts ++ [t])).append_left before

/-- A lexeme brings its token, and none of those before it is lost. -/
theorem Takes.perm {s s' : State} {position : Nat} {l : Lexeme} (h : Takes s position l s') :
    s'.tokens.Perm (s.tokens ++ l.token?.toList) := by
  cases h with
  | number hnum =>
    have hmove := perm_cons_append s.output.toList
      (s.held.map Pending.token ++ State.outerTokens s.groups)
    simpa [State.tokens, Lexeme.token?] using hmove _
  | function f =>
    have hmove := perm_cons_append s.output.toList
      (s.held.map Pending.token ++ State.outerTokens s.groups)
    simpa [State.tokens, State.hold, Lexeme.token?, Pending.token] using hmove _
  | opening =>
    simp [State.tokens, State.openParen, State.outerTokens, Lexeme.token?, Operator.ofChar?]
  | closing hg =>
    simp [State.tokens, State.outerTokens, hg, Lexeme.token?, Operator.ofChar?]
  | operator op =>
    let binds (p : Pending) : Bool := op.precedence ≤ p.precedence
    have hheld : s.held.map Pending.token =
        (s.held.takeWhile binds).map Pending.token ++
          (s.held.dropWhile binds).map Pending.token := by
      rw [← List.map_append, List.takeWhile_append_dropWhile]
    have hmove := perm_cons_append
      (s.output.toList ++ (s.held.takeWhile binds).map Pending.token)
      ((s.held.dropWhile binds).map Pending.token ++ State.outerTokens s.groups) (.operator op)
    simpa [State.tokens, hheld, Lexeme.token?, Pending.token] using hmove

theorem Reads.perm {s s' : State} {offset : Nat} {ls : List Lexeme} (h : Reads s offset ls s') :
    s'.tokens.Perm (s.tokens ++ ls.filterMap Lexeme.token?) := by
  induction ls generalizing s offset with
  | nil => simp [reads_nil_iff.mp h]
  | cons l ls ih =>
    obtain ⟨m, htakes, hreads⟩ := reads_cons_iff.mp h
    have hl : (l :: ls).filterMap Lexeme.token? =
        l.token?.toList ++ ls.filterMap Lexeme.token? := by
      cases htoken : l.token? <;> simp [htoken]
    rw [hl, ← List.append_assoc]
    exact (ih hreads).trans (htakes.perm.append_right _)

/-- What is written out in the end are the tokens of the lexemes. -/
theorem perm_of_outcome_ofText {text : String} {tokens : Rpn}
    (h : (Rpn.ofText text).outcome = .ok tokens) :
    tokens.Perm ((Lexeme.ofText text).filterMap Lexeme.token?) := by
  obtain ⟨s, hreads, hgroups, rfl⟩ := outcome_ofText_iff.mp h
  simpa [State.result, State.tokens, State.outerTokens, State.start, hgroups] using hreads.perm

end Conversion

/-! ### Numbers keep their order -/

/-- The text of a token that is a number. -/
def Token.number? : Token → Option String
  | number text => some text
  | _ => none

/-- The text of a lexeme that is a number. -/
def Lexeme.number? : Lexeme → Option String
  | number chars => some (String.ofList chars)
  | _ => none

theorem Lexeme.bind_token?_number? (l : Lexeme) : l.token?.bind Token.number? = l.number? := by
  cases l with
  | number cs => rfl
  | name letters called =>
    cases h : Func.ofName? (String.ofList letters) <;> simp [token?, number?, h, Token.number?]
  | symbol c =>
    cases h : Operator.ofChar? c <;> simp [token?, number?, h, Token.number?]

namespace Conversion

open Lexeme

@[simp] theorem number?_token (p : Pending) : p.token.number? = none := by
  cases p <;> rfl

theorem Takes.filterMap_number? {s s' : State} {position : Nat} {l : Lexeme}
    (h : Takes s position l s') :
    s'.output.toList.filterMap Token.number? =
      s.output.toList.filterMap Token.number? ++ l.number?.toList := by
  cases h with
  | number hnum => simp [Token.number?, Lexeme.number?]
  | function f => simp [State.hold, Lexeme.number?]
  | opening => simp [State.openParen, Lexeme.number?]
  | closing hg => simp [Lexeme.number?]
  | operator op => simp [Lexeme.number?]

/-- Numbers are written out in the order in which they are read. -/
theorem Reads.filterMap_number? {s s' : State} {offset : Nat} {ls : List Lexeme}
    (h : Reads s offset ls s') :
    s'.output.toList.filterMap Token.number? =
      s.output.toList.filterMap Token.number? ++ ls.filterMap Lexeme.number? := by
  induction ls generalizing s offset with
  | nil => simp [reads_nil_iff.mp h]
  | cons l ls ih =>
    obtain ⟨m, htakes, hreads⟩ := reads_cons_iff.mp h
    rw [ih hreads, htakes.filterMap_number?, List.append_assoc]
    cases hnum : l.number? <;> simp [hnum]

end Conversion

/-! ### What lexemes stand for -/

namespace Lexeme

/-- Whether a lexeme is a parenthesis. -/
def isParen (l : Lexeme) : Bool :=
  l == symbol '(' || l == symbol ')'

/-- `l.StandsFor t`: the lexeme `l` is how the token `t` is written in an expression. A number has
the text, and the sign, of its lexeme. -/
inductive StandsFor : Lexeme → Token → Prop
  | number (cs : List Char) : StandsFor (number cs) (.number (String.ofList cs))
  | function (f : Func) : StandsFor (name f.name.toList true) (.function f)
  | operator (op : Operator) : StandsFor (symbol op.symbol) (.operator op)

end Lexeme

namespace Conversion

open Lexeme

/-- A lexeme that is taken is a parenthesis, or stands for a token. -/
theorem Takes.standsFor {s s' : State} {position : Nat} {l : Lexeme} (h : Takes s position l s') :
    (l.isParen = true ∧ l.token? = none) ∨
      ∃ t, l.isParen = false ∧ l.token? = some t ∧ l.StandsFor t := by
  cases h with
  | number => exact .inr ⟨_, rfl, rfl, .number _⟩
  | function f => exact .inr ⟨_, rfl, by simp [token?], .function f⟩
  | opening => exact .inl ⟨rfl, rfl⟩
  | closing => exact .inl ⟨rfl, rfl⟩
  | operator op => exact .inr ⟨_, by cases op <;> rfl, by simp [token?], .operator op⟩

theorem Reads.standsFor {s s' : State} {offset : Nat} {ls : List Lexeme}
    (h : Reads s offset ls s') :
    List.Forall₂ StandsFor (ls.filter fun l => !l.isParen) (ls.filterMap token?) := by
  induction ls generalizing s offset with
  | nil => exact .nil
  | cons l ls ih =>
    obtain ⟨m, htakes, hreads⟩ := reads_cons_iff.mp h
    rcases htakes.standsFor with ⟨hparen, htoken⟩ | ⟨t, hparen, htoken, hstands⟩
    · simpa [hparen, htoken] using ih hreads
    · simpa [hparen, htoken] using ⟨hstands, ih hreads⟩

/-- What is written out in the end are, in some order, the tokens for which the lexemes other than
parentheses stand; and the numbers among them are in the order of the text. -/
theorem exists_standsFor_of_outcome_ofText {text : String} {tokens : Rpn}
    (h : (Rpn.ofText text).outcome = .ok tokens) :
    ∃ ls ts, ls.flatMap chars = text.toList ∧ Tidy none ls ∧
      List.Forall₂ StandsFor (ls.filter fun l => !l.isParen) ts ∧
      tokens.Perm ts ∧ tokens.filterMap Token.number? = ts.filterMap Token.number? := by
  obtain ⟨s, hreads, hgroups, hresult⟩ := outcome_ofText_iff.mp h
  refine ⟨Lexeme.ofText text, (Lexeme.ofText text).filterMap token?, flatMap_chars_cut none _,
    tidy_cut none _, hreads.standsFor, perm_of_outcome_ofText h, ?_⟩
  have hnumbers := hreads.filterMap_number?
  have hheld : (s.held.map Pending.token).filterMap Token.number? = [] := by simp
  rw [hresult, State.result, List.filterMap_append, hheld, List.append_nil, hnumbers,
    List.filterMap_filterMap]
  simp [State.start, bind_token?_number?]

/-- The text is no expression: an operator lacks its right operand, and operands stand side by
side. -/
theorem exists_standsFor_of_outcome_ofText_malformed :
    (Rpn.ofText "2(3+)sin(-4)*-5").outcome = .ok [.number "2", .number "3", .operator .plus,
      .number "-4", .function .sin, .operator .times, .number "5", .operator .minus] ∧
    ∃ ls ts, ls.flatMap chars = "2(3+)sin(-4)*-5".toList ∧ Tidy none ls ∧
      List.Forall₂ StandsFor (ls.filter fun l => !l.isParen) ts ∧
      [.number "2", .number "3", .operator .plus, .number "-4", .function .sin, .operator .times,
        .number "5", .operator .minus].Perm ts ∧
      ts.filterMap Token.number? = ["2", "3", "-4", "5"] := by
  have hconvert : (Rpn.ofText "2(3+)sin(-4)*-5").outcome = .ok [.number "2", .number "3",
      .operator .plus, .number "-4", .function .sin, .operator .times, .number "5",
      .operator .minus] := rfl
  obtain ⟨ls, ts, hls, htidy, hstands, hperm, hnumbers⟩ :=
    exists_standsFor_of_outcome_ofText hconvert
  exact ⟨hconvert, ls, ts, hls, htidy, hstands, hperm, hnumbers.symm⟩

end Conversion

end Calculator
