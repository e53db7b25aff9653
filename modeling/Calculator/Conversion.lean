import Calculator.Decimal.Numeral
import Calculator.Error
import Calculator.Lexeme
import Calculator.Logged

/-!
# From an expression to postfix order

The conversion reads the lexemes of a text once, from left to right. Numbers are
written out at once. Operators and functions are held back until their last
operand has been written out, which is known when an operator follows that binds
no tighter, or a parenthesis closes, or the text ends. What an opening
parenthesis finds held back stays outside of it until it is closed.

Only the text of single lexemes and the pairing of parentheses are checked here.
Whether every operator has its operands shows in the evaluation:

    Rpn.ofText "2+"  writes 2 + although the sum has one operand only
-/

namespace Calculator.Conversion

/-- An opening parenthesis that waits for its partner: where it is, and what is held back outside
of it. -/
structure Group where
  position : Nat
  outer : List Pending
  deriving DecidableEq

/-- How far a conversion has come. -/
structure State where
  /-- The tokens written out. -/
  output : Array Token
  /-- What is held back inside the innermost open parenthesis, the latest first. -/
  held : List Pending
  /-- The open parentheses, the innermost first. -/
  groups : List Group
  deriving DecidableEq

namespace State

/-- Nothing is written out or held back. -/
def start : State :=
  ⟨#[], [], []⟩

/-- Writes tokens out and reports each of them. -/
def write (s : State) (tokens : List Token) : Logged ParseError State :=
  ⟨tokens.map .written, .ok { s with output := s.output ++ tokens }⟩

/-- Holds an operator or function back. -/
def hold (s : State) (p : Pending) : State :=
  { s with held := p :: s.held }

/-- Writes out all that is held back inside the innermost open parenthesis. -/
def release (s : State) : Logged ParseError State :=
  { s with held := [] }.write (s.held.map Pending.token)

/-! ### One lexeme -/

/-- Writes a number out, if it is a numeral. -/
def number (s : State) (position : Nat) (text : String) : Logged ParseError State :=
  if (Numeral.ofText? text).isSome then s.write [.number text]
  else .fail (.invalidNumber text position)

/-- Holds a function back. -/
def name (s : State) (position : Nat) (name : String) (called : Bool) : Logged ParseError State :=
  match called, Func.ofName? name with
  | true, some f => pure (s.hold (.function f))
  | _, _ => .fail (.unknownFunction name position)

/-- Opens a parenthesis. -/
def openParen (s : State) (position : Nat) : State :=
  { s with held := [], groups := ⟨position, s.held⟩ :: s.groups }

/-- Closes the innermost open parenthesis. -/
def closeParen (s : State) (position : Nat) : Logged ParseError State := do
  let s ← s.release
  match s.groups with
  | group :: groups => return { s with held := group.outer, groups }
  | [] =>
    .report (.unopened position)
    .fail (.unbalancedParen position)

/-- Holds an operator back, behind all that binds at least as tightly. -/
def operator (s : State) (op : Operator) : Logged ParseError State := do
  let binds (p : Pending) : Bool := op.precedence ≤ p.precedence
  let kept := s.held.dropWhile binds
  let s ← { s with held := kept }.write ((s.held.takeWhile binds).map Pending.token)
  return s.hold (.operator op)

/-- Takes a character that stands for itself. -/
def symbol (s : State) (position : Nat) (c : Char) : Logged ParseError State :=
  if c = '(' then pure (s.openParen position)
  else if c = ')' then s.closeParen position
  else match Operator.ofChar? c with
    | some op => s.operator op
    | none => do
      .report (.unexpected c position)
      .fail (.invalidCharacter c position)

/-- Takes the lexeme at a byte offset. -/
def step (s : State) : Nat × Lexeme → Logged ParseError State
  | (position, .number chars) => s.number position (String.ofList chars)
  | (position, .name letters called) => s.name position (String.ofList letters) called
  | (position, .symbol c) => s.symbol position c

/-! ### The whole text -/

/-- Takes lexemes one after the other. -/
def run (s : State) (lexemes : List (Nat × Lexeme)) : Logged ParseError State :=
  lexemes.foldlM step s

/-- Ends the conversion of `text`: no parenthesis may be open. -/
def finish (s : State) (text : String) : Logged ParseError Rpn := do
  let s ← s.release
  match s.groups with
  | [] =>
    .report (.converted text s.output.size)
    return s.output.toList
  | group :: _ =>
    .report (.unclosed group.position)
    .fail (.unbalancedParen group.position)

/-! ### What the operations write -/

@[simp] theorem outcome_write (s : State) (tokens : List Token) :
    (s.write tokens).outcome = .ok { s with output := s.output ++ tokens } := rfl

@[simp] theorem events_write (s : State) (tokens : List Token) :
    (s.write tokens).events = tokens.map .written := rfl

@[simp] theorem outcome_release (s : State) :
    s.release.outcome = .ok ⟨s.output ++ s.held.map Pending.token, [], s.groups⟩ := rfl

@[simp] theorem events_release (s : State) :
    s.release.events = (s.held.map Pending.token).map .written := rfl

/-- A parenthesis closes if one is open. -/
theorem outcome_closeParen_of_groups {s : State} {group : Group} {groups : List Group}
    (h : s.groups = group :: groups) (position : Nat) :
    (s.closeParen position).outcome =
      .ok ⟨s.output ++ s.held.map Pending.token, group.outer, groups⟩ := by
  simp [closeParen, h, Except.bind]

theorem outcome_closeParen_of_nil {s : State} (h : s.groups = []) (position : Nat) :
    (s.closeParen position).outcome = .error (.unbalancedParen position) := by
  simp [closeParen, h, Except.bind]

theorem events_closeParen_of_groups {s : State} {group : Group} {groups : List Group}
    (h : s.groups = group :: groups) (position : Nat) :
    (s.closeParen position).events = (s.held.map Pending.token).map .written := by
  rw [closeParen, Logged.events_bind_ok (outcome_release s)]
  simp [h]

/-- What is held back is written out even if no parenthesis is open. -/
theorem events_closeParen_of_nil {s : State} (h : s.groups = []) (position : Nat) :
    (s.closeParen position).events =
      (s.held.map Pending.token).map .written ++ [.unopened position] := by
  rw [closeParen, Logged.events_bind_ok (outcome_release s)]
  simp [h]

/-- An operator is always taken: what binds at least as tightly is written out, the rest stays. -/
theorem outcome_operator (s : State) (op : Operator) :
    (s.operator op).outcome =
      .ok ⟨s.output ++ (s.held.takeWhile fun p => op.precedence ≤ p.precedence).map Pending.token,
        .operator op :: s.held.dropWhile fun p => op.precedence ≤ p.precedence, s.groups⟩ := by
  simp [operator, hold, Except.map]

theorem events_operator (s : State) (op : Operator) :
    (s.operator op).events =
      ((s.held.takeWhile fun p => op.precedence ≤ p.precedence).map Pending.token).map
        .written := by
  rw [operator, Logged.events_bind_ok (outcome_write _ _)]
  simp

/-- The end of the text is accepted if no parenthesis is open. -/
theorem outcome_finish_of_nil {s : State} (h : s.groups = []) (text : String) :
    (s.finish text).outcome = .ok (s.output.toList ++ s.held.map Pending.token) := by
  simp [finish, h, Except.bind, Except.map]

theorem outcome_finish_of_groups {s : State} {group : Group} {groups : List Group}
    (h : s.groups = group :: groups) (text : String) :
    (s.finish text).outcome = .error (.unbalancedParen group.position) := by
  simp [finish, h, Except.bind]

theorem events_finish_of_nil {s : State} (h : s.groups = []) (text : String) :
    (s.finish text).events =
      (s.held.map Pending.token).map .written ++
        [.converted text (s.output.toList ++ s.held.map Pending.token).length] := by
  rw [finish, Logged.events_bind_ok (outcome_release s)]
  simp [h, ← Array.length_toList]

theorem events_finish_of_groups {s : State} {group : Group} {groups : List Group}
    (h : s.groups = group :: groups) (text : String) :
    (s.finish text).events =
      (s.held.map Pending.token).map .written ++ [.unclosed group.position] := by
  rw [finish, Logged.events_bind_ok (outcome_release s)]
  simp [h]

/-- The lexemes may be taken in two goes. -/
theorem outcome_run_append (s : State) (ls ls' : List (Nat × Lexeme)) :
    (s.run (ls ++ ls')).outcome = (s.run ls).outcome.bind fun s' => (s'.run ls').outcome := by
  induction ls generalizing s with
  | nil => simp [run, Except.bind]
  | cons l ls ih =>
    simp only [run, List.cons_append, List.foldlM_cons, Logged.outcome_bind] at ih ⊢
    cases (s.step l).outcome with
    | error e => rfl
    | ok s' => exact ih s'

end State

end Calculator.Conversion

namespace Calculator

/-- The postfix form of an expression, which is expected in small letters and without blanks. -/
def Rpn.ofText (text : String) : Logged ParseError Rpn := do
  let s ← Conversion.State.start.run (Lexeme.place 0 (Lexeme.ofText text))
  s.finish text

example : (Rpn.ofText "2^3^2").outcome.map Rpn.text = .ok "2 3 ^ 2 ^" := by rfl

example : (Rpn.ofText "2+").outcome.map Rpn.text = .ok "2 +" := by rfl

example : (Rpn.ofText "2+)").outcome = .error (.unbalancedParen 2) := by rfl

end Calculator
