import Calculator.Proofs.Conversion.Discipline

/-!
# One stack

What waits in a conversion may also be kept on a single stack, open parentheses among the rest. A
parenthesis binds less tightly than any operator; `)` unstacks down to it, and so does the end of
the text, where it must not be met. What the levels of a state do one after the other is done on
this stack entry by entry, with the same events:

    view_closeParen : State.view <$> s.closeParen position = unstackGroup position …
    view_operator   : State.view <$> s.operator op = … <$> unstackTighter op …
    finish_eq_drain : s.finish text = drain text …
-/

namespace Calculator

namespace Conversion

/-! ### The stack -/

namespace Stacked

/-- How tightly an entry of the stack binds; an open parenthesis does not. -/
def precedence : Stacked → Nat
  | pending p => p.precedence
  | opening _ => 0

/-- The token that is written out in the end; none for a parenthesis. -/
def token? : Stacked → Option Token
  | pending p => some p.token
  | opening _ => none

end Stacked

/-- Writes an entry of the stack out, unless it is a parenthesis. -/
def emit (output : Array Token) (top : Stacked) : Logged ParseError (Array Token) :=
  match top.token? with
  | some token => do
    .report (.written token)
    return output.push token
  | none => return output

/-- Unstacks down to an open parenthesis, which goes as well. -/
def unstackGroup (position : Nat) (output : Array Token) :
    List Stacked → Logged ParseError (Array Token × List Stacked)
  | [] => do
    .report (.unopened position)
    .fail (.unbalancedParen position)
  | .opening _ :: stack => return (output, stack)
  | .pending p :: stack => do
    let output ← emit output (.pending p)
    unstackGroup position output stack

/-- Unstacks all that binds at least as tightly as an operator. -/
def unstackTighter (op : Operator) (output : Array Token) :
    List Stacked → Logged ParseError (Array Token × List Stacked)
  | [] => return (output, [])
  | top :: stack =>
    if top.precedence < op.precedence then return (output, top :: stack)
    else do
      let output ← emit output top
      unstackTighter op output stack

/-- Unstacks everything at the end of `text`. -/
def drain (text : String) (output : Array Token) : List Stacked → Logged ParseError Rpn
  | [] => do
    .report (.converted text output.size)
    return output.toList
  | .opening position :: _ => do
    .report (.unclosed position)
    .fail (.unbalancedParen position)
  | .pending p :: stack => do
    let output ← emit output (.pending p)
    drain text output stack

/-! ### Unstacking -/

variable {s : State} {position offset : Nat}

/-- What a conversion and a scanner have in common: what is written out, and the stack from its top
down. -/
def State.view (s : State) : Array Token × List Stacked :=
  (s.output, s.stack.reverse)

/-- The stack below what is held back inside the innermost open parenthesis. -/
def below : List Group → List Stacked
  | [] => []
  | group :: groups => .opening group.position :: (group.outer.map .pending ++ below groups)

theorem reverse_stackOf (held : List Pending) (groups : List Group) :
    (stackOf held groups).reverse = held.map .pending ++ below groups := by
  induction groups generalizing held with
  | nil => rw [stackOf, below, List.map_reverse, List.reverse_reverse, List.append_nil]
  | cons group groups ih =>
    rw [stackOf, below, List.reverse_append, List.reverse_cons, List.map_reverse,
      List.reverse_reverse, List.append_assoc, List.singleton_append, ih]

theorem State.view_eq (s : State) :
    s.view = (s.output, s.held.map .pending ++ below s.groups) := by
  rw [view, stack, reverse_stackOf]

theorem State.view_hold (s : State) (p : Pending) :
    (s.hold p).view = (s.view.1, .pending p :: s.view.2) := by
  rw [view_eq, view_eq]
  rfl

theorem State.view_openParen (s : State) (position : Nat) :
    (s.openParen position).view = (s.view.1, .opening position :: s.view.2) := by
  rw [view_eq, view_eq]
  rfl

/-- At the bottom of a level of parentheses, nothing binds as tightly as an operator. -/
theorem precedence_head?_below (op : Operator) (groups : List Group) :
    ∀ top ∈ (below groups).head?, top.precedence < op.precedence := by
  cases groups with
  | nil => simp [below]
  | cons group groups =>
    rintro top ⟨⟩
    exact op.one_le_precedence

/-- Writes tokens out, all of them at once. -/
def write (output : Array Token) (tokens : List Token) : Logged ParseError (Array Token) :=
  ⟨tokens.map .written, .ok (output ++ tokens)⟩

theorem write_nil (output : Array Token) : write output [] = pure output := by
  rw [write, Array.appendList_nil]
  rfl

theorem write_cons (output : Array Token) (p : Pending) (tokens : List Token) :
    write output (p.token :: tokens) =
      emit output (.pending p) >>= fun output => write output tokens := by
  rw [write, Array.appendList_cons]
  rfl

theorem unstackGroup_held (position : Nat) (output : Array Token) (held : List Pending)
    (stack : List Stacked) :
    unstackGroup position output (held.map .pending ++ stack) =
      write output (held.map Pending.token) >>= fun output =>
        unstackGroup position output stack := by
  induction held generalizing output with
  | nil => rw [List.map_nil, List.map_nil, write_nil, pure_bind, List.nil_append]
  | cons p held ih =>
    rw [List.map_cons, List.cons_append, unstackGroup, List.map_cons, write_cons, bind_assoc]
    exact congrArg _ (funext fun output => ih output)

theorem drain_held (text : String) (output : Array Token) (held : List Pending)
    (stack : List Stacked) :
    drain text output (held.map .pending ++ stack) =
      write output (held.map Pending.token) >>= fun output => drain text output stack := by
  induction held generalizing output with
  | nil => rw [List.map_nil, List.map_nil, write_nil, pure_bind, List.nil_append]
  | cons p held ih =>
    rw [List.map_cons, List.cons_append, drain, List.map_cons, write_cons, bind_assoc]
    exact congrArg _ (funext fun output => ih output)

/-- An operator unstacks what binds as tightly, and stops at what does not. -/
theorem unstackTighter_held (op : Operator) (output : Array Token) (held : List Pending)
    {stack : List Stacked} (h : ∀ top ∈ stack.head?, top.precedence < op.precedence) :
    unstackTighter op output (held.map .pending ++ stack) =
      (fun output => (output,
        (held.dropWhile fun p => op.precedence ≤ p.precedence).map .pending ++ stack)) <$>
        write output
          ((held.takeWhile fun p => op.precedence ≤ p.precedence).map Pending.token) := by
  induction held generalizing output with
  | nil =>
    have hstop : unstackTighter op output stack = pure (output, stack) := by
      cases stack with
      | nil => rfl
      | cons top stack => exact if_pos (h top rfl)
    rw [List.takeWhile_nil, List.dropWhile_nil, List.map_nil, List.map_nil, write_nil, map_pure]
    exact hstop
  | cons p held ih =>
    rw [List.takeWhile_cons, List.dropWhile_cons, List.map_cons, List.cons_append, unstackTighter]
    by_cases hle : op.precedence ≤ p.precedence
    · have hge : ¬(Stacked.pending p).precedence < op.precedence := Nat.not_lt.mpr hle
      rw [if_neg hge, if_pos (decide_eq_true hle), if_pos (decide_eq_true hle), List.map_cons,
        write_cons, map_bind]
      exact congrArg _ (funext fun output => ih output)
    · have hlt : (Stacked.pending p).precedence < op.precedence := Nat.lt_of_not_le hle
      have hfalse : ¬decide (op.precedence ≤ p.precedence) = true := by simpa using hle
      rw [if_pos hlt, if_neg hfalse, if_neg hfalse, List.map_nil, write_nil, map_pure]
      rfl

/-! ### One lexeme on the stack -/

theorem release_eq (s : State) :
    s.release = (fun output => ⟨output, [], s.groups⟩) <$>
      write s.output (s.held.map Pending.token) := by
  rw [Logged.map_eq]
  rfl

theorem view_closeParen (s : State) (position : Nat) :
    State.view <$> s.closeParen position = unstackGroup position s.view.1 s.view.2 := by
  obtain ⟨output, held, groups⟩ := s
  rw [State.view_eq, unstackGroup_held, State.closeParen, release_eq, bind_map_left, map_bind]
  refine congrArg _ (funext fun output => ?_)
  cases groups with
  | nil => rfl
  | cons group groups => exact congrArg pure (State.view_eq ⟨output, group.outer, groups⟩)

theorem finish_eq_drain (s : State) (text : String) :
    s.finish text = drain text s.view.1 s.view.2 := by
  obtain ⟨output, held, groups⟩ := s
  rw [State.view_eq, drain_held, State.finish, release_eq, bind_map_left]
  refine congrArg _ (funext fun output => ?_)
  cases groups <;> rfl

theorem view_operator (s : State) (op : Operator) :
    State.view <$> s.operator op =
      (fun waiting => (waiting.1, .pending (.operator op) :: waiting.2)) <$>
        unstackTighter op s.view.1 s.view.2 := by
  obtain ⟨output, held, groups⟩ := s
  rw [State.view_eq, unstackTighter_held op output held (precedence_head?_below op groups),
    Functor.map_map]
  apply Logged.ext
  · rw [Logged.events_map, State.events_operator, Logged.events_map]
    rfl
  · rw [Logged.outcome_map, State.outcome_operator, Logged.outcome_map]
    exact congrArg Except.ok (State.view_eq _)

end Conversion

end Calculator
