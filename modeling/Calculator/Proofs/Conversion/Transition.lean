import Calculator.Conversion
import Mathlib.Algebra.Ring.Nat

/-!
# What a lexeme does to a conversion

A lexeme that is accepted changes the state of a conversion in one of five ways
(`Takes`), and a text is converted if its lexemes take the start to a state without
open parentheses:

    outcome_step_iff   : (s.step (position, l)).outcome = .ok s' ↔ Takes s position l s'
    outcome_ofText_iff : (Rpn.ofText text).outcome = .ok tokens ↔ ∃ s, …

All that is said of conversions elsewhere follows from these cases.
-/

namespace Calculator.Conversion

/-- `Takes s position l s'`: the lexeme `l` at a byte offset takes the state `s` to `s'`. -/
inductive Takes (s : State) (position : Nat) : Lexeme → State → Prop
  | number {cs : List Char} :
    (Numeral.ofText? (String.ofList cs)).isSome = true →
      Takes s position (.number cs)
        { s with output := s.output ++ [Token.number (String.ofList cs)] }
  | function (f : Func) : Takes s position (.name f.name.toList true) (s.hold (.function f))
  | opening : Takes s position (.symbol '(') (s.openParen position)
  | closing {group : Group} {groups : List Group} :
    s.groups = group :: groups →
      Takes s position (.symbol ')') ⟨s.output ++ s.held.map Pending.token, group.outer, groups⟩
  | operator (op : Operator) :
    Takes s position (.symbol op.symbol)
      ⟨s.output ++ (s.held.takeWhile fun p => op.precedence ≤ p.precedence).map Pending.token,
        .operator op :: s.held.dropWhile fun p => op.precedence ≤ p.precedence, s.groups⟩

/-! ### One lexeme -/

theorem Takes.of_number {s s' : State} {position : Nat} {cs : List Char}
    (h : (s.number position (String.ofList cs)).outcome = .ok s') :
    Takes s position (.number cs) s' := by
  unfold State.number at h
  split at h
  · next hnum =>
    cases h
    exact .number hnum
  · cases h

theorem Takes.of_name {s s' : State} {position : Nat} {letters : List Char} {called : Bool}
    (h : (s.name position (String.ofList letters) called).outcome = .ok s') :
    Takes s position (.name letters called) s' := by
  unfold State.name at h
  split at h
  · next f hf =>
    cases h
    rw [Func.ofName?_eq_some_iff] at hf
    rw [← String.toList_ofList (l := letters), hf]
    exact .function f
  · cases h

theorem Takes.of_symbol {s s' : State} {position : Nat} {c : Char}
    (h : (s.symbol position c).outcome = .ok s') : Takes s position (.symbol c) s' := by
  unfold State.symbol at h
  split at h
  · next hc =>
    cases h
    exact hc ▸ .opening
  · split at h
    · next hc =>
      cases hg : s.groups with
      | nil => simp [State.outcome_closeParen_of_nil hg] at h
      | cons group groups =>
        rw [State.outcome_closeParen_of_groups hg] at h
        cases h
        exact hc ▸ .closing hg
    · split at h
      · next op hop =>
        rw [State.outcome_operator] at h
        cases h
        rw [Operator.ofChar?_eq_some_iff.mp hop]
        exact .operator op
      · cases h

theorem outcome_step_iff {s s' : State} {position : Nat} {l : Lexeme} :
    (s.step (position, l)).outcome = .ok s' ↔ Takes s position l s' := by
  constructor
  · intro h
    cases l with
    | number cs => exact .of_number h
    | name letters called => exact .of_name h
    | symbol c => exact .of_symbol h
  · intro h
    cases h with
    | number hnum => simp [State.step, State.number, hnum]
    | function f => simp [State.step, State.name]
    | opening => rfl
    | closing hg => exact State.outcome_closeParen_of_groups hg position
    | operator op =>
      rw [← State.outcome_operator]
      cases op <;> rfl

/-! ### Many lexemes -/

/-- `Reads s offset ls s'`: the lexemes `ls`, the first at `offset`, take `s` to `s'`. -/
def Reads (s : State) (offset : Nat) (ls : List Lexeme) (s' : State) : Prop :=
  (s.run (Lexeme.place offset ls)).outcome = .ok s'

theorem outcome_run_cons (s : State) (offset : Nat) (l : Lexeme) (ls : List Lexeme) :
    (s.run (Lexeme.place offset (l :: ls))).outcome =
      (s.step (offset, l)).outcome.bind fun m =>
        (m.run (Lexeme.place (offset + l.size) ls)).outcome := by
  simp [State.run, Lexeme.place]

theorem reads_nil_iff {s s' : State} {offset : Nat} : Reads s offset [] s' ↔ s' = s := by
  simp [Reads, Lexeme.place, State.run, eq_comm]

theorem reads_cons_iff {s s' : State} {offset : Nat} {l : Lexeme} {ls : List Lexeme} :
    Reads s offset (l :: ls) s' ↔
      ∃ m, Takes s offset l m ∧ Reads m (offset + l.size) ls s' := by
  rw [Reads, outcome_run_cons]
  constructor
  · intro h
    cases hstep : (s.step (offset, l)).outcome with
    | error e => simp [hstep, Except.bind] at h
    | ok m =>
      rw [hstep] at h
      exact ⟨m, outcome_step_iff.mp hstep, h⟩
  · intro h
    obtain ⟨m, htakes, h⟩ := h
    rw [outcome_step_iff.mpr htakes]
    exact h

theorem reads_append_iff {s s' : State} {offset : Nat} {ls ls' : List Lexeme} :
    Reads s offset (ls ++ ls') s' ↔
      ∃ m, Reads s offset ls m ∧ Reads m (offset + (ls.map Lexeme.size).sum) ls' s' := by
  induction ls generalizing s offset with
  | nil => simp [reads_nil_iff]
  | cons l ls ih =>
    rw [List.cons_append, reads_cons_iff]
    simp only [ih, reads_cons_iff, List.map_cons, List.sum_cons, ← Nat.add_assoc]
    constructor
    · intro h
      obtain ⟨m, htakes, n, hm, hn⟩ := h
      exact ⟨n, ⟨m, htakes, hm⟩, hn⟩
    · intro h
      obtain ⟨n, ⟨m, htakes, hm⟩, hn⟩ := h
      exact ⟨m, htakes, n, hm, hn⟩

/-! ### The whole text -/

/-- What has been written out when the text ends here. -/
def State.result (s : State) : Rpn :=
  s.output.toList ++ s.held.map Pending.token

theorem outcome_finish_iff {s : State} (text : String) {tokens : Rpn} :
    (s.finish text).outcome = .ok tokens ↔ s.groups = [] ∧ tokens = s.result := by
  cases hg : s.groups with
  | nil => simp [State.outcome_finish_of_nil hg, State.result, eq_comm]
  | cons group groups => simp [State.outcome_finish_of_groups hg]

/-- A text is converted if its lexemes lead to a state without open parentheses. -/
theorem outcome_ofText_iff {text : String} {tokens : Rpn} :
    (Rpn.ofText text).outcome = .ok tokens ↔
      ∃ s, Reads .start 0 (Lexeme.ofText text) s ∧ s.groups = [] ∧ tokens = s.result := by
  have hbind : (Rpn.ofText text).outcome =
      (State.start.run (Lexeme.place 0 (Lexeme.ofText text))).outcome.bind fun s =>
        (s.finish text).outcome := by
    simp [Rpn.ofText]
  rw [hbind]
  simp only [← outcome_finish_iff text, Reads]
  cases (State.start.run (Lexeme.place 0 (Lexeme.ofText text))).outcome with
  | error e => simp [Except.bind]
  | ok s => simp [Except.bind]

end Calculator.Conversion
