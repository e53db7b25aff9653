import Calculator.Grammar
import Calculator.Proofs.Conversion.Transition
import Calculator.Proofs.Evaluation.Stack
import Calculator.Proofs.Lexeme.Cut
import Calculator.Proofs.Numeral.Plain

/-!
# Written expressions are converted and evaluated

A text of the grammar is converted to the postfix form of its tree, and evaluated
to the value of its tree. The invariant is `Converts`: what is held back when the
characters of a tree begin stays below what they add, and what they add binds at
least as tightly as their rank. So the next operator finds out how much of it to
write out by looking at precedences only.

    Written.converts : Written rank first cs e → … → Converts rank (Lexeme.cut previous cs) e
    outcome_ofText_and_solve : e.WrittenAs text → (Rpn.ofText text).outcome = .ok e.rpn ∧ …
-/

namespace Calculator.Expr

open Conversion

/-! ### The invariant -/

/-- `Converts rank ls e`: behind all that binds less tightly than `rank`, the lexemes `ls` write out
the postfix form of `e`, but for a last part that is held back and binds at least as tightly. -/
def Converts (rank : Nat) (ls : List Lexeme) (e : Expr) : Prop :=
  ∀ (s : State) (offset : Nat), (∀ p ∈ s.held.head?, p.precedence < rank) →
    ∃ (output : Array Token) (held : List Pending),
      Reads s offset ls ⟨output, held ++ s.held, s.groups⟩ ∧
        (∀ p ∈ held, rank ≤ p.precedence) ∧
        output.toList ++ held.map Pending.token = s.output.toList ++ e.rpn

theorem Converts.lower {rank : Nat} {ls : List Lexeme} {e : Expr} (h : Converts (rank + 1) ls e) :
    Converts rank ls e := by
  intro s offset hbelow
  obtain ⟨output, held, hreads, habove, hout⟩ :=
    h s offset fun p hp => Nat.lt_succ_of_lt (hbelow p hp)
  exact ⟨output, held, hreads, fun p hp => Nat.le_of_succ_le (habove p hp), hout⟩

theorem converts_number {cs : List Char}
    (h : (Numeral.ofText? (String.ofList cs)).isSome = true) :
    Converts 4 [.number cs] (.number (String.ofList cs)) := by
  intro s offset _
  refine ⟨s.output ++ [Token.number (String.ofList cs)], [], ?_, by simp, by simp [rpn]⟩
  exact reads_cons_iff.mpr ⟨_, .number h, reads_nil_iff.mpr rfl⟩

/-- In parentheses nothing stays held back. -/
theorem Converts.reads_paren {ls : List Lexeme} {e : Expr} (h : Converts 1 ls e) (s : State)
    (offset : Nat) :
    ∃ output : Array Token,
      Reads s offset (.symbol '(' :: (ls ++ [.symbol ')'])) ⟨output, s.held, s.groups⟩ ∧
        output.toList = s.output.toList ++ e.rpn := by
  obtain ⟨output, held, hreads, -, hout⟩ :=
    h (s.openParen offset) (offset + (Lexeme.symbol '(').size) (by simp [State.openParen])
  refine ⟨output ++ ((held ++ []).map Pending.token : List Token), ?_, ?_⟩
  · refine reads_cons_iff.mpr ⟨_, .opening, reads_append_iff.mpr ⟨_, hreads, ?_⟩⟩
    exact reads_cons_iff.mpr ⟨_, .closing rfl, reads_nil_iff.mpr rfl⟩
  · simpa [State.openParen] using hout

theorem Converts.paren {ls : List Lexeme} {e : Expr} (h : Converts 1 ls e) :
    Converts 4 (.symbol '(' :: (ls ++ [.symbol ')'])) e := by
  intro s offset _
  obtain ⟨output, hreads, hout⟩ := h.reads_paren s offset
  exact ⟨output, [], hreads, by simp, by simpa using hout⟩

theorem Converts.call {ls : List Lexeme} {e : Expr} (h : Converts 1 ls e) (f : Func) :
    Converts 4 (.name f.name.toList true :: .symbol '(' :: (ls ++ [.symbol ')'])) (.call f e) := by
  intro s offset _
  obtain ⟨output, hreads, hout⟩ :=
    h.reads_paren (s.hold (.function f)) (offset + (Lexeme.name f.name.toList true).size)
  refine ⟨output, [.function f], reads_cons_iff.mpr ⟨_, .function f, hreads⟩, ?_, ?_⟩
  · simp [Pending.precedence, Func.precedence]
  · simp [hout, State.hold, Pending.token, rpn]

/-- Of all that is held back, an operator writes out what its left operand has left behind. -/
theorem span_held {k : Nat} {held outer : List Pending} (habove : ∀ p ∈ held, k ≤ p.precedence)
    (hbelow : ∀ p ∈ outer.head?, p.precedence < k) :
    (held ++ outer).takeWhile (fun p => k ≤ p.precedence) = held ∧
      (held ++ outer).dropWhile (fun p => k ≤ p.precedence) = outer := by
  have hall : ∀ p ∈ held, decide (k ≤ p.precedence) = true :=
    fun p hp => decide_eq_true (habove p hp)
  rw [List.takeWhile_append_of_pos hall, List.dropWhile_append_of_pos hall]
  cases outer with
  | nil => simp
  | cons p outer =>
    have hp : ¬k ≤ p.precedence := Nat.not_le_of_lt (hbelow p rfl)
    simp [hp]

theorem Converts.binary {op : Operator} {ls ls' : List Lexeme} {l r : Expr}
    (hl : Converts op.precedence ls l) (hr : Converts (op.precedence + 1) ls' r) :
    Converts op.precedence (ls ++ .symbol op.symbol :: ls') (.binary op l r) := by
  intro s offset hbelow
  obtain ⟨output, held, hreads, habove, hout⟩ := hl s offset hbelow
  obtain ⟨htake, hdrop⟩ := span_held habove hbelow
  let behind := offset + (ls.map Lexeme.size).sum
  let m : State := ⟨output ++ held.map Pending.token, .operator op :: s.held, s.groups⟩
  have hop : Takes ⟨output, held ++ s.held, s.groups⟩ behind (.symbol op.symbol) m := by
    have h := @Takes.operator ⟨output, held ++ s.held, s.groups⟩ behind op
    rwa [htake, hdrop] at h
  obtain ⟨output', held', hreads', habove', hout'⟩ :=
    hr m (behind + (Lexeme.symbol op.symbol).size) (by simp [m, Pending.precedence])
  refine ⟨output', held' ++ [.operator op], ?_, ?_, ?_⟩
  · rw [List.append_assoc, reads_append_iff]
    exact ⟨_, hreads, reads_cons_iff.mpr ⟨m, hop, hreads'⟩⟩
  · intro p hp
    rcases List.mem_append.mp hp with hp | hp
    · exact Nat.le_of_succ_le (habove' p hp)
    · rw [List.mem_singleton.mp hp]
      exact Nat.le_refl _
  · calc output'.toList ++ (held' ++ [Pending.operator op]).map Pending.token
        = output'.toList ++ held'.map Pending.token ++ [Token.operator op] := by
          simp [Pending.token]
      _ = m.output.toList ++ r.rpn ++ [Token.operator op] := by rw [hout']
      _ = output.toList ++ held.map Pending.token ++ r.rpn ++ [Token.operator op] := by simp [m]
      _ = s.output.toList ++ (Expr.binary op l r).rpn := by simp [hout, rpn]

/-! ### From characters to lexemes -/

/-- An expression ends with a digit, a point or a parenthesis that is closed. -/
theorem Written.getLast? {rank : Nat} {first : Bool} {cs : List Char} {e : Expr}
    (h : Written rank first cs e) :
    ∃ c, cs.getLast? = some c ∧ (isNumberChar c = true ∨ c = ')') := by
  induction h with
  | @unsigned _ cs h =>
    have hlast := List.getLast?_eq_some_getLast (h.ne_nil)
    exact ⟨_, hlast, .inl (h.1 _ (List.getLast_mem _))⟩
  | @signed cs h =>
    have hlast := List.getLast?_eq_some_getLast (h.ne_nil)
    refine ⟨cs.getLast (h.ne_nil), ?_, .inl (h.1 _ (List.getLast_mem _))⟩
    rw [List.getLast?_cons, hlast]
    rfl
  | paren => exact ⟨')', List.getLast?_concat, .inr rfl⟩
  | call => exact ⟨')', List.getLast?_concat, .inr rfl⟩
  | binary op hl hr ihl ihr =>
    obtain ⟨c, hc, hend⟩ := ihr
    exact ⟨c, by simp [List.getLast?_cons, hc], hend⟩
  | lower _ _ ih => exact ih

/-- Behind an expression, a minus sign is an operator. -/
theorem Written.isUnaryMinus_getLast? {rank : Nat} {first : Bool} {cs : List Char} {e : Expr}
    (h : Written rank first cs e) (previous : Option Char) :
    isUnaryMinus '-' (cs.getLast?.or previous) = false := by
  obtain ⟨c, hc, hend⟩ := h.getLast?
  rw [hc, Option.some_or, isUnaryMinus_some]
  rintro rfl
  rcases hend with hend | hend
  · exact absurd hend (by decide)
  · exact absurd hend (by decide)

theorem Written.converts {rank : Nat} {first : Bool} {cs : List Char} {e : Expr}
    (h : Written rank first cs e) (previous : Option Char)
    (hfirst : first = true → isUnaryMinus '-' previous = true) :
    Converts rank (Lexeme.cut previous cs) e := by
  induction h generalizing previous with
  | @unsigned _ cs h =>
    have hfits : (Lexeme.number cs).Fits previous none := .unsigned h.ne_nil h.1 (by simp)
    rw [show cs = (Lexeme.number cs).chars from rfl, Lexeme.cut_chars hfits]
    exact converts_number ((Numeral.isSome_ofText?_iff h.1).mpr h)
  | @signed cs h =>
    have hfits : (Lexeme.number ('-' :: cs)).Fits previous none :=
      .signed (hfirst rfl) h.1 (by simp)
    rw [show '-' :: cs = (Lexeme.number ('-' :: cs)).chars from rfl, Lexeme.cut_chars hfits]
    exact converts_number ((Numeral.isSome_ofText?_minus_iff h.1).mpr h)
  | @paren _ cs _ _ ih =>
    rw [List.cons_append, Lexeme.cut_paren]
    exact (ih none fun _ => rfl).paren
  | @call _ cs _ f _ ih =>
    rw [List.append_assoc, List.cons_append, Lexeme.cut_call]
    exact (ih none fun _ => rfl).call f
  | @binary _ left right _ _ op hl hr ihl ihr =>
    have hcut : Lexeme.cut previous (left ++ op.symbol :: right) =
        Lexeme.cut previous left ++ .symbol op.symbol :: Lexeme.cut (some op.symbol) right := by
      rw [Lexeme.cut_append, Lexeme.cut_operator (hl.isUnaryMinus_getLast? previous)]
      rintro l - c ⟨⟩
      exact l.sticksTo_operator op
    rw [hcut]
    exact (ihl previous hfirst).binary (ihr _ (by simp))
  | lower _ _ ih => exact (ih previous hfirst).lower

/-! ### Values -/

/-- Every number of a written expression is a numeral. -/
theorem Written.exists_value? {rank : Nat} {first : Bool} {cs : List Char} {e : Expr}
    (h : Written rank first cs e) : ∃ value, e.value? = some value := by
  induction h with
  | unsigned h =>
    apply Option.isSome_iff_exists.mp
    rw [value?, readNumber?, Option.isSome_map]
    exact (Numeral.isSome_ofText?_iff h.1).mpr h
  | signed h =>
    apply Option.isSome_iff_exists.mp
    rw [value?, readNumber?, Option.isSome_map]
    exact (Numeral.isSome_ofText?_minus_iff h.1).mpr h
  | paren _ ih => exact ih
  | call f _ ih =>
    obtain ⟨x, hx⟩ := ih
    exact ⟨f.apply x, by simp [value?, hx]⟩
  | binary op _ _ ihl ihr =>
    obtain ⟨x, hx⟩ := ihl
    obtain ⟨y, hy⟩ := ihr
    exact ⟨op.apply x y, by simp [value?, hx, hy]⟩
  | lower _ _ ih => exact ih

/-! ### The whole text -/

/-- A written expression is converted to the postfix form of its tree. -/
theorem WrittenAs.outcome_ofText {e : Expr} {text : String} (h : e.WrittenAs text) :
    (Rpn.ofText text).outcome = .ok e.rpn := by
  obtain ⟨output, held, hreads, -, hout⟩ :=
    Written.converts h none (fun _ => rfl) .start 0 (by simp [State.start])
  refine outcome_ofText_iff.mpr ⟨_, hreads, rfl, ?_⟩
  simpa [State.result, State.start] using hout.symm

/-- A written expression is converted to the postfix form of its tree and has the value of its
tree; neither fails. -/
theorem outcome_ofText_and_solve {e : Expr} {text : String} (h : e.WrittenAs text) :
    (Rpn.ofText text).outcome = .ok e.rpn ∧
      ∃ value, e.value? = some value ∧ (solve text).outcome = .ok value := by
  obtain ⟨value, hvalue⟩ := Written.exists_value? h
  refine ⟨h.outcome_ofText, value, hvalue, ?_⟩
  exact outcome_solve_iff.mpr ⟨e.rpn, h.outcome_ofText, Rpn.outcome_evaluate_rpn hvalue⟩

/-- Signs at the start and behind a parenthesis, a call, and powers grouped to the left. -/
theorem outcome_ofText_and_solve_signed_powers :
    WrittenAs (.binary .times (.number "-2") (.binary .power (.binary .power
      (.call .sqrt (.number "-9")) (.number "2")) (.number ".5"))) "-2*sqrt(-9)^2^.5" ∧
    (Rpn.ofText "-2*sqrt(-9)^2^.5").outcome = .ok [.number "-2", .number "-9", .function .sqrt,
      .number "2", .operator .power, .number ".5", .operator .power, .operator .times] ∧
    ∃ value, (solve "-2*sqrt(-9)^2^.5").outcome = .ok value := by
  have hcall : Written 4 false "sqrt(-9)".toList (.call .sqrt (.number "-9")) := by
    have h9 : Written 4 true ['-', '9'] (.number "-9") := .signed (by decide)
    exact .call .sqrt (h9.mono (by decide) (by decide))
  have h2 : Written 4 false ['2'] (.number "2") := .unsigned (by decide)
  have h5 : Written 4 false ['.', '5'] (.number ".5") := .unsigned (by decide)
  have hpower : Written 3 false "sqrt(-9)^2".toList
      (.binary .power (.call .sqrt (.number "-9")) (.number "2")) :=
    .binary .power (hcall.mono (by decide) (by decide)) h2
  have hpowers := Written.binary .power hpower h5
  have hleft : Written 2 true ['-', '2'] (.number "-2") := by
    have hm2 : Written 4 true ['-', '2'] (.number "-2") := .signed (by decide)
    exact hm2.mono (by decide) (by decide)
  have hall : WrittenAs _ "-2*sqrt(-9)^2^.5" := .lower (by decide) (.binary .times hleft hpowers)
  obtain ⟨hconvert, value, -, hsolve⟩ := outcome_ofText_and_solve hall
  exact ⟨hall, hconvert, value, hsolve⟩

end Calculator.Expr
