import Calculator.Proofs.Conversion.Conservation
import Calculator.Proofs.Conversion.Simulation
import Calculator.Proofs.Lexeme.Cut

/-!
# Putting a text in the place of a number

Where a text that is converted has the number `0`, another such text may stand in
parentheses, with a function in front or not. Of what is written out, only the
token of that number changes:

    Slot.exists_outcome_ofText : Slot p q → … → ∃ before after,
      tokens = before ++ .number "0" :: after ∧ … = .ok (before ++ inner ++ after) ∧ …

The texts need not be expressions. A function in front is written out as soon as an
operator or `)` follows, or the text ends; so nothing else may follow there.
-/

namespace Calculator

namespace Conversion

open Lexeme

/-! ### Functions whose argument has been written out -/

/-- Where an operator or `)` follows, or the end, it makes no difference whether a function is still
held back or has been written out. -/
theorem exists_reads_hold (f : Func) {s s' : State} {offset : Nat} {ls : List Lexeme}
    (hnext : ∀ l ∈ ls.head?, l = symbol ')' ∨ ∃ op : Operator, l = symbol op.symbol)
    (h : Reads { s with output := s.output ++ [Token.function f] } offset ls s') :
    ∃ t, Reads (s.hold (.function f)) offset ls t ∧ t.groups = s'.groups ∧
      t.result = s'.result := by
  cases ls with
  | nil =>
    obtain rfl := reads_nil_iff.mp h
    exact ⟨_, reads_nil_iff.mpr rfl, rfl, by simp [State.result, State.hold, Pending.token]⟩
  | cons l ls =>
    obtain ⟨m, htakes, hrest⟩ := reads_cons_iff.mp h
    refine ⟨s', reads_cons_iff.mpr ⟨m, ?_, hrest⟩, rfl, rfl⟩
    cases htakes with
    | number hnum =>
      rcases hnext _ rfl with hl | ⟨op, hl⟩ <;> cases hl
    | function g =>
      rcases hnext _ rfl with hl | ⟨op, hl⟩ <;> cases hl
    | opening =>
      rcases hnext _ rfl with hl | ⟨op, hl⟩
      · cases hl
      · cases op <;> cases hl
    | closing hg =>
      have hclosing := @Takes.closing (s.hold (.function f)) offset _ _ hg
      simpa [State.hold, Pending.token] using hclosing
    | operator op =>
      have hoperator := @Takes.operator (s.hold (.function f)) offset op
      have hbinds : op.precedence ≤ (Pending.function f).precedence := by
        cases op <;> cases f <;> decide
      simpa [State.hold, Pending.token, hbinds] using hoperator

end Conversion

/-! ### The place of a number -/

open Lexeme

/-- Between `p` and `q`, a digit is a number of its own. -/
structure Slot (p q : String) : Prop where
  left : ∀ c ∈ p.toList.getLast?,
    isNumberChar c = false ∧ isUnaryMinus c p.toList.dropLast.getLast? = false
  right : ∀ c ∈ q.toList.head?, isNumberChar c = false

namespace Slot

variable {p q : String}

theorem ne_number (h : Slot p q) {l : Lexeme} (hl : (Lexeme.ofText p).getLast? = some l)
    (cs : List Char) : l ≠ number cs := by
  rintro rfl
  obtain ⟨ds, d, hp, hadmits⟩ := (tidy_cut none p.toList).exists_getLast? hl
  rw [flatMap_chars_cut] at hp
  obtain ⟨hnum, hminus⟩ := h.left d (by simp [hp])
  rw [hp, List.dropLast_concat] at hminus
  rcases hadmits with hd | hd
  · rw [hnum] at hd
    cases hd
  · rw [Option.or_none, hminus] at hd
    cases hd

/-- Between the lexemes of `p` and those of `q`, `0` is a lexeme. What is in front of `q` is not a
parenthesis that opens, which is all that matters. -/
theorem ofText_zero (h : Slot p q) : Lexeme.ofText (p ++ "0" ++ q) =
    Lexeme.ofText p ++ number ['0'] :: cut (some ')') q.toList := by
  have hlast : ∀ l ∈ (cut none p.toList).getLast?, ∀ c ∈ ('0' :: q.toList).head?,
      l.sticksTo c = false := by
    intro l hl c hc
    cases hc
    cases l with
    | number cs => exact absurd rfl (h.ne_number hl cs)
    | name letters called => rfl
    | symbol d => rfl
  have hzero : (number ['0']).Fits (p.toList.getLast?.or none) q.toList.head? :=
    .unsigned (by simp) (by simp [isNumberChar]) h.right
  have hcut : Lexeme.ofText (p ++ "0" ++ q) = cut none (p.toList ++ '0' :: q.toList) := by
    simp [Lexeme.ofText]
  rw [hcut, cut_append hlast, Lexeme.ofText, cut_congr (some ')') (some '0') rfl]
  exact congrArg _ (cut_of_fits hzero)

end Slot

namespace Conversion

/-- A name at the end of a text is not called. -/
theorem Reads.ne_name {s s' : State} {offset : Nat} {previous : Option Char} {cs : List Char}
    {l : Lexeme} (h : Reads s offset (cut previous cs) s')
    (hl : (cut previous cs).getLast? = some l) (letters : List Char) (called : Bool) :
    l ≠ name letters called := by
  rintro rfl
  obtain ⟨ls, hls⟩ := List.getLast?_eq_some_iff.mp hl
  have htidy := tidy_cut previous cs
  rw [hls] at h htidy
  obtain ⟨m, -, hlast⟩ := reads_append_iff.mp h
  obtain ⟨n, htakes, -⟩ := reads_cons_iff.mp hlast
  have hcalled : called = false := htidy.right.1.called_eq
  rw [hcalled] at htakes
  cases htakes

end Conversion

open Conversion

namespace Slot

variable {p q a : String} {inner tokens : Rpn}

/-- In the place of a number, a text in parentheses is cut as it is on its own. -/
theorem ofText_group (hlast : ∀ l ∈ (Lexeme.ofText p).getLast?, ∀ c, l.sticksTo c = false) :
    Lexeme.ofText (p ++ "(" ++ a ++ ")" ++ q) = Lexeme.ofText p ++
      (symbol '(' :: (Lexeme.ofText a ++ [symbol ')']) ++ cut (some ')') q.toList) := by
  have hcut : Lexeme.ofText (p ++ "(" ++ a ++ ")" ++ q) =
      cut none (p.toList ++ '(' :: (a.toList ++ ')' :: q.toList)) := by
    simp [Lexeme.ofText]
  rw [hcut, cut_append fun l hl c _ => hlast l hl c, cut_paren]
  simp [Lexeme.ofText]

theorem ofText_call (hlast : ∀ l ∈ (Lexeme.ofText p).getLast?, ∀ c, l.sticksTo c = false)
    (f : Func) : Lexeme.ofText (p ++ f.name ++ "(" ++ a ++ ")" ++ q) = Lexeme.ofText p ++
      (name f.name.toList true :: symbol '(' :: (Lexeme.ofText a ++ [symbol ')']) ++
        cut (some ')') q.toList) := by
  have hcut : Lexeme.ofText (p ++ f.name ++ "(" ++ a ++ ")" ++ q) =
      cut none (p.toList ++ (f.name.toList ++ '(' :: (a.toList ++ ')' :: q.toList))) := by
    simp [Lexeme.ofText]
  rw [hcut, cut_append fun l hl c _ => hlast l hl c, cut_call]
  simp [Lexeme.ofText]

/-- Where `)` or an operator follows a parenthesis, it is a lexeme of its own. -/
theorem head?_cut_of_closing (h : ∀ c ∈ q.toList.head?, c = ')' ∨ (Operator.ofChar? c).isSome) :
    ∀ l ∈ (cut (some ')') q.toList).head?,
      l = symbol ')' ∨ ∃ op : Operator, l = symbol op.symbol := by
  intro l hl
  cases hq : q.toList with
  | nil => simp [hq, cut] at hl
  | cons c cs =>
    rw [hq] at hl h
    rcases h c rfl with rfl | hop
    · rw [cut_closing] at hl
      cases hl
      exact .inl rfl
    · obtain ⟨op, hop⟩ := Option.isSome_iff_exists.mp hop
      obtain rfl := Operator.ofChar?_eq_some_iff.mp hop
      rw [cut_operator (isUnaryMinus_some (by decide))] at hl
      cases hl
      exact .inr ⟨op, rfl⟩

/-- The conversion of `p`, the number `0` and `q` is in the state `m` in front of the number, and in
`s` when it succeeds. -/
structure Passes (p q : String) (m s : State) : Prop where
  left : Reads .start 0 (Lexeme.ofText p) m
  last : ∀ l ∈ (Lexeme.ofText p).getLast?, ∀ c, l.sticksTo c = false
  right : ∃ offset, Reads { m with output := m.output ++ [Token.number "0"] } offset
    (cut (some ')') q.toList) s
  groups : s.groups = []

theorem exists_passes (hslot : Slot p q)
    (h : (Rpn.ofText (p ++ "0" ++ q)).outcome = .ok tokens) :
    ∃ m s, Passes p q m s ∧ tokens = s.result := by
  obtain ⟨s, hs, hgroups, htokens⟩ := outcome_ofText_iff.mp h
  rw [hslot.ofText_zero] at hs
  obtain ⟨m, hm, hzero⟩ := reads_append_iff.mp hs
  obtain ⟨m', htakes, hq⟩ := reads_cons_iff.mp hzero
  cases htakes
  -- Neither a number nor a name is in front of the place, so nothing there changes.
  have hlast : ∀ l ∈ (Lexeme.ofText p).getLast?, ∀ c, l.sticksTo c = false := by
    intro l hl c
    cases l with
    | number cs => exact absurd rfl (hslot.ne_number hl cs)
    | name letters called => exact absurd rfl (hm.ne_name hl letters called)
    | symbol d => rfl
  exact ⟨m, s, ⟨hm, hlast, ⟨_, hq⟩, hgroups⟩, htokens⟩

theorem Passes.outcome_group {m s : State} {after : List Token} (h : Passes p q m s)
    (hafter : s.result = m.output.toList ++ [Token.number "0"] ++ after)
    (hinner : (Rpn.ofText a).outcome = .ok inner) :
    (Rpn.ofText (p ++ "(" ++ a ++ ")" ++ q)).outcome =
      .ok (m.output.toList ++ inner ++ after) := by
  obtain ⟨offset, hq⟩ := h.right
  obtain ⟨t, ht, hout, hheld, houters⟩ := exists_reads_group hinner m _
  have hlike : Alike (m.output.toList ++ [Token.number "0"]) (m.output.toList ++ inner) []
      { m with output := m.output ++ [Token.number "0"] } t :=
    ⟨⟨[], by simp, by simp [hout]⟩, hheld, by simpa using houters⟩
  obtain ⟨t', ht', hend, hresult⟩ := hlike.exists_end hq h.groups hafter _
  refine outcome_ofText_iff.mpr ⟨t', ?_, hend, hresult.symm⟩
  rw [ofText_group h.last]
  exact reads_append_iff.mpr ⟨m, h.left, reads_append_iff.mpr ⟨t, ht, ht'⟩⟩

theorem Passes.outcome_call {m s : State} {after : List Token} (h : Passes p q m s)
    (hafter : s.result = m.output.toList ++ [Token.number "0"] ++ after)
    (hinner : (Rpn.ofText a).outcome = .ok inner)
    (hnext : ∀ c ∈ q.toList.head?, c = ')' ∨ (Operator.ofChar? c).isSome) (f : Func) :
    (Rpn.ofText (p ++ f.name ++ "(" ++ a ++ ")" ++ q)).outcome =
      .ok (m.output.toList ++ inner ++ .function f :: after) := by
  obtain ⟨offset, hq⟩ := h.right
  obtain ⟨t, ht, hout, hheld, houters⟩ := exists_reads_call hinner f m _
  -- What follows tells the function to be written out, so it may as well be so already.
  have hlike : Alike (m.output.toList ++ [Token.number "0"])
      (m.output.toList ++ inner ++ [Token.function f]) []
      { m with output := m.output ++ [Token.number "0"] }
      { t with output := t.output ++ [Token.function f] } :=
    ⟨⟨[], by simp, by simp [hout]⟩, hheld, by simpa using houters⟩
  obtain ⟨u, hu, hend, hresult⟩ := hlike.exists_end hq h.groups hafter _
  obtain ⟨t', ht', hend', hresult'⟩ := exists_reads_hold f (head?_cut_of_closing hnext) hu
  refine outcome_ofText_iff.mpr ⟨t', ?_, hend'.trans hend, ?_⟩
  · rw [ofText_call h.last]
    exact reads_append_iff.mpr ⟨m, h.left, reads_append_iff.mpr ⟨_, ht, ht'⟩⟩
  · rw [hresult', hresult]
    simp

/-- Where a text that is converted has the number `0`, another such text may be put in parentheses,
and a function in front of them unless an operand follows. What is written out changes in the place
of that number only, which is behind the numbers of `p`. -/
theorem exists_outcome_ofText (hslot : Slot p q) (hinner : (Rpn.ofText a).outcome = .ok inner)
    (h : (Rpn.ofText (p ++ "0" ++ q)).outcome = .ok tokens) :
    ∃ before after, tokens = before ++ .number "0" :: after ∧
      before.filterMap Token.number? = (Lexeme.ofText p).filterMap Lexeme.number? ∧
      (Rpn.ofText (p ++ "(" ++ a ++ ")" ++ q)).outcome = .ok (before ++ inner ++ after) ∧
      ((∀ c ∈ q.toList.head?, c = ')' ∨ (Operator.ofChar? c).isSome) → ∀ f : Func,
        (Rpn.ofText (p ++ f.name ++ "(" ++ a ++ ")" ++ q)).outcome =
          .ok (before ++ inner ++ .function f :: after)) := by
  obtain ⟨m, s, hpasses, rfl⟩ := hslot.exists_passes h
  obtain ⟨offset, hq⟩ := hpasses.right
  obtain ⟨after, hafter⟩ :
      ∃ after, s.result = m.output.toList ++ [Token.number "0"] ++ after := by
    simpa using hq.exists_result
  have hnumbers : m.output.toList.filterMap Token.number? =
      (Lexeme.ofText p).filterMap Lexeme.number? := by
    simpa [State.start] using hpasses.left.filterMap_number?
  refine ⟨m.output.toList, after, by simpa using hafter, hnumbers, ?_, ?_⟩
  · exact hpasses.outcome_group hafter hinner
  · intro hnext f
    exact hpasses.outcome_call hafter hinner hnext f

/-- Neither text is an expression: operands stand side by side, and operators lack their last
ones. -/
theorem exists_outcome_ofText_juxtaposed :
    Slot "2(3+" ")*4-" ∧
      (Rpn.ofText "-1sin(5)^").outcome =
        .ok [.number "-1", .number "5", .function .sin, .operator .power] ∧
      (Rpn.ofText ("2(3+" ++ "0" ++ ")*4-")).outcome = .ok [.number "2", .number "3", .number "0",
        .operator .plus, .number "4", .operator .times, .operator .minus] ∧
      ∃ before after : Rpn, [Token.number "2", .number "3", .number "0", .operator .plus,
          .number "4", .operator .times, .operator .minus] = before ++ .number "0" :: after ∧
        before.filterMap Token.number? = ["2", "3"] ∧
        ∀ f : Func, (Rpn.ofText ("2(3+" ++ f.name ++ "(" ++ "-1sin(5)^" ++ ")" ++ ")*4-")).outcome =
          .ok (before ++ [.number "-1", .number "5", .function .sin, .operator .power] ++
            .function f :: after) := by
  have hslot : Slot "2(3+" ")*4-" :=
    ⟨by simp [isNumberChar, isUnaryMinus], by simp [isNumberChar]⟩
  have hinner : (Rpn.ofText "-1sin(5)^").outcome =
      .ok [.number "-1", .number "5", .function .sin, .operator .power] := rfl
  have htokens : (Rpn.ofText ("2(3+" ++ "0" ++ ")*4-")).outcome = .ok [.number "2", .number "3",
      .number "0", .operator .plus, .number "4", .operator .times, .operator .minus] := rfl
  obtain ⟨before, after, hsplit, hbefore, -, hcall⟩ :=
    exists_outcome_ofText hslot hinner htokens
  exact ⟨hslot, hinner, htokens, before, after, hsplit, hbefore, hcall (by simp)⟩

end Slot

end Calculator
