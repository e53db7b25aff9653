import Calculator.Proofs.Conversion.Transition
import Calculator.Proofs.Lexeme.Cut
import Calculator.Proofs.Numeral.Plain

/-!
# Which lexemes a conversion accepts

A conversion looks at every lexeme on its own, and at how parentheses pair. So it
succeeds just if every lexeme is sound and the parentheses balance:

    exists_outcome_ofText_iff : (∃ tokens, (Rpn.ofText text).outcome = .ok tokens) ↔
      (∀ l ∈ Lexeme.ofText text, l.IsSound) ∧ Balances 0 text.toList
-/

namespace Calculator

/-! ### Parentheses -/

/-- With `n` parentheses open in front of `cs`, no parenthesis of `cs` closes none, and in the end
all are closed. -/
def Balances (n : Nat) (cs : List Char) : Prop :=
  (∀ before, before <+: cs → before.count ')' ≤ n + before.count '(') ∧
    n + cs.count '(' = cs.count ')'

namespace Balances

theorem nil_iff {n : Nat} : Balances n [] ↔ n = 0 := by
  simp [Balances]

/-- Of the initial parts of a text, the empty one asks for nothing. -/
theorem cons_iff {n : Nat} {c : Char} {cs : List Char} :
    Balances n (c :: cs) ↔
      (∀ before, before <+: cs → (c :: before).count ')' ≤ n + (c :: before).count '(') ∧
        n + (c :: cs).count '(' = (c :: cs).count ')' := by
  refine and_congr_left fun _ => ⟨fun h before hbefore => ?_, fun h before hbefore => ?_⟩
  · exact h (c :: before) (List.cons_prefix_cons.mpr ⟨rfl, hbefore⟩)
  · rcases List.prefix_cons_iff.mp hbefore with rfl | ⟨ds, rfl, hds⟩
    · exact Nat.zero_le _
    · exact h ds hds

theorem opening_iff {n : Nat} {cs : List Char} :
    Balances n ('(' :: cs) ↔ Balances (n + 1) cs := by
  have hne : '(' ≠ ')' := by decide
  rw [cons_iff, Balances]
  simp only [List.count_cons_self, List.count_cons_of_ne hne]
  constructor
  · intro h
    obtain ⟨hbefore, hall⟩ := h
    refine ⟨?_, by omega⟩
    intro ds hds
    have := hbefore ds hds
    omega
  · intro h
    obtain ⟨hbefore, hall⟩ := h
    refine ⟨?_, by omega⟩
    intro ds hds
    have := hbefore ds hds
    omega

theorem closing_iff {n : Nat} {cs : List Char} :
    Balances n (')' :: cs) ↔ ∃ m, n = m + 1 ∧ Balances m cs := by
  have hne : ')' ≠ '(' := by decide
  rw [cons_iff]
  simp only [List.count_cons_self, List.count_cons_of_ne hne]
  constructor
  · intro h
    obtain ⟨hbefore, hall⟩ := h
    have hpos := hbefore [] List.nil_prefix
    simp only [List.count_nil] at hpos
    refine ⟨n - 1, by omega, ?_, by omega⟩
    intro ds hds
    have := hbefore ds hds
    omega
  · rintro ⟨m, rfl, hbefore, hall⟩
    refine ⟨?_, by omega⟩
    intro ds hds
    have := hbefore ds hds
    omega

theorem other_iff {n : Nat} {c : Char} {cs : List Char} (h : c ≠ '(' ∧ c ≠ ')') :
    Balances n (c :: cs) ↔ Balances n cs := by
  rw [cons_iff, Balances]
  simp only [List.count_cons_of_ne h.1, List.count_cons_of_ne h.2]

theorem append_iff {n : Nat} {cs rest : List Char} (h : ∀ c ∈ cs, c ≠ '(' ∧ c ≠ ')') :
    Balances n (cs ++ rest) ↔ Balances n rest := by
  induction cs with
  | nil => rfl
  | cons c cs ih =>
    rw [List.cons_append, other_iff (h c List.mem_cons_self)]
    exact ih fun d hd => h d (List.mem_cons_of_mem c hd)

/-- What balances on its own may be put in parentheses. -/
theorem paren_iff {n : Nat} {cs : List Char}
    (h : ∀ (n : Nat) (rest : List Char), Balances n (cs ++ rest) ↔ Balances n rest)
    (rest : List Char) : Balances n ('(' :: (cs ++ ')' :: rest)) ↔ Balances n rest := by
  rw [opening_iff, h, closing_iff]
  constructor
  · intro h
    obtain ⟨m, hm, hrest⟩ := h
    rwa [Nat.add_right_cancel hm]
  · exact fun hrest => ⟨n, rfl, hrest⟩

end Balances

/-! ### Sound lexemes -/

/-- The characters of expressions. -/
def IsExprChar (c : Char) : Prop :=
  c.isDigit = true ∨ c.isLower = true ∨ c ∈ ['.', '(', ')', '+', '-', '*', '/', '^']

namespace Lexeme

/-- A lexeme that can occur in an expression. -/
inductive IsSound : Lexeme → Prop
  | unsigned {cs : List Char} : IsUnsigned cs → IsSound (number cs)
  | signed {cs : List Char} : IsUnsigned cs → IsSound (number ('-' :: cs))
  | function (f : Func) : IsSound (name f.name.toList true)
  | opening : IsSound (symbol '(')
  | closing : IsSound (symbol ')')
  | operator (op : Operator) : IsSound (symbol op.symbol)

theorem IsSound.of_unsigned {run : List Char} (h : (number run).IsSound)
    (hall : ∀ c ∈ run, isNumberChar c = true) : IsUnsigned run := by
  cases h with
  | unsigned h => exact h
  | signed h => exact absurd (hall '-' List.mem_cons_self) (by decide)

theorem IsSound.of_signed {run : List Char} (h : (number ('-' :: run)).IsSound) :
    IsUnsigned run := by
  cases h with
  | unsigned h => exact absurd (h.1 '-' List.mem_cons_self) (by decide)
  | signed h => exact h

/-- Of the numbers that cutting gives, the sound ones are the numerals. -/
theorem isSome_ofText?_iff_isSound {previous next : Option Char} {cs : List Char}
    (h : (number cs).Fits previous next) :
    (Numeral.ofText? (String.ofList cs)).isSome = true ↔ (number cs).IsSound := by
  cases h with
  | unsigned hne hall =>
    rw [Numeral.isSome_ofText?_iff hall]
    exact ⟨.unsigned, fun hsound => hsound.of_unsigned hall⟩
  | signed hsign hall =>
    rw [Numeral.isSome_ofText?_minus_iff hall]
    exact ⟨.signed, IsSound.of_signed⟩

/-- They have a digit and no second point. -/
theorem Fits.isSound_number_iff {previous next : Option Char} {cs : List Char}
    (h : (number cs).Fits previous next) :
    (number cs).IsSound ↔ (∃ c ∈ cs, c.isDigit = true) ∧ cs.count '.' ≤ 1 := by
  cases h with
  | unsigned hne hall =>
    exact ⟨fun hsound => (hsound.of_unsigned hall).2, fun h => .unsigned ⟨hall, h⟩⟩
  | @signed cs hsign hall =>
    have hminus : (∃ c ∈ '-' :: cs, c.isDigit = true) ↔ ∃ c ∈ cs, c.isDigit = true := by
      simp
    rw [hminus, List.count_cons_of_ne (by decide)]
    exact ⟨fun hsound => hsound.of_signed.2, fun h => .signed ⟨hall, h⟩⟩

/-- A symbol that is a character of expressions is a parenthesis or an operator. -/
theorem Fits.symbol_cases {previous next : Option Char} {c : Char}
    (h : (Lexeme.symbol c).Fits previous next) (hc : IsExprChar c) :
    c = '(' ∨ c = ')' ∨ ∃ op : Operator, c = op.symbol := by
  cases h with
  | symbol hnum hunary hname =>
    rcases hc with hdigit | hlower | hmem
    · simp [isNumberChar, hdigit] at hnum
    · simp [isNameChar, hlower] at hname
    · simp only [List.mem_cons, List.not_mem_nil, or_false] at hmem
      rcases hmem with rfl | rfl | rfl | rfl | rfl | rfl | rfl | rfl
      · exact absurd hnum (by decide)
      · exact .inl rfl
      · exact .inr (.inl rfl)
      · exact .inr (.inr ⟨.plus, rfl⟩)
      · exact .inr (.inr ⟨.minus, rfl⟩)
      · exact .inr (.inr ⟨.times, rfl⟩)
      · exact .inr (.inr ⟨.divide, rfl⟩)
      · exact .inr (.inr ⟨.power, rfl⟩)

theorem isExprChar_of_isNumberChar {c : Char} (h : isNumberChar c = true) : IsExprChar c := by
  rcases (Bool.or_eq_true _ _).mp h with hdigit | hpoint
  · exact .inl hdigit
  · rw [beq_iff_eq.mp hpoint]
    exact .inr (.inr (by decide))

/-- The characters of lexemes that can occur in an expression. -/
theorem IsSound.isExprChar {l : Lexeme} (h : l.IsSound) {c : Char} (hc : c ∈ l.chars) :
    IsExprChar c := by
  cases h with
  | unsigned h => exact isExprChar_of_isNumberChar (h.1 c hc)
  | signed h =>
    rcases List.mem_cons.mp hc with rfl | hc
    · exact .inr (.inr (by decide))
    · exact isExprChar_of_isNumberChar (h.1 c hc)
  | function f => exact .inr (.inl (isNameChar_of_mem_name hc))
  | opening =>
    rw [List.mem_singleton.mp hc]
    exact .inr (.inr (by decide))
  | closing =>
    rw [List.mem_singleton.mp hc]
    exact .inr (.inr (by decide))
  | operator op =>
    rw [List.mem_singleton.mp hc]
    exact .inr (.inr (by cases op <;> decide))

/-- A text of sound lexemes consists of their characters. -/
theorem isExprChar_of_isSound {cs : List Char} (hsound : ∀ l ∈ cut none cs, l.IsSound) :
    ∀ c ∈ cs, IsExprChar c := by
  intro c hc
  obtain ⟨l, hl, hc⟩ := exists_mem_cut none hc
  exact (hsound l hl).isExprChar hc

/-- Parentheses are symbols. -/
theorem IsSound.ne_paren {l : Lexeme} (h : l.IsSound) (hopening : l ≠ symbol '(')
    (hclosing : l ≠ symbol ')') : ∀ c ∈ l.chars, c ≠ '(' ∧ c ≠ ')' := by
  cases h with
  | unsigned h =>
    intro c hc
    exact ⟨ne_of_class (h.1 c hc) rfl, ne_of_class (h.1 c hc) rfl⟩
  | signed h =>
    intro c hc
    rcases List.mem_cons.mp hc with rfl | hc
    · decide
    · exact ⟨ne_of_class (h.1 c hc) rfl, ne_of_class (h.1 c hc) rfl⟩
  | function f =>
    intro c hc
    have hname := isNameChar_of_mem_name hc
    exact ⟨ne_of_class hname rfl, ne_of_class hname rfl⟩
  | opening => exact absurd rfl hopening
  | closing => exact absurd rfl hclosing
  | operator op =>
    intro c hc
    rw [List.mem_singleton.mp hc]
    cases op <;> decide

end Lexeme

namespace Conversion

open Lexeme

/-! ### Acceptance -/

/-- A lexeme is taken just if it is sound and, being `)`, closes an open parenthesis. -/
theorem exists_takes_iff {s : State} {position : Nat} {l : Lexeme} {previous next : Option Char}
    (hfits : l.Fits previous next) (rest : List Char) :
    (∃ m, Takes s position l m ∧ Balances m.groups.length rest) ↔
      l.IsSound ∧ Balances s.groups.length (l.chars ++ rest) := by
  constructor
  · intro h
    obtain ⟨m, htakes, hrest⟩ := h
    cases htakes with
    | number hnum =>
      have hsound := (isSome_ofText?_iff_isSound hfits).mp hnum
      exact ⟨hsound, (Balances.append_iff (hsound.ne_paren (by simp) (by simp))).mpr hrest⟩
    | function f =>
      have hsound := IsSound.function f
      exact ⟨hsound, (Balances.append_iff (hsound.ne_paren (by simp) (by simp))).mpr hrest⟩
    | opening => exact ⟨.opening, Balances.opening_iff.mpr hrest⟩
    | closing hg =>
      exact ⟨.closing, Balances.closing_iff.mpr ⟨_, by rw [hg, List.length_cons], hrest⟩⟩
    | operator op =>
      have hne : op.symbol ≠ '(' ∧ op.symbol ≠ ')' := by cases op <;> decide
      exact ⟨.operator op, (Balances.other_iff hne).mpr hrest⟩
  · intro h
    obtain ⟨hsound, hbalances⟩ := h
    have hother : ∀ {m : State}, Takes s position l m → m.groups = s.groups →
        l ≠ symbol '(' → l ≠ symbol ')' →
          ∃ m, Takes s position l m ∧ Balances m.groups.length rest := by
      intro m htakes hgroups hopening hclosing
      rw [Balances.append_iff (hsound.ne_paren hopening hclosing), ← hgroups] at hbalances
      exact ⟨m, htakes, hbalances⟩
    cases hsound with
    | unsigned h =>
      have hnum := (isSome_ofText?_iff_isSound hfits).mpr (.unsigned h)
      exact hother (.number hnum) rfl (by simp) (by simp)
    | signed h =>
      have hnum := (isSome_ofText?_iff_isSound hfits).mpr (.signed h)
      exact hother (.number hnum) rfl (by simp) (by simp)
    | function f => exact hother (.function f) rfl (by simp) (by simp)
    | opening => exact ⟨_, .opening, Balances.opening_iff.mp hbalances⟩
    | closing =>
      obtain ⟨m, hm, hrest⟩ := Balances.closing_iff.mp hbalances
      obtain ⟨group, groups, hg⟩ := List.exists_cons_of_length_eq_add_one hm
      rw [hg, List.length_cons, Nat.add_right_cancel_iff] at hm
      exact ⟨_, .closing hg, by rwa [hm]⟩
    | operator op =>
      have hne : symbol op.symbol ≠ symbol '(' ∧ symbol op.symbol ≠ symbol ')' := by
        cases op <;> decide
      exact hother (.operator op) rfl hne.1 hne.2

/-- Lexemes lead to a state without open parentheses just if all of them are sound and the
parentheses balance. -/
theorem exists_reads_iff {s : State} {offset : Nat} {previous : Option Char} {ls : List Lexeme}
    (htidy : Tidy previous ls) :
    (∃ s', Reads s offset ls s' ∧ s'.groups = []) ↔
      (∀ l ∈ ls, l.IsSound) ∧ Balances s.groups.length (ls.flatMap chars) := by
  induction ls generalizing s offset previous with
  | nil => simp [reads_nil_iff, Balances.nil_iff]
  | cons l ls ih =>
    rw [List.forall_mem_cons, List.flatMap_cons, and_right_comm, ← exists_takes_iff htidy.1]
    constructor
    · intro h
      obtain ⟨s', hreads, hgroups⟩ := h
      obtain ⟨m, htakes, hrest⟩ := reads_cons_iff.mp hreads
      obtain ⟨hsound, hbalances⟩ := (ih htidy.2).mp ⟨s', hrest, hgroups⟩
      exact ⟨⟨m, htakes, hbalances⟩, hsound⟩
    · intro h
      obtain ⟨⟨m, htakes, hbalances⟩, hsound⟩ := h
      obtain ⟨s', hrest, hgroups⟩ := (ih htidy.2).mpr ⟨hsound, hbalances⟩
      exact ⟨s', reads_cons_iff.mpr ⟨m, htakes, hrest⟩, hgroups⟩

/-- A text is converted just if all its lexemes are sound and its parentheses balance. -/
theorem exists_outcome_ofText_iff {text : String} :
    (∃ tokens, (Rpn.ofText text).outcome = .ok tokens) ↔
      (∀ l ∈ Lexeme.ofText text, l.IsSound) ∧ Balances 0 text.toList := by
  have hreads := @exists_reads_iff .start 0 none _ (tidy_cut none text.toList)
  rw [flatMap_chars_cut] at hreads
  refine Iff.trans ⟨?_, ?_⟩ hreads
  · intro h
    obtain ⟨tokens, h⟩ := h
    obtain ⟨s, hs, hgroups, -⟩ := outcome_ofText_iff.mp h
    exact ⟨s, hs, hgroups⟩
  · intro h
    obtain ⟨s, hs, hgroups⟩ := h
    exact ⟨_, outcome_ofText_iff.mpr ⟨s, hs, hgroups, rfl⟩⟩

/-- A text that is converted consists of characters of expressions. -/
theorem isExprChar_of_outcome_ofText {text : String} {tokens : Rpn}
    (h : (Rpn.ofText text).outcome = .ok tokens) : ∀ c ∈ text.toList, IsExprChar c :=
  isExprChar_of_isSound (exists_outcome_ofText_iff.mp ⟨tokens, h⟩).1

end Conversion

end Calculator
