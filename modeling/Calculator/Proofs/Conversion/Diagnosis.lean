import Calculator.Proofs.Conversion.Acceptance

/-!
# What is said of a text that is not converted

A conversion that fails tells what is wrong with the first lexeme that is at fault
(`FirstFault`), whatever else is wrong behind it. Only if no lexeme is at fault is a
parenthesis reported that stays open, and then the last of them (`LastOpen`).

    outcome_ofText_eq_error_iff :
      (Rpn.ofText text).outcome = .error e ↔ Diagnosis text e ∧ e.PointsInto text

The invariant is `Opens`: the parentheses between two that are open, and behind the
last of these, are paired.
-/

namespace Calculator

/-! ### Parentheses that stay open -/

/-- A parenthesis that opens directly in front of `after` is not closed in it. -/
def StaysOpen (after : List Char) : Prop :=
  ∀ before, before <+: after → before.count ')' ≤ before.count '('

/-- Every parenthesis that opens in `cs` is closed in it. -/
def NoneOpen (cs : List Char) : Prop :=
  ∀ before after, cs = before ++ '(' :: after → ¬StaysOpen after

/-- Of the parentheses of `cs` that stay open, the last is the one behind `before`. -/
def LastOpen (cs before : List Char) : Prop :=
  ∃ after, cs = before ++ '(' :: after ∧ StaysOpen after ∧ NoneOpen after

theorem LastOpen.not_noneOpen {cs before : List Char} (h : LastOpen cs before) : ¬NoneOpen cs := by
  obtain ⟨after, hcs, hopen, -⟩ := h
  exact fun hnone => hnone before after hcs hopen

theorem LastOpen.unique {cs before before' : List Char} (h : LastOpen cs before)
    (h' : LastOpen cs before') : before = before' := by
  obtain ⟨after, rfl, hopen, hnone⟩ := h
  obtain ⟨after', hcs, hopen', hnone'⟩ := h'
  rcases List.append_eq_append_iff.mp hcs with ⟨ds, hbefore, hds⟩ | ⟨ds, hbefore, hds⟩
  · cases ds with
    | nil => simpa using hbefore.symm
    | cons d ds =>
      obtain ⟨-, rfl⟩ := List.cons.inj hds
      exact absurd hopen' (hnone ds after' rfl)
  · cases ds with
    | nil => simpa using hbefore
    | cons d ds =>
      obtain ⟨-, rfl⟩ := List.cons.inj hds
      exact absurd hopen (hnone' ds after rfl)

namespace Balances

/-- What balances changes nothing for what follows it. -/
theorem append_right_iff {cs rest : List Char} (h : Balances 0 cs) (n : Nat) :
    Balances n (cs ++ rest) ↔ Balances n rest := by
  obtain ⟨hcs, hall⟩ := h
  constructor
  · rintro ⟨hbefore, hall'⟩
    simp only [List.count_append] at hall'
    refine ⟨fun before hprefix => ?_, by omega⟩
    have := hbefore (cs ++ before) ((List.prefix_append_right_inj cs).mpr hprefix)
    simp only [List.count_append] at this
    omega
  · rintro ⟨hbefore, hall'⟩
    simp only [Balances, List.count_append]
    refine ⟨fun before hprefix => ?_, by omega⟩
    obtain ⟨after, hafter⟩ := hprefix
    rcases List.append_eq_append_iff.mp hafter with ⟨ds, rfl, -⟩ | ⟨ds, rfl, rfl⟩
    · have := hcs before (List.prefix_append before ds)
      omega
    · have := hbefore ds (List.prefix_append ds after)
      simp only [List.count_append]
      omega

theorem append {cs ds : List Char} (hcs : Balances 0 cs) (hds : Balances 0 ds) :
    Balances 0 (cs ++ ds) :=
  (hcs.append_right_iff 0).mpr hds

theorem paren {cs : List Char} (h : Balances 0 cs) : Balances 0 ('(' :: (cs ++ [')'])) :=
  (paren_iff (fun n _ => h.append_right_iff n) []).mpr (nil_iff.mpr rfl)

theorem of_ne_paren {cs : List Char} (h : ∀ c ∈ cs, c ≠ '(' ∧ c ≠ ')') : Balances 0 cs := by
  rw [← List.append_nil cs, append_iff h]
  exact nil_iff.mpr rfl

theorem staysOpen {cs : List Char} (h : Balances 0 cs) : StaysOpen cs := by
  simpa [StaysOpen] using h.1

theorem noneOpen {cs : List Char} (h : Balances 0 cs) : NoneOpen cs := by
  rintro before after rfl hopen
  obtain ⟨hbefore, hall⟩ := h
  have hle := hbefore before (List.prefix_append _ _)
  have hle' := hopen after List.prefix_rfl
  have hne : '(' ≠ ')' := by decide
  simp only [List.count_append, List.count_cons_self, List.count_cons_of_ne hne] at hall
  omega

end Balances

/-! ### Lexemes at fault -/

/-- The number of bytes in front of what follows `before`. -/
def byteOffset (before : List Char) : Nat :=
  (String.ofList before).utf8ByteSize

/-- `l.Fault before e`: behind `before`, the lexeme `l` is at fault, and `e` tells what is wrong
with it. -/
inductive Lexeme.Fault (before : List Char) : Lexeme → ParseError → Prop
  | character {c : Char} :
    ¬IsExprChar c → Fault before (symbol c) (.invalidCharacter c (byteOffset before))
  | number {cs : List Char} :
    (∀ c ∈ cs, c.isDigit = false) ∨ 2 ≤ cs.count '.' →
      Fault before (number cs) (.invalidNumber (String.ofList cs) (byteOffset before))
  | name {letters : List Char} {called : Bool} :
    (∀ f : Func, letters ≠ f.name.toList) ∨ called = false →
      Fault before (name letters called)
        (.unknownFunction (String.ofList letters) (byteOffset before))
  | closing :
    NoneOpen before → Fault before (symbol ')') (.unbalancedParen (byteOffset before))

namespace Lexeme

/-- `FirstFault before ls e`: of the lexemes `ls` behind `before`, the first at fault is the one of
which `e` tells what is wrong. -/
inductive FirstFault : List Char → List Lexeme → ParseError → Prop
  | here {before : List Char} {l : Lexeme} {ls : List Lexeme} {e : ParseError} :
    l.Fault before e → FirstFault before (l :: ls) e
  | behind {before : List Char} {l : Lexeme} {ls : List Lexeme} {e : ParseError} :
    (∀ e', ¬l.Fault before e') → FirstFault (before ++ l.chars) ls e → FirstFault before (l :: ls) e

theorem FirstFault.exists_mem {before : List Char} {ls : List Lexeme} {e : ParseError}
    (h : FirstFault before ls e) : ∃ l ∈ ls, ∃ front, l.Fault front e := by
  induction h with
  | here hfault => exact ⟨_, List.mem_cons_self, _, hfault⟩
  | behind _ _ ih =>
    obtain ⟨l, hl, front, hfault⟩ := ih
    exact ⟨l, List.mem_cons_of_mem _ hl, front, hfault⟩

end Lexeme

/-- The byte offset to which an error points. -/
def ParseError.position : ParseError → Nat
  | invalidCharacter _ position => position
  | unbalancedParen position => position
  | unknownFunction _ position => position
  | invalidNumber _ position => position

/-- What stands where an error points: the text that it quotes, or a parenthesis. -/
def ParseError.Quotes : ParseError → String → Prop
  | invalidCharacter c _, quoted => quoted = c.toString
  | unbalancedParen _, quoted => quoted = "(" ∨ quoted = ")"
  | unknownFunction name _, quoted => quoted = name
  | invalidNumber number _, quoted => quoted = number

/-- Read from the byte offset of the error, `text` goes on with what the error quotes; and what
comes before is ASCII. -/
def ParseError.PointsInto (e : ParseError) (text : String) : Prop :=
  ∃ before quoted after, text = before ++ quoted ++ after ∧ before.utf8ByteSize = e.position ∧
    (∀ c ∈ before.toList, c.toNat < 128) ∧ e.Quotes quoted

open Lexeme

/-- `Diagnosis text e`: cut into lexemes, `text` has a first one at fault, described by `e`; or
there is none, and `e` is the last parenthesis that stays open. -/
def Diagnosis (text : String) (e : ParseError) : Prop :=
  ∃ ls, ls.flatMap chars = text.toList ∧ Tidy none ls ∧
    (FirstFault [] ls e ∨
      (∀ e', ¬FirstFault [] ls e') ∧
        ∃ before, LastOpen text.toList before ∧ e = .unbalancedParen (byteOffset before))

namespace Conversion

/-! ### Open parentheses -/

/-- `Opens before groups`: of the parentheses of `before`, those of `groups` stay open. -/
inductive Opens : List Char → List Group → Prop
  | nil {before : List Char} : Balances 0 before → Opens before []
  | cons {before inner : List Char} {outer : List Pending} {groups : List Group} :
    Opens before groups → Balances 0 inner →
      Opens (before ++ '(' :: inner) (⟨byteOffset before, outer⟩ :: groups)

theorem Opens.append {before cs : List Char} {groups : List Group} (h : Opens before groups)
    (hcs : Balances 0 cs) : Opens (before ++ cs) groups := by
  cases h with
  | nil hbefore => exact .nil (hbefore.append hcs)
  | cons hbefore hinner =>
    rw [List.append_assoc, List.cons_append]
    exact .cons hbefore (hinner.append hcs)

theorem Opens.close {before : List Char} {group : Group} {groups : List Group}
    (h : Opens before (group :: groups)) : Opens (before ++ [')']) groups := by
  cases h with
  | cons hbefore hinner =>
    rw [List.append_assoc, List.cons_append]
    exact hbefore.append hinner.paren

theorem Opens.lastOpen {before : List Char} {group : Group} {groups : List Group}
    (h : Opens before (group :: groups)) :
    ∃ cs, LastOpen before cs ∧ group.position = byteOffset cs := by
  cases h with
  | cons hbefore hinner => exact ⟨_, ⟨_, rfl, hinner.staysOpen, hinner.noneOpen⟩, rfl⟩

theorem Opens.noneOpen_iff {before : List Char} {groups : List Group} (h : Opens before groups) :
    NoneOpen before ↔ groups = [] := by
  cases groups with
  | nil =>
    cases h with
    | nil hbefore => simp [hbefore.noneOpen]
  | cons group groups =>
    obtain ⟨cs, hlast, -⟩ := h.lastOpen
    simp [hlast.not_noneOpen]

/-- A lexeme that is taken opens or closes a parenthesis, or leaves the open ones alone. -/
theorem Takes.opens {s s' : State} {before : List Char} {l : Lexeme} {previous next : Option Char}
    (h : Takes s (byteOffset before) l s') (hfits : l.Fits previous next)
    (hopens : Opens before s.groups) : Opens (before ++ l.chars) s'.groups := by
  have hother : l.IsSound → l ≠ symbol '(' → l ≠ symbol ')' → Balances 0 l.chars :=
    fun hsound hopening hclosing => Balances.of_ne_paren (hsound.ne_paren hopening hclosing)
  cases h with
  | number hnum =>
    have hsound := (isSome_ofText?_iff_isSound hfits).mp hnum
    exact hopens.append (hother hsound (by simp) (by simp))
  | function f => exact hopens.append (hother (.function f) (by simp) (by simp))
  | opening => exact .cons hopens (Balances.nil_iff.mpr rfl)
  | closing hg =>
    rw [hg] at hopens
    exact hopens.close
  | operator op =>
    have hne : symbol op.symbol ≠ symbol '(' ∧ symbol op.symbol ≠ symbol ')' := by
      cases op <;> decide
    exact hopens.append (hother (.operator op) hne.1 hne.2)

end Conversion

/-! ### One lexeme -/

namespace Conversion

variable {s : State} {before : List Char} {l : Lexeme} {previous next : Option Char}

/-- A lexeme at fault ends the conversion with what is wrong with it. -/
theorem outcome_step_of_fault {e : ParseError} (h : l.Fault before e)
    (hfits : l.Fits previous next) (hopens : Opens before s.groups) :
    (s.step (byteOffset before, l)).outcome = .error e := by
  cases h with
  | @character c hc =>
    have hop : Operator.ofChar? c = none := by
      rw [Option.eq_none_iff_forall_ne_some]
      rintro op hop
      rw [Operator.ofChar?_eq_some_iff.mp hop] at hc
      exact hc (.inr (.inr (by cases op <;> decide)))
    have hopening : c ≠ '(' := by
      rintro rfl
      exact hc (.inr (.inr (by decide)))
    have hclosing : c ≠ ')' := by
      rintro rfl
      exact hc (.inr (.inr (by decide)))
    simp [State.step, State.symbol, hopening, hclosing, hop, Except.bind]
  | @number cs h =>
    have hnum : ¬(Numeral.ofText? (String.ofList cs)).isSome = true := by
      rw [isSome_ofText?_iff_isSound hfits, hfits.isSound_number_iff]
      rintro ⟨⟨c, hc, hdigit⟩, hcount⟩
      rcases h with hnone | htwo
      · rw [hnone c hc] at hdigit
        cases hdigit
      · omega
    simp only [State.step, State.number, if_neg hnum, Logged.outcome_fail]
  | @name letters called h =>
    show (s.name (byteOffset before) (String.ofList letters) called).outcome = _
    unfold State.name
    split
    · next f hf =>
      rcases h with hne | hcalled
      · rw [Func.ofName?_eq_some_iff] at hf
        exact absurd (by rw [← hf, String.toList_ofList]) (hne f)
      · cases hcalled
    · rfl
  | closing hnone => exact State.outcome_closeParen_of_nil (hopens.noneOpen_iff.mp hnone) _

/-- A lexeme that is not at fault is taken. -/
theorem exists_takes_of_not_fault (h : ∀ e, ¬l.Fault before e) (hfits : l.Fits previous next)
    (hopens : Opens before s.groups) : ∃ m, Takes s (byteOffset before) l m := by
  cases l with
  | number cs =>
    refine ⟨_, .number ((isSome_ofText?_iff_isSound hfits).mpr (hfits.isSound_number_iff.mpr ?_))⟩
    have hfault := not_or.mp fun hfault => h _ (.number hfault)
    simpa [Nat.lt_succ_iff] using hfault
  | name letters called =>
    have hfault := not_or.mp fun hfault => h _ (.name hfault)
    simp only [not_forall, not_not, Bool.not_eq_false] at hfault
    obtain ⟨⟨f, rfl⟩, rfl⟩ := hfault
    exact ⟨_, .function f⟩
  | symbol c =>
    have hc : IsExprChar c := not_not.mp fun hc => h _ (.character hc)
    rcases hfits.symbol_cases hc with rfl | rfl | ⟨op, rfl⟩
    · exact ⟨_, .opening⟩
    · cases hg : s.groups with
      | nil => exact absurd (.closing (hopens.noneOpen_iff.mpr hg)) (h _)
      | cons group groups => exact ⟨_, .closing hg⟩
    · exact ⟨_, .operator op⟩

/-! ### Many lexemes -/

theorem byteOffset_append (before : List Char) (l : Lexeme) :
    byteOffset (before ++ l.chars) = byteOffset before + l.size := by
  have hsize : ∀ cs : List Char, byteOffset cs = (cs.map Char.utf8Size).sum := by
    intro cs
    induction cs with
    | nil => rfl
    | cons c cs ih =>
      have hcons : String.ofList (c :: cs) = String.singleton c ++ String.ofList cs := by
        rw [← List.singleton_append, String.ofList_append]
        rfl
      rw [byteOffset, hcons, String.utf8ByteSize_append, String.utf8ByteSize_singleton,
        ← byteOffset, ih]
      rfl
  simp [hsize, Lexeme.size]

theorem outcome_run_of_firstFault {ls : List Lexeme} {e : ParseError} (h : FirstFault before ls e)
    (htidy : Tidy previous ls) (hopens : Opens before s.groups) :
    (s.run (place (byteOffset before) ls)).outcome = .error e := by
  induction h generalizing s previous with
  | here hfault =>
    rw [outcome_run_cons, outcome_step_of_fault hfault htidy.1 hopens]
    rfl
  | @behind before l ls e hnone _ ih =>
    obtain ⟨m, htakes⟩ := exists_takes_of_not_fault hnone htidy.1 hopens
    have hrest := ih htidy.2 (htakes.opens htidy.1 hopens)
    rw [byteOffset_append] at hrest
    rw [outcome_run_cons, outcome_step_iff.mpr htakes]
    exact hrest

theorem exists_reads_of_not_firstFault {ls : List Lexeme} (h : ∀ e, ¬FirstFault before ls e)
    (htidy : Tidy previous ls) (hopens : Opens before s.groups) :
    ∃ s', Reads s (byteOffset before) ls s' ∧ Opens (before ++ ls.flatMap chars) s'.groups := by
  induction ls generalizing s before previous with
  | nil => exact ⟨s, reads_nil_iff.mpr rfl, by simpa using hopens⟩
  | cons l ls ih =>
    have hl : ∀ e, ¬l.Fault before e := fun e hfault => h e (.here hfault)
    obtain ⟨m, htakes⟩ := exists_takes_of_not_fault hl htidy.1 hopens
    obtain ⟨s', hreads, hs'⟩ :=
      ih (fun e hfirst => h e (.behind hl hfirst)) htidy.2 (htakes.opens htidy.1 hopens)
    rw [byteOffset_append] at hreads
    refine ⟨s', reads_cons_iff.mpr ⟨m, htakes, hreads⟩, ?_⟩
    simpa using hs'

/-! ### The whole text -/

theorem outcome_ofText_of_firstFault {text : String} {e : ParseError}
    (h : FirstFault [] (Lexeme.ofText text) e) : (Rpn.ofText text).outcome = .error e := by
  have hopens : Opens [] State.start.groups := .nil (Balances.nil_iff.mpr rfl)
  have hrun := outcome_run_of_firstFault h (tidy_cut none text.toList) hopens
  simp only [Rpn.ofText, Logged.outcome_bind]
  rw [show (0 : Nat) = byteOffset [] from rfl, hrun]
  rfl

theorem outcome_ofText_of_not_firstFault {text : String}
    (h : ∀ e, ¬FirstFault [] (Lexeme.ofText text) e) :
    (∃ tokens, (Rpn.ofText text).outcome = .ok tokens ∧ NoneOpen text.toList) ∨
    ∃ before, (Rpn.ofText text).outcome = .error (.unbalancedParen (byteOffset before)) ∧
      LastOpen text.toList before := by
  have hopens : Opens [] State.start.groups := .nil (Balances.nil_iff.mpr rfl)
  obtain ⟨s, hreads, hs⟩ := exists_reads_of_not_firstFault h (tidy_cut none text.toList) hopens
  rw [List.nil_append, Lexeme.ofText, flatMap_chars_cut] at hs
  have hout : (Rpn.ofText text).outcome = (s.finish text).outcome := by
    simp only [Rpn.ofText, Logged.outcome_bind]
    rw [show (0 : Nat) = byteOffset [] from rfl, show _ = _ from hreads]
    rfl
  rw [hout]
  cases hg : s.groups with
  | nil => exact .inl ⟨_, State.outcome_finish_of_nil hg text, hs.noneOpen_iff.mpr hg⟩
  | cons group groups =>
    rw [hg] at hs
    obtain ⟨before, hlast, hposition⟩ := hs.lastOpen
    rw [State.outcome_finish_of_groups hg, hposition]
    exact .inr ⟨before, rfl, hlast⟩

/-- What is reported is wrong with some lexeme, or it is a parenthesis that stays open. -/
theorem exists_fault_of_outcome_ofText {text : String} {e : ParseError}
    (h : (Rpn.ofText text).outcome = .error e) :
    (∃ l ∈ Lexeme.ofText text, ∃ before, l.Fault before e) ∨
      ∃ position, e = .unbalancedParen position := by
  by_cases hfirst : ∃ e', FirstFault [] (Lexeme.ofText text) e'
  · obtain ⟨e', hfirst⟩ := hfirst
    rw [outcome_ofText_of_firstFault hfirst] at h
    cases h
    exact .inl hfirst.exists_mem
  · rcases outcome_ofText_of_not_firstFault (not_exists.mp hfirst) with
      ⟨tokens, hok, -⟩ | ⟨before, herror, -⟩
    · rw [hok] at h
      cases h
    · rw [herror] at h
      cases h
      exact .inr ⟨_, rfl⟩

end Conversion

/-! ### Where the error points -/

theorem IsExprChar.toNat_lt {c : Char} (h : IsExprChar c) : c.toNat < 128 := by
  have hle : ∀ {d : Char}, d.val ≤ 'z'.val → d.toNat < 128 :=
    fun hd => Nat.lt_of_le_of_lt (UInt32.le_iff_toNat_le.mp hd) (by decide)
  rcases h with hdigit | hlower | hmem
  · simp only [Char.isDigit, Bool.and_eq_true, decide_eq_true_eq] at hdigit
    exact hle (UInt32.le_trans hdigit.2 (by decide))
  · have hletter : (decide (c.val ≥ 'a'.val) && decide (c.val ≤ 'z'.val)) = true := hlower
    rw [Bool.and_eq_true, decide_eq_true_iff, decide_eq_true_iff] at hletter
    exact hle hletter.2
  · have hall : ['.', '(', ')', '+', '-', '*', '/', '^'].all (·.toNat < 128) = true := by decide
    exact of_decide_eq_true (List.all_eq_true.mp hall c hmem)

namespace Lexeme

theorem isExprChar_of_not_fault {before : List Char} {l : Lexeme} {previous next : Option Char}
    (h : ∀ e, ¬l.Fault before e) (hfits : l.Fits previous next) :
    ∀ c ∈ l.chars, IsExprChar c := by
  intro c hc
  cases hfits with
  | unsigned hne hall => exact isExprChar_of_isNumberChar (hall c hc)
  | signed hsign hall =>
    rcases List.mem_cons.mp hc with rfl | hc
    · exact .inr (.inr (by decide))
    · exact isExprChar_of_isNumberChar (hall c hc)
  | name hne hall => exact .inr (.inl (hall c hc))
  | symbol =>
    rw [List.mem_singleton.mp hc]
    exact not_not.mp fun hchar => h _ (.character hchar)

/-- What is wrong with a lexeme quotes that lexeme, where it is. -/
theorem Fault.quotes {before : List Char} {l : Lexeme} {e : ParseError} (h : l.Fault before e) :
    e.position = byteOffset before ∧ e.Quotes (String.ofList l.chars) := by
  cases h with
  | character => exact ⟨rfl, rfl⟩
  | number => exact ⟨rfl, rfl⟩
  | name => exact ⟨rfl, rfl⟩
  | closing => exact ⟨rfl, .inr rfl⟩

theorem FirstFault.exists_split {before : List Char} {ls : List Lexeme} {e : ParseError}
    {previous : Option Char} (h : FirstFault before ls e) (htidy : Tidy previous ls)
    (hbefore : ∀ c ∈ before, IsExprChar c) :
    ∃ (front : List Char) (l : Lexeme) (after : List Char),
      before ++ ls.flatMap chars = front ++ l.chars ++ after ∧
        (∀ c ∈ front, IsExprChar c) ∧ l.Fault front e := by
  induction h generalizing previous with
  | @here before l ls e hfault => exact ⟨before, l, ls.flatMap chars, by simp, hbefore, hfault⟩
  | @behind before l ls e hnone _ ih =>
    have hl := isExprChar_of_not_fault hnone htidy.1
    have hmem : ∀ c ∈ before ++ l.chars, IsExprChar c := by
      intro c hc
      rcases List.mem_append.mp hc with hc | hc
      · exact hbefore c hc
      · exact hl c hc
    simpa using ih htidy.2 hmem

theorem isExprChar_of_not_firstFault {before : List Char} {ls : List Lexeme}
    {previous : Option Char} (h : ∀ e, ¬FirstFault before ls e) (htidy : Tidy previous ls) :
    ∀ c ∈ ls.flatMap chars, IsExprChar c := by
  induction ls generalizing before previous with
  | nil => simp
  | cons l ls ih =>
    have hl : ∀ e, ¬l.Fault before e := fun e hfault => h e (.here hfault)
    intro c hc
    rcases List.mem_append.mp hc with hc | hc
    · exact isExprChar_of_not_fault hl htidy.1 c hc
    · exact ih (fun e hfirst => h e (.behind hl hfirst)) htidy.2 c hc

end Lexeme

theorem Diagnosis.pointsInto {text : String} {e : ParseError} (h : Diagnosis text e) :
    e.PointsInto text := by
  obtain ⟨ls, hls, htidy, hfirst | ⟨hnone, before, ⟨after, htext, -⟩, rfl⟩⟩ := h
  · obtain ⟨front, l, after, htext, hfront, hfault⟩ := hfirst.exists_split htidy (by simp)
    rw [List.nil_append, hls] at htext
    refine ⟨String.ofList front, String.ofList l.chars, String.ofList after, ?_,
      hfault.quotes.1.symm, ?_, hfault.quotes.2⟩
    · rw [← String.ofList_append, ← String.ofList_append, ← htext, String.ofList_toList]
    · rw [String.toList_ofList]
      exact fun c hc => (hfront c hc).toNat_lt
  · refine ⟨String.ofList before, "(", String.ofList after, ?_, rfl, ?_, .inl rfl⟩
    · rw [← String.ofList_toList (s := text), htext, String.append_assoc]
      simp
    · rw [String.toList_ofList]
      intro c hc
      refine (isExprChar_of_not_firstFault hnone htidy c ?_).toNat_lt
      rw [hls, htext]
      exact List.mem_append_left _ hc

namespace Conversion

/-- A text is not converted just if its first lexeme at fault, or else the last parenthesis that
stays open, is as the error says; and the error points to it. -/
theorem outcome_ofText_eq_error_iff {text : String} {e : ParseError} :
    (Rpn.ofText text).outcome = .error e ↔ Diagnosis text e ∧ e.PointsInto text := by
  have hcut : ∀ ls, ls.flatMap chars = text.toList ∧ Tidy none ls ↔ Lexeme.ofText text = ls :=
    fun ls => cut_eq_iff.symm
  constructor
  · intro h
    have hdiagnosis : Diagnosis text e := by
      refine ⟨Lexeme.ofText text, flatMap_chars_cut none _, tidy_cut none _, ?_⟩
      by_cases hfirst : ∃ e', FirstFault [] (Lexeme.ofText text) e'
      · obtain ⟨e', hfirst⟩ := hfirst
        rw [outcome_ofText_of_firstFault hfirst] at h
        cases h
        exact .inl hfirst
      · have hnone := not_exists.mp hfirst
        rcases outcome_ofText_of_not_firstFault hnone with ⟨_, hok, -⟩ | ⟨before, herror, hlast⟩
        · rw [hok] at h
          cases h
        · rw [herror] at h
          cases h
          exact .inr ⟨hnone, before, hlast, rfl⟩
    exact ⟨hdiagnosis, hdiagnosis.pointsInto⟩
  · rintro ⟨⟨ls, hls, htidy, h⟩, -⟩
    obtain rfl := (hcut ls).mp ⟨hls, htidy⟩
    rcases h with hfirst | ⟨hnone, before, hlast, rfl⟩
    · exact outcome_ofText_of_firstFault hfirst
    · rcases outcome_ofText_of_not_firstFault hnone with ⟨-, -, hclosed⟩ | ⟨before', herror, hlast'⟩
      · exact absurd hclosed hlast.not_noneOpen
      · rw [herror, hlast.unique hlast']

-- The number is at fault in front of the euro sign; the parenthesis is left aside.
example : (Rpn.ofText "(2*1.2.3€").outcome = .error (.invalidNumber "1.2.3" 3) := by rfl

example : (Rpn.ofText "((2)*(3").outcome = .error (.unbalancedParen 5) := by rfl

end Conversion

end Calculator
